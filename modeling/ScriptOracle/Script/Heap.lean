import ScriptOracle.Script.Value

/-!
# The heap of a script

Objects, scopes and the jobs that wait for their turn. The objects that every script finds at its
start stand at fixed places; `Heap.start` holds them. They are those that the host gives and those that its
values rest on, not all that the language has.
-/

namespace ScriptOracle.Script

structure Heap where
  objects : Array Object
  scopes : Array Scope
  jobs : List Job

/-- Objects that others take their properties from, and the object of global names. -/
inductive Root where
  | object
  | function
  | list
  | bytes
  | promise
  | text
  | number
  | bool
  | bigint
  | error
  | typeError
  | rangeError
  | referenceError
  | malformedError
  | global
deriving DecidableEq, Repr

namespace Root

def all : List Root := [
  .object, .function, .list, .bytes, .promise, .text, .number, .bool, .bigint, .error, .typeError,
  .rangeError, .referenceError, .malformedError, .global]

def ref : Root -> Ref
  | .object => 0
  | .function => 1
  | .list => 2
  | .bytes => 3
  | .promise => 4
  | .text => 5
  | .number => 6
  | .bool => 7
  | .bigint => 8
  | .error => 9
  | .typeError => 10
  | .rangeError => 11
  | .referenceError => 12
  | .malformedError => 13
  | .global => 14

def proto : Root -> Option Ref
  | .object => none
  | .typeError | .rangeError | .referenceError | .malformedError => some Root.error.ref
  | _ => some Root.object.ref

def ofError : ErrorKind -> Root
  | .error => .error
  | .type => .typeError
  | .range => .rangeError
  | .reference => .referenceError
  | .malformed => .malformedError

end Root

namespace Heap

def get (heap : Heap) (ref : Ref) : Object := heap.objects.getD ref ⟨.plain, none, []⟩

def modify (heap : Heap) (ref : Ref) (change : Object -> Object) : Heap :=
  { heap with objects := heap.objects.modify ref change }

def alloc (heap : Heap) (object : Object) : Heap × Ref :=
  ({ heap with objects := heap.objects.push object }, heap.objects.size)

def allocValue (heap : Heap) (object : Object) : Heap × Value :=
  let (heap, ref) := heap.alloc object
  (heap, .object ref)

def allocFields (heap : Heap) (fields : List (Units × Property)) : Heap × Value :=
  heap.allocValue ⟨.plain, some Root.object.ref, fields⟩

def allocList (heap : Heap) (items : List Value) : Heap × Value :=
  heap.allocValue (.ofKind (.list (items.map some).toArray) Root.list.ref)

def allocBytes (heap : Heap) (content : Bytes) : Heap × Value :=
  heap.allocValue (.ofKind (.bytes content.toArray) Root.bytes.ref)

def allocError (heap : Heap) (kind : ErrorKind) (message : String) : Heap × Value :=
  heap.allocValue
    ((Object.ofKind .error (Root.ofError kind).ref).withValue "message" (.ofText message))

/-- Adds a function with the count of its parameters and its name. -/
def allocFunction (heap : Heap) (function : Function) (arity : Nat) (name : String) :
    Heap × Value :=
  heap.allocValue ⟨.function function, some Root.function.ref,
    [(Units.ofText "length", .data (.int arity) false),
      (Units.ofText "name", .data (.ofText name) false)]⟩

def allocPromise (heap : Heap) (state : PromiseState) : Heap × Ref :=
  heap.alloc (.ofKind (.promise state) Root.promise.ref)

def allocScope (heap : Heap) (scope : Scope) : Heap × Nat :=
  ({ heap with scopes := heap.scopes.push scope }, heap.scopes.size)

def put (heap : Heap) (ref : Ref) (name : Units) (property : Property) : Heap :=
  heap.modify ref fun object => object.put name property

def isCallable (heap : Heap) : Value -> Bool
  | .object ref => (heap.get ref).isCallable
  | _ => false

def function? (heap : Heap) : Value -> Option Function
  | .object ref =>
    match (heap.get ref).kind with
    | .function function => some function
    | _ => none
  | _ => none

/-- Adds a native function as a property of the object at a place. -/
def addNative (heap : Heap) (target : Ref) (name : String) (native : Native) (arity : Nat) : Heap :=
  let (heap, function) := heap.allocFunction (.native native) arity name
  heap.put target (Units.ofText name) (.data function true)

def addNatives (heap : Heap) (target : Ref) (natives : List (String × Native × Nat)) : Heap :=
  natives.foldl (fun heap entry => heap.addNative target entry.1 entry.2.1 entry.2.2) heap

def addGlobal (heap : Heap) (name : String) (value : Value) (writable : Bool) : Heap :=
  heap.put Root.global.ref (Units.ofText name) (.data value writable)

def lookup? (heap : Heap) : Nat -> Ref -> Units -> Option Property
  | 0, _, _ => none
  | fuel + 1, ref, name =>
    let object := heap.get ref
    match object.own? name with
    | some property => some property
    | none =>
      match object.proto with
      | some proto => lookup? heap fuel proto name
      | none => none

def property? (heap : Heap) (ref : Ref) (name : Units) : Option Property :=
  heap.lookup? (heap.objects.size + 1) ref name

def inScope? (heap : Heap) (name : String) : Nat -> Nat -> Option (Nat × Binding)
  | 0, _ => none
  | fuel + 1, place =>
    match heap.scopes[place]? with
    | none => none
    | some scope =>
      match scope.names.lookup name with
      | some binding => some (place, binding)
      | none =>
        match scope.parent with
        | some parent => inScope? heap name fuel parent
        | none => none

def find? (heap : Heap) (scope : Nat) (name : String) : Option (Nat × Binding) :=
  heap.inScope? name (heap.scopes.size + 1) scope

def assignIn (name : String) (value : Value) :
    List (String × Binding) -> List (String × Binding)
  | [] => []
  | (key, binding) :: rest =>
    if key = name then (key, { binding with value := some value }) :: rest
    else (key, binding) :: assignIn name value rest

def assign (heap : Heap) (scope : Nat) (name : String) (value : Value) : Heap :=
  { heap with scopes := heap.scopes.modify scope fun s =>
      { s with names := assignIn name value s.names } }

def enqueue (heap : Heap) (job : Job) : Heap := { heap with jobs := heap.jobs ++ [job] }

def jobOf (reaction : Reaction) (result : Except Value Value) : Job :=
  match reaction with
  | .resume suspension => .resume suspension result
  | .follow promise => .settle promise result

def promiseState? (heap : Heap) : Value -> Option (Ref × PromiseState)
  | .object ref =>
    match (heap.get ref).kind with
    | .promise state => some (ref, state)
    | _ => none
  | _ => none

/-- Ends a promise that is still pending and wakes what waits for it. -/
def conclude (heap : Heap) (promise : Ref) (result : Except Value Value) : Heap :=
  match (heap.get promise).kind with
  | .promise (.pending waiting) =>
    let state := match result with
      | .ok value => .fulfilled value
      | .error reason => .rejected reason
    let heap := heap.modify promise fun object => { object with kind := .promise state }
    { heap with jobs := heap.jobs ++ waiting.map fun reaction => jobOf reaction result }
  | _ => heap

/-- Ends a promise with a value; a promise that is given another one follows it. -/
def resolve (heap : Heap) (promise : Ref) (result : Except Value Value) : Heap :=
  match result with
  | .error reason => heap.conclude promise (.error reason)
  | .ok value =>
    match heap.promiseState? value with
    | some (followed, _) => heap.enqueue (.adopt followed promise)
    | none => heap.conclude promise (.ok value)

def subscribe (heap : Heap) (promise : Ref) (reaction : Reaction) : Heap :=
  match (heap.get promise).kind with
  | .promise (.pending waiting) =>
    heap.modify promise fun object =>
      { object with kind := .promise (.pending (waiting ++ [reaction])) }
  | .promise (.fulfilled value) => heap.enqueue (jobOf reaction (.ok value))
  | .promise (.rejected reason) => heap.enqueue (jobOf reaction (.error reason))
  | _ => heap

def roots : Heap where
  objects := (Root.all.map fun root =>
    match root with
    | .function => ⟨.function (.native .nothing), root.proto, []⟩
    | .list => ⟨.list #[], root.proto, []⟩
    | _ => ⟨.plain, root.proto, []⟩).toArray
  scopes := #[⟨[], none⟩]
  jobs := []

/-- Adds a native function that makes objects, under its name, and ties it to its root. -/
def addConstructor (heap : Heap) (name : String) (native : Native) (arity : Nat) (root : Root) :
    Heap :=
  let (heap, function) := heap.allocFunction (.native native) arity name
  let heap := heap.put root.ref (Units.ofText "constructor") (.data function true)
  let heap := match function with
    | .object ref => heap.put ref (Units.ofText "prototype") (.data (.object root.ref) false)
    | _ => heap
  heap.addGlobal name function true

def addError (heap : Heap) (kind : ErrorKind) : Heap :=
  let root := Root.ofError kind
  let heap := heap.addConstructor kind.name (.error kind) 1 root
  let heap := heap.put root.ref (Units.ofText "name") (.data (.ofText kind.name) true)
  heap.put root.ref (Units.ofText "message") (.data (.ofText "") true)

def addMethods (heap : Heap) : Heap :=
  let heap := heap.addNatives Root.object.ref [("toString", .objectText, 0),
    ("valueOf", .plainValue, 0)]
  let heap := heap.addNatives Root.function.ref [("toString", .functionText, 0)]
  let heap := heap.addNatives Root.list.ref [("toString", .listText, 0), ("join", .listJoin, 1),
    ("push", .listPush, 1)]
  let heap := heap.addNatives Root.bytes.ref [("toString", .listText, 0), ("join", .listJoin, 1)]
  let heap := heap.addNatives Root.error.ref [("toString", .errorText, 0)]
  let heap := [Root.text, Root.number, Root.bool, Root.bigint].foldl (fun heap root =>
    heap.addNatives root.ref [("toString", .plainText, 0), ("valueOf", .plainValue, 0)]) heap
  let (heap, getter) := heap.allocFunction (.native .bytesLength) 0 "get length"
  heap.put Root.bytes.ref Object.lengthName (.accessor (some getter) none)

def addMath (heap : Heap) : Heap :=
  let (heap, ref) := heap.alloc (.ofKind .plain Root.object.ref)
  let heap := heap.addNatives ref [("round", .rounding .nearest, 1), ("floor", .rounding .floor, 1),
    ("ceil", .rounding .ceil, 1), ("trunc", .rounding .truncated, 1),
    ("abs", .rounding .magnitude, 1)]
  heap.addGlobal "Math" (.object ref) true

def start : Heap :=
  let heap := roots.addMethods
  let heap := [ErrorKind.error, .type, .range, .reference, .malformed].foldl addError heap
  let heap := heap.addConstructor "BigInt" .bigint 1 .bigint
  let heap := heap.addConstructor "Uint8Array" .bytes 3 .bytes
  let heap := heap.addConstructor "Promise" .promise 1 .promise
  let heap := heap.addMath
  let heap := heap.addGlobal "undefined" .undefined false
  let heap := heap.addGlobal "NaN" (.number (.float Double.nan)) false
  let heap := heap.addGlobal "Infinity" (.number (.float Double.infinity)) false
  heap.addGlobal "globalThis" (.object Root.global.ref) true

end Heap

end ScriptOracle.Script
