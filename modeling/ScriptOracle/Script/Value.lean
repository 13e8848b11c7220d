import ScriptOracle.Script.Numeral
import ScriptOracle.Script.Syntax
import ScriptOracle.Word256

/-!
# Values and objects

A value is a number, a text and so on, or the place of an object. An object has a kind, perhaps an
object that it takes missing properties from, and properties in the order in which they were first
written. Functions are written in the script or native; a native one is named by what it does.
-/

namespace ScriptOracle.Script

abbrev Ref := Nat

inductive Value where
  | undefined
  | null
  | bool (value : Bool)
  | number (value : Numeral)
  | bigint (value : Int)
  | text (value : Units)
  | symbol
  | object (ref : Ref)
deriving DecidableEq

namespace Value

def int (n : Int) : Value := .number (.ofInt n)

def ofText (text : String) : Value := .text (Units.ofText text)

def ofLiteral : Literal -> Value
  | .null => .null
  | .bool b => .bool b
  | .int n => .int n
  | .float x => .number (.float x)
  | .bigint n => .bigint n
  | .text units => .text units

def isTrue : Value -> Bool
  | .undefined => false
  | .null => false
  | .bool b => b
  | .number n => n.isTrue
  | .bigint n => n != 0
  | .text units => !units.isEmpty
  | .symbol => true
  | .object _ => true

end Value

/-- The kinds of errors that scripts tell apart. -/
inductive ErrorKind where
  | error
  | type
  | range
  | reference
  | malformed
deriving DecidableEq, Repr

def ErrorKind.name : ErrorKind -> String
  | .error => "Error"
  | .type => "TypeError"
  | .range => "RangeError"
  | .reference => "ReferenceError"
  | .malformed => "SyntaxError"

inductive Digest where
  | sha256
  | keccak256
  | blake3
deriving DecidableEq, Repr

/-- The functions from numbers to whole numbers. -/
inductive Rounding where
  | nearest
  | floor
  | ceil
  | truncated
  | magnitude
deriving DecidableEq, Repr

inductive Native where
  | makeRequest
  | encode (encoder : Word256.Encoder)
  | require
  | console (shown : Bool)
  | bufferFrom
  | bufferText
  | bufferConcat
  | digest (digest : Digest)
  | formText
  | decodeText
  | parseUrl
  | inspect
  | error (kind : ErrorKind)
  | errorText
  | bigint
  | bytes
  | bytesLength
  | promise
  | settle (promise : Ref) (accepts : Bool)
  | objectText
  | functionText
  | listText
  | listJoin
  | listPush
  | plainText
  | plainValue
  | rounding (rounding : Rounding)
  | nothing
deriving DecidableEq, Repr

/-- A function: written in the script, with the scope and perhaps the `this` around it, or native. -/
inductive Function where
  | closure (code : Code) (scope : Nat) (this : Option Value)
  | native (native : Native)

inductive Property where
  | data (value : Value) (writable : Bool)
  | accessor (getter setter : Option Value)
deriving DecidableEq

/-- What waits for a promise: a part of a run that is suspended, or another promise. -/
inductive Reaction where
  | resume (suspension : Nat)
  | follow (promise : Ref)
deriving DecidableEq

inductive PromiseState where
  | pending (waiting : List Reaction)
  | fulfilled (value : Value)
  | rejected (reason : Value)
deriving DecidableEq

inductive Kind where
  | plain
  | error
  | list (items : Array (Option Value))
  | bytes (content : Array UInt8)
  | function (function : Function)
  | promise (state : PromiseState)

structure Object where
  kind : Kind
  proto : Option Ref
  fields : List (Units × Property)

namespace Object

def ofKind (kind : Kind) (proto : Ref) : Object := ⟨kind, some proto, []⟩

def find? (name : Units) : List (Units × Property) -> Option Property
  | [] => none
  | (key, property) :: rest => if key = name then some property else find? name rest

def write (name : Units) (property : Property) :
    List (Units × Property) -> List (Units × Property)
  | [] => [(name, property)]
  | (key, old) :: rest =>
    if key = name then (key, property) :: rest else (key, old) :: write name property rest

def put (object : Object) (name : Units) (property : Property) : Object :=
  { object with fields := write name property object.fields }

def withValue (object : Object) (name : String) (value : Value) : Object :=
  object.put (Units.ofText name) (.data value true)

def lengthName : Units := Units.ofText "length"

def own? (object : Object) (name : Units) : Option Property :=
  match object.kind with
  | .list items =>
    match Units.index? name with
    | some i => (items.getD i none).map fun value => .data value true
    | none =>
      if name = lengthName then some (.data (.int items.size) true)
      else find? name object.fields
  | .bytes content =>
    match Units.index? name with
    | some i => content[i]?.map fun byte => .data (.int byte.toNat) true
    | none => find? name object.fields
  | _ => find? name object.fields

def isCallable (object : Object) : Bool :=
  match object.kind with
  | .function _ => true
  | _ => false

/-- Puts an entry among indices in ascending order. -/
def insertIndex (i : Nat) (entry : Units × Property) :
    List (Nat × Units × Property) -> List (Nat × Units × Property)
  | [] => [(i, entry)]
  | (j, other) :: rest =>
    if i < j then (i, entry) :: (j, other) :: rest else (j, other) :: insertIndex i entry rest

/-- The properties that are named by an index, in ascending order. -/
def indexed (fields : List (Units × Property)) : List (Nat × Units × Property) :=
  fields.foldl (fun sorted entry =>
    match Units.index? entry.1 with
    | some i => insertIndex i entry sorted
    | none => sorted) []

/-- The properties in the order in which a script meets them: indices first. -/
def ordered (fields : List (Units × Property)) : List (Units × Property) :=
  (indexed fields).map (·.2) ++ fields.filter fun entry => (Units.index? entry.1).isNone

end Object

/-- A variable: its value, once it has one. -/
structure Binding where
  value : Option Value
  isConstant : Bool
deriving DecidableEq

/-- The variables of a block, and the block around it. -/
structure Scope where
  names : List (String × Binding)
  parent : Option Nat

/-- What is to be done once the script has nothing more to do. -/
inductive Job where
  | resume (suspension : Nat) (result : Except Value Value)
  | settle (promise : Ref) (result : Except Value Value)
  | adopt (followed follower : Ref)

end ScriptOracle.Script
