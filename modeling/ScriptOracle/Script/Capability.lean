import ScriptOracle.Script.Modules

/-!
# What the host gives a script

The arguments and secrets of the caller, the functions that send requests and encode results, the
modules and a console. The names `args`, `secrets` and `Functions` cannot be written over.
-/

namespace ScriptOracle.Script

structure Bindings where
  args : List String
  secrets : Option (Fields String)
  /-- Whether the lines of the console are shown. -/
  logging : Bool

namespace Capability

/-- The functions of the object `Functions`. -/
def functions : List (String × Native × Nat) := [
  ("makeHttpRequest", .makeRequest, 1), ("performRequest", .makeRequest, 1),
  ("encodeUint256", .encode .unsigned, 1), ("encodeUnsignedInt", .encode .unsigned, 1),
  ("encodeInt256", .encode .signed, 1), ("encodeSignedInt", .encode .signed, 1),
  ("encodeString", .encode .text, 1)]

/-- The functions of the object `console`. -/
def consoleFunctions (logging : Bool) : List (String × Native × Nat) := [
  ("log", .console logging, 0), ("info", .console logging, 0), ("warn", .console logging, 0),
  ("error", .console logging, 0)]

def addObject (heap : Heap) (functions : List (String × Native × Nat)) : Heap × Value :=
  let (heap, ref) := heap.alloc (.ofKind .plain Root.object.ref)
  (heap.addNatives ref functions, .object ref)

def install (heap : Heap) (bindings : Bindings) : Heap :=
  let (heap, args) := heap.ofJson (.ofStrings bindings.args)
  let heap := heap.addGlobal "args" args false
  let (heap, secrets) := heap.ofJson (.ofStringFields (bindings.secrets.getD []))
  let heap := heap.addGlobal "secrets" secrets false
  let (heap, object) := addObject heap functions
  let heap := heap.addGlobal "Functions" object false
  let heap := heap.addNative Root.global.ref "require" .require 1
  let (heap, console) := addObject heap (consoleFunctions bindings.logging)
  heap.addGlobal "console" console true

/-- The data of an argument that is to be a request: that of an object that is no function. -/
def requestData (value : Value) : Task (Option Json) := do
  match value with
  | .object _ =>
    if ← Task.look fun heap => heap.isCallable value then pure none
    else
      match ← Task.attempt (toData value) with
      | .ok data => pure (some data)
      | .error _ => pure none
  | _ => pure none

/-- The address in the data of a request, if it has one. -/
def addressIn (data : Json) : String := ((data.get? "url").bind Json.asString?).getD ""

def send (data : Option Json) : Task Gate.Outcome :=
  match data with
  | none => Task.refuse "" "GET" (.invalidRequest "request must be an object")
  | some data =>
    match Gate.Call.read data with
    | .ok call => Task.request call
    | .error mismatch => Task.refuse (addressIn data) "GET" (.invalidRequest mismatch.message)

/-- The object that a script gets for an outcome. Bytes become a byte array. -/
def outcomeValue (outcome : Gate.Outcome) : Task Value :=
  Task.update fun heap =>
    let (heap, value) := heap.ofJson outcome.toJson
    match outcome, value with
    | .answered ⟨_, _, .bytes content⟩, .object ref =>
      let (heap, bytes) := heap.allocBytes content
      (heap.put ref (Units.ofText "data") (.data bytes true), value)
    | _, _ => (heap, value)

/-- Sends a request. It never throws: what goes wrong is told by the object that comes back. -/
def makeRequest (args : List Value) : Task Value := do
  let data ← requestData (argument args 0)
  let outcome ← send data
  outcomeValue outcome

def operand (value : Value) : Task Word256.Operand :=
  match value with
  | .number n => pure (.number n.toDouble)
  | .bigint n => pure (.integer n)
  | .text units => pure (.text (Units.toText units))
  | value => Task.look fun heap => .other (heap.typeName value)

def encode (encoder : Word256.Encoder) (args : List Value) : Task Value := do
  let operand ← operand (argument args 0)
  match encoder.encode? operand with
  | some bytes => Modules.newBytes bytes
  | none => Task.raise .error encoder.complaint

def console (shown : Bool) (args : List Value) : Task Value := do
  if shown then
    let words ← Task.each render args
    Task.print (" ".intercalate words)
  pure .undefined

end Capability

end ScriptOracle.Script
