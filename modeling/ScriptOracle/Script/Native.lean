import ScriptOracle.Script.Capability

/-!
# Native functions

What each native function does when it is called and, for those that make objects, when it is used to
make one.
-/

namespace ScriptOracle.Script

namespace Builtin

def kindName (heap : Heap) : Value -> String
  | .undefined => "Undefined"
  | .null => "Null"
  | .bool _ => "Boolean"
  | .number _ => "Number"
  | .bigint _ => "BigInt"
  | .text _ => "String"
  | .symbol => "Symbol"
  | .object ref =>
    match (heap.get ref).kind with
    | .plain => "Object"
    | .error => "Error"
    | .list _ => "Array"
    | .bytes _ => "Uint8Array"
    | .function _ => "Function"
    | .promise _ => "Promise"

def objectText (this : Value) : Task Value :=
  Task.look fun heap => .ofText s!"[object {kindName heap this}]"

def functionText (this : Value) : Task Value := do
  let name ← toText (← getProperty this (Units.ofText "name"))
  pure (.ofText ("function " ++ name ++ "() \x7b [native code] \x7d"))

def elementText (value : Value) : Task Units :=
  match value with
  | .undefined => pure []
  | .null => pure []
  | value => toUnits value

/-- The texts of the elements from `index` on, `count` of them, behind those already read, which are
in reverse. -/
def elementTexts (list : Value) : Nat -> Nat -> List Units -> Task (List Units)
  | 0, _, soFar => pure soFar.reverse
  | count + 1, index, soFar => do
    Task.pause
    let value ← getProperty list (Units.ofNat index)
    let text ← elementText value
    elementTexts list count (index + 1) (text :: soFar)

def listJoin (this : Value) (args : List Value) : Task Value := do
  let length ← lengthOf this
  let mark ← match argument args 0 with
    | .undefined => pure (Units.ofText ",")
    | value => toUnits value
  let texts ← elementTexts this length 0 []
  pure (.text (mark.intercalate texts))

def listText (this : Value) : Task Value := do
  let join ← getProperty this (Units.ofText "join")
  if ← Task.look fun heap => heap.isCallable join then Task.call join this []
  else objectText this

/-- Adds elements at the end of a list and gives its length. -/
def listPush (this : Value) (args : List Value) : Task Value := do
  match this with
  | .object ref =>
    match (← Task.look fun heap => (heap.get ref).kind) with
    | .list items =>
      Task.change fun heap => heap.modify ref fun object =>
        match object.kind with
        | .list items => { object with kind := .list (items ++ (args.map some).toArray) }
        | _ => object
      pure (.int (items.size + args.length))
    | _ => raiseType "cannot add elements to an object that is not an array"
  | _ => raiseType "cannot convert 'null' or 'undefined' to object"

def ownText (this : Value) : Task Value :=
  match this with
  | .object _ => raiseType "'this' is not a primitive value"
  | value => do
    let units ← plainText value
    pure (.text units)

def bytesLength (this : Value) : Task Value := do
  match this with
  | .object ref =>
    match (← Task.look fun heap => (heap.get ref).kind) with
    | .bytes content => pure (.int content.size)
    | _ => raiseType "the this object must be a typed array"
  | _ => raiseType "the this object must be a typed array"

def newError (kind : ErrorKind) (args : List Value) : Task Value := do
  let blank := Object.ofKind .error (Root.ofError kind).ref
  match argument args 0 with
  | .undefined => Task.update fun heap => heap.allocValue blank
  | value =>
    let message ← toUnits value
    Task.update fun heap =>
      heap.allocValue (blank.put (Units.ofText "message") (.data (.text message) true))

/-- A property of an error as text; `usual` if it is undefined. -/
def errorPart (this : Value) (name : String) (usual : String) : Task String := do
  match ← getProperty this (Units.ofText name) with
  | .undefined => pure usual
  | value => toText value

def errorText (this : Value) : Task Value := do
  match this with
  | .object _ =>
    let name ← errorPart this "name" "Error"
    let message ← errorPart this "message" ""
    pure (.ofText (if name.isEmpty then message
      else if message.isEmpty then name else s!"{name}: {message}"))
  | _ => raiseType "'this' is not an Object"

/-- The whole number that a text writes, of any length. -/
def bigintOfText? (units : Units) : Option Int :=
  match Units.toChars (trimUnits units) with
  | [] => some 0
  | '-' :: digits => if digits.all Char.isDigit then (digitsOf? 10 digits).map fun n => -(n : Int)
    else none
  | '+' :: digits => if digits.all Char.isDigit then (digitsOf? 10 digits).map fun n => (n : Int)
    else none
  | chars =>
    match markedNumber? chars with
    | some n => n.map fun n => (n : Int)
    | none => if chars.all Char.isDigit then (digitsOf? 10 chars).map fun n => (n : Int) else none

def bigint (args : List Value) : Task Value := do
  match ← toPlain .number (argument args 0) with
  | .undefined => raiseType "cannot convert undefined to a BigInt"
  | .null => raiseType "cannot convert null to a BigInt"
  | .bool b => pure (.bigint (if b then 1 else 0))
  | .number n =>
    match Double.integer? n.toDouble with
    | some n => pure (.bigint n)
    | none => Task.raise .range s!"cannot convert {Units.toText n.text} to a BigInt"
  | .bigint n => pure (.bigint n)
  | .text units =>
    match bigintOfText? units with
    | some n => pure (.bigint n)
    | none =>
      Task.raise .malformed s!"cannot convert string '{Units.toText units}' to bigint primitive"
  | .symbol => raiseType "cannot convert Symbol to a BigInt"
  | .object _ => raiseType "cannot convert object to a BigInt"

/-- The greatest size of a new byte array. -/
def maxArraySize : Nat := 1 <<< 25

/-- A new byte array: of a size, or with the elements of an object. -/
def newBytesFrom (args : List Value) : Task Value := do
  match argument args 0 with
  | .object ref =>
    let length ← lengthOf (.object ref)
    if maxArraySize < length then Task.raise .range "couldn't allocate the data block"
    else
      let bytes ← bytesFrom (.object ref) length 0 []
      Modules.newBytes bytes
  | .undefined => Modules.newBytes []
  | value =>
    let n ← toNumeral value
    match n.truncate? with
    | some size =>
      if size < 0 ∨ Numeral.lengthBound < size then Task.raise .range "invalid array length"
      else if maxArraySize < size then Task.raise .range "couldn't allocate the data block"
      else
        Task.update fun heap =>
          heap.allocValue (.ofKind (.bytes (Array.replicate size.toNat 0)) Root.bytes.ref)
    | none =>
      if Double.isNaN n.toDouble then Modules.newBytes []
      else Task.raise .range "invalid array length"

/-- A new promise, with the functions that end it handed to the one that was given. -/
def newPromise (args : List Value) : Task Value := do
  let executor := argument args 0
  if !(← Task.look fun heap => heap.isCallable executor) then
    raiseType "Promise executor is not callable"
  else
    let promise ← Task.update fun heap => heap.allocPromise (.pending [])
    let accept ← Task.update fun heap => heap.allocFunction (.native (.settle promise true)) 1 ""
    let refuse ← Task.update fun heap => heap.allocFunction (.native (.settle promise false)) 1 ""
    match ← Task.attempt (Task.call executor .undefined [accept, refuse]) with
    | .ok _ => pure (.object promise)
    | .error (.thrown reason) =>
      Task.change fun heap => heap.conclude promise (.error reason)
      pure (.object promise)
    | .error (.limit limit) => Task.halt (.limit limit)

def settle (promise : Ref) (accepts : Bool) (args : List Value) : Task Value := do
  let value := argument args 0
  Task.change fun heap => heap.resolve promise (if accepts then .ok value else .error value)
  pure .undefined

def rounding (rounding : Rounding) (args : List Value) : Task Value := do
  let n ← toNumeral (argument args 0)
  let n := Numeral.float n.toDouble
  pure (.number (match rounding with
    | .nearest => n.round
    | .floor => n.floor
    | .ceil => n.ceil
    | .truncated => n.truncated
    | .magnitude => n.magnitude))

end Builtin

namespace Native

def call (native : Native) (this : Value) (args : List Value) : Task Value :=
  match native with
  | .makeRequest => Capability.makeRequest args
  | .encode encoder => Capability.encode encoder args
  | .require => Modules.require args
  | .console shown => Capability.console shown args
  | .bufferFrom => Modules.bufferFrom args
  | .bufferText => Modules.bufferText args
  | .bufferConcat => Modules.bufferConcat args
  | .digest hash => Modules.digest hash args
  | .formText => Modules.formText args
  | .decodeText => Modules.decodeText args
  | .parseUrl => Modules.parseUrl args
  | .inspect => Modules.inspect args
  | .error kind => Builtin.newError kind args
  | .errorText => Builtin.errorText this
  | .bigint => Builtin.bigint args
  | .bytes => raiseType "calling a builtin typed array constructor without new is forbidden"
  | .bytesLength => Builtin.bytesLength this
  | .promise => raiseType "Promise NewTarget cannot be undefined"
  | .settle target accepts => Builtin.settle target accepts args
  | .objectText => Builtin.objectText this
  | .functionText => Builtin.functionText this
  | .listText => Builtin.listText this
  | .listJoin => Builtin.listJoin this args
  | .listPush => Builtin.listPush this args
  | .plainText => Builtin.ownText this
  | .plainValue => pure this
  | .rounding way => Builtin.rounding way args
  | .nothing => pure .undefined

def create (native : Native) (args : List Value) : Task Value :=
  match native with
  | .error kind => Builtin.newError kind args
  | .bytes => Builtin.newBytesFrom args
  | .promise => Builtin.newPromise args
  | _ => raiseType "not a constructor"

end Native

end ScriptOracle.Script
