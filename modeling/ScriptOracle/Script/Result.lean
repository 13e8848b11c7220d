import ScriptOracle.Script.Machine

/-!
# What a run hands to the host

A `Result` is what a script ended with, detached from the heap; a `Complaint` is what is told of a value
that it threw. Both are read from values whose getters and functions may be written in the script, so
reading is a task of its own.
-/

namespace ScriptOracle.Script

inductive Result where
  | undefined
  | null
  | bool (value : Bool)
  | number (value : Float)
  | bigint (value : Int)
  | text (value : String)
  | bytes (value : Bytes)
  | data (value : Json)

namespace Result

def typeName : Result -> String
  | .undefined => "undefined"
  | .null => "null"
  | .bool _ => "boolean"
  | .number _ => "number"
  | .bigint _ => "bigint"
  | .text _ => "string"
  | .bytes _ => "Buffer"
  | .data _ => "object"

def bytes? : Result -> Option Bytes
  | .bytes content => some content
  | _ => none

/-- Makes sure that a value can be handed over. Bytes are copied. -/
def collect (value : Value) : Task Value := do
  match value with
  | .object _ =>
    if ← Task.look fun heap => heap.isBytes value then
      let bytes ← bytesOf value
      Modules.newBytes bytes
    else
      let _ ← toData value
      pure value
  | .symbol =>
    let _ ← toData value
    pure value
  | _ => pure value

/-- The result that a value which can be handed over stands for. -/
def ofValue (heap : Heap) (value : Value) : Result :=
  match value with
  | .undefined => .undefined
  | .null => .null
  | .bool b => .bool b
  | .number n => .number n.toDouble
  | .bigint n => .bigint n
  | .text units => .text (Units.toText units)
  | .symbol => .data .null
  | .object ref =>
    match (heap.get ref).kind with
    | .bytes content => .bytes content.toList
    | _ => .data ((heap.data value).toOption.getD .null)

end Result

structure Complaint where
  name : String
  message : String
  details : String
deriving DecidableEq, Repr

namespace Complaint

def ofLimit (limit : Limit) : Complaint :=
  ⟨"RuntimeLimitError", limit.message, s!"RuntimeLimitError: {limit.message}"⟩

/-- A text as a value; nothing is undefined. -/
def shownText (text : Option String) : Value :=
  match text with
  | some text => .ofText text
  | none => .undefined

/-- Asks a value that was thrown for its name, its message and its stack. -/
def collect (value : Value) : Task Value := do
  match value with
  | .object _ =>
    let name ← textProperty? value "name"
    let message ← textProperty? value "message"
    let stack ← textProperty? value "stack"
    Task.update fun heap => heap.allocList [shownText name, shownText message, shownText stack]
  | .symbol => pure (.ofText "Symbol()")
  | value => do
    let units ← plainText value
    pure (.text units)

def itemText? (items : Array (Option Value)) (index : Nat) : Option String :=
  match items[index]? with
  | some (some (.text units)) => some (Units.toText units)
  | _ => none

def ofParts (name message stack : Option String) : Complaint :=
  let name := name.getD "Error"
  let message := message.getD ""
  let usual := s!"{name}: {message}"
  ⟨name, message, match stack with
    | some stack => if stack.isEmpty then usual else stack
    | none => usual⟩

def ofAnswer (heap : Heap) (answer : Value) : Complaint :=
  match answer with
  | .text units => ofParts none (some (Units.toText units)) none
  | .object ref =>
    match (heap.get ref).kind with
    | .list items => ofParts (itemText? items 0) (itemText? items 1) (itemText? items 2)
    | _ => ofParts none none none
  | _ => ofParts none none none

end Complaint

inductive Reading (α : Type) where
  | value (value : α)
  | halted (heap : Heap) (halt : Halt)
  | crashed
  | exhausted

namespace Machine

/-- Carries out a task of the host and looks at the value that it gives. -/
def read {α : Type} (engine : Engine) (machine : Machine) (heap : Heap) (task : Task Value)
    (view : Heap -> Value -> α) : Machine × Reading α :=
  match machine.perform engine heap task with
  | (machine, .finished heap (.ok flow)) => (machine, .value (view heap flow.value))
  | (machine, .finished heap (.error halt)) => (machine, .halted heap halt)
  | (machine, .crashed) => (machine, .crashed)
  | (machine, .exhausted) => (machine, .exhausted)

def complain (engine : Engine) (machine : Machine) (heap : Heap) (halt : Halt) :
    Machine × Reading Complaint :=
  match halt with
  | .limit limit => (machine, .value (.ofLimit limit))
  | .thrown value => machine.read engine heap (Complaint.collect value) Complaint.ofAnswer

end Machine

end ScriptOracle.Script
