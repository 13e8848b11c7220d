import ScriptOracle.Script.Convert

/-!
# Values and data

A data value becomes a value of the script and back. Numbers that are whole and fit thirty-two bits
are whole in the script too; all others are doubles, and stay doubles on the way back. Bigints and
symbols have no data, and the host breaks down over `undefined` and over an object that holds itself.
-/

namespace ScriptOracle.Script

mutual

def Heap.ofJson (heap : Heap) : Json -> Heap × Value
  | .null => (heap, .null)
  | .bool b => (heap, .bool b)
  | .integer n => (heap, .number (.ofInt n))
  | .double x => (heap, .number (.float x))
  | .string text => (heap, .ofText text)
  | .array items =>
    let (heap, values) := heap.ofItems items
    heap.allocList values
  | .object fields =>
    let (heap, properties) := heap.ofFields fields
    heap.allocFields properties

def Heap.ofItems (heap : Heap) : List Json -> Heap × List Value
  | [] => (heap, [])
  | item :: rest =>
    let (heap, value) := heap.ofJson item
    let (heap, values) := heap.ofItems rest
    (heap, value :: values)

def Heap.ofFields (heap : Heap) : List (String × Json) -> Heap × List (Units × Property)
  | [] => (heap, [])
  | (name, item) :: rest =>
    let (heap, value) := heap.ofJson item
    let (heap, properties) := heap.ofFields rest
    (heap, (Units.ofText name, .data value true) :: properties)

end

inductive Obstacle where
  | bigint
  | symbol
  | breakdown
deriving DecidableEq, Repr

def Numeral.toJson : Numeral -> Json
  | .int n => .integer n
  | .float x => if (Double.dyadic? x).isSome then .double x else .null

/-- The data of the items of a list; one that is missing is null. -/
def itemsToJson (convert : Value -> Except Obstacle Json) :
    List (Option Value) -> Except Obstacle (List Json)
  | [] => .ok []
  | none :: rest => do
    let values ← itemsToJson convert rest
    pure (.null :: values)
  | some item :: rest => do
    let value ← convert item
    let values ← itemsToJson convert rest
    pure (value :: values)

/-- The data of properties; one that is computed is null. -/
def fieldsToJson (convert : Value -> Except Obstacle Json) :
    List (Units × Property) -> Except Obstacle (List (String × Json))
  | [] => .ok []
  | (name, .accessor _ _) :: rest => do
    let values ← fieldsToJson convert rest
    pure ((Units.toText name, .null) :: values)
  | (name, .data item _) :: rest => do
    let value ← convert item
    let values ← fieldsToJson convert rest
    pure ((Units.toText name, value) :: values)

/-- The data of a value. Objects are followed only so deep as `depth` tells. -/
def Heap.toJson (heap : Heap) : Nat -> Value -> Except Obstacle Json
  | _, .undefined => .error .breakdown
  | _, .null => .ok .null
  | _, .bool b => .ok (.bool b)
  | _, .number n => .ok n.toJson
  | _, .bigint _ => .error .bigint
  | _, .text units => .ok (.string (Units.toText units))
  | _, .symbol => .error .symbol
  | 0, .object _ => .error .breakdown
  | depth + 1, .object ref =>
    let object := heap.get ref
    match object.kind with
    | .list items => do
      let values ← itemsToJson (heap.toJson depth) items.toList
      pure (.array values)
    | _ => do
      let fields ← fieldsToJson (heap.toJson depth) (Object.ordered object.fields)
      pure (.object (Fields.ofList fields))

def Heap.data (heap : Heap) (value : Value) : Except Obstacle Json :=
  heap.toJson (heap.objects.size + 1) value

def ofData (data : Json) : Task Value := Task.update fun heap => heap.ofJson data

/-- The data of a value. What has none is an error of the script or breaks the host down. -/
def toData (value : Value) : Task Json := do
  match ← Task.look fun heap => heap.data value with
  | .ok data => pure data
  | .error .bigint => Task.raise .type "cannot convert bigint to JSON"
  | .error .symbol => Task.raise .type "cannot convert Symbol to JSON"
  | .error .breakdown => Task.crash value

/-- A value as people read it: a text as it is, an object as data if it has any, and all else by its
text. -/
def render (value : Value) : Task String := do
  match value with
  | .text units => pure (Units.toText units)
  | .object _ =>
    if ← Task.look fun heap => heap.isCallable value then asText
    else
      match ← Task.attempt (toData value) with
      | .ok data => pure data.compact
      | .error _ => asText
  | _ => asText
where
  /-- The text of the value, or what is said of a value that has none. -/
  asText : Task String := do
    match ← Task.attempt (toText value) with
    | .ok text => pure text
    | .error _ => pure "[unprintable]"

end ScriptOracle.Script
