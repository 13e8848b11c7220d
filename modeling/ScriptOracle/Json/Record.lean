import ScriptOracle.Json.Printer
import ScriptOracle.Text.Shown

/-!
# Records read from data values

A record is read from an object by name or from a list by position. Names that belong to no field
are passed over, a field that is written under two of its names is refused, and the first thing that
is wrong is reported. A record is filled slot by slot in a draft; what no slot has filled is settled
when the draft is finished.
-/

namespace ScriptOracle.Json

inductive Mismatch where
  | wrongType (found : Json) (expected : String)
  | wrongValue (found : Json) (expected : String)
  | notOneKey
  | missing (field : String)
  | duplicate (field : String)
  | unknownChoice (found : String) (choices : List String)
  | tooFew (count : Nat) (record : String) (fields : Nat)
  | tooMany (count : Nat)

def kindText : Json -> String
  | .null => "null"
  | .bool true => "boolean `true`"
  | .bool false => "boolean `false`"
  | .integer n => "integer `" ++ String.ofList (integerText n) ++ "`"
  | .double x => "floating point `" ++ Double.Layout.json.render x ++ "`"
  | .string text => "string " ++ Text.shown text
  | .array _ => "sequence"
  | .object _ => "map"

def choiceText (choices : List String) : String :=
  ", ".intercalate (choices.map fun choice => "`" ++ choice ++ "`")

def Mismatch.message : Mismatch -> String
  | .wrongType found expected => s!"invalid type: {kindText found}, expected {expected}"
  | .wrongValue found expected => s!"invalid value: {kindText found}, expected {expected}"
  | .notOneKey => "invalid value: map, expected map with a single key"
  | .missing field => s!"missing field `{field}`"
  | .duplicate field => s!"duplicate field `{field}`"
  | .unknownChoice found choices =>
    s!"unknown variant `{found}`, expected one of {choiceText choices}"
  | .tooFew count record fields =>
    s!"invalid length {count}, expected struct {record} with {fields} elements"
  | .tooMany count => s!"invalid length {count}, expected fewer elements in array"

def readString : Json -> Except Mismatch String
  | .string text => .ok text
  | other => .error (.wrongType other "a string")

def readBelow (bound : Nat) (name : String) : Json -> Except Mismatch Nat
  | .integer n =>
    if 0 ≤ n ∧ n < bound then .ok n.toNat else .error (.wrongValue (.integer n) name)
  | other => .error (.wrongType other name)

/-- Reads a whole number of sixty-four bits. -/
def readWord64 : Json -> Except Mismatch Nat := readBelow (1 <<< 64) "u64"

/-- Reads a whole number of thirty-two bits. -/
def readWord32 : Json -> Except Mismatch Nat := readBelow (1 <<< 32) "u32"

def readTexts : List Json -> Except Mismatch (List String)
  | [] => .ok []
  | item :: rest => do
    let text ← readString item
    let texts ← readTexts rest
    pure (text :: texts)

def readStrings : Json -> Except Mismatch (List String)
  | .array items => readTexts items
  | other => .error (.wrongType other "a sequence")

def readTextFields : Fields Json -> Except Mismatch (Fields String)
  | [] => .ok []
  | (name, value) :: rest => do
    let text ← readString value
    let texts ← readTextFields rest
    pure ((name, text) :: texts)

/-- Reads an object of texts, in ascending order of names. -/
def readStringFields : Json -> Except Mismatch (Fields String)
  | .object fields => do
    let texts ← readTextFields fields
    pure (Fields.sorted texts)
  | other => .error (.wrongType other "a map")

/-- Reads an object of any values, in ascending order of names. -/
def readFields : Json -> Except Mismatch (Fields Json)
  | .object fields => .ok (Fields.sorted fields)
  | other => .error (.wrongType other "a map")

/-- Reads null as nothing and all else by a reader. -/
def readOptional {α : Type} (read : Json -> Except Mismatch α) :
    Json -> Except Mismatch (Option α)
  | .null => .ok none
  | other => do
    let value ← read other
    pure (some value)

def readChoiceName (choices : List String) (name : String) : Except Mismatch Nat :=
  match choices.findIdx? (· == name) with
  | some place => .ok place
  | none => .error (.unknownChoice name choices)

/-- Reads one of several names: a text, or an object of one field that is null. -/
def readChoice (choices : List String) : Json -> Except Mismatch Nat
  | .string name => readChoiceName choices name
  | .object [(name, value)] => do
    let place ← readChoiceName choices name
    match value with
    | .null => pure place
    | other => throw (.wrongType other "unit")
  | .object _ => .error .notOneKey
  | other => .error (.wrongType other "string or map")

structure Slot (Draft : Type) where
  /-- The name that messages use. -/
  name : String
  /-- Every name that the field goes by. -/
  names : List String
  /-- Whether a record without the field is refused. -/
  required : Bool
  /-- Whether the draft has the field. -/
  filled : Draft -> Bool
  /-- Puts the field into the draft. -/
  fill : Draft -> Json -> Except Mismatch Draft

structure RecordType (Draft Result : Type) where
  /-- The name that messages use. -/
  name : String
  /-- The fields in order. -/
  slots : List (Slot Draft)
  /-- The draft without any field. -/
  blank : Draft
  /-- Settles what no slot has filled. -/
  finish : Draft -> Except Mismatch Result

namespace RecordType

variable {Draft Result : Type}

def fillByName (slots : List (Slot Draft)) (draft : Draft) : Fields Json -> Except Mismatch Draft
  | [] => .ok draft
  | (name, value) :: rest =>
    match slots.find? (·.names.contains name) with
    | none => fillByName slots draft rest
    | some slot =>
      if slot.filled draft then .error (.duplicate slot.name)
      else
        match slot.fill draft value with
        | .error mismatch => .error mismatch
        | .ok draft => fillByName slots draft rest

/-- Fills slots in order. The result names the place of the first required slot without an item. -/
def fillInOrder (draft : Draft) (place : Nat) : List (Slot Draft) -> List Json ->
    Except Mismatch (Draft × Option Nat)
  | [], _ => .ok (draft, none)
  | slot :: slots, item :: items =>
    match slot.fill draft item with
    | .error mismatch => .error mismatch
    | .ok draft => fillInOrder draft (place + 1) slots items
  | slot :: slots, [] =>
    if slot.required then .ok (draft, some place) else fillInOrder draft (place + 1) slots []

def read (type : RecordType Draft Result) : Json -> Except Mismatch Result
  | .object fields => do
    let draft ← fillByName type.slots type.blank fields
    type.finish draft
  | .array items => do
    let (draft, lacking) ← fillInOrder type.blank 0 type.slots items
    match lacking with
    | some place => throw (.tooFew place type.name type.slots.length)
    | none =>
      let result ← type.finish draft
      if type.slots.length < items.length then throw (.tooMany items.length) else pure result
  | other => .error (.wrongType other ("struct " ++ type.name))

end RecordType

end ScriptOracle.Json
