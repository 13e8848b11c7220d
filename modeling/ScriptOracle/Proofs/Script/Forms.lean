import ScriptOracle.Proofs.Script.Manner.Natives
import ScriptOracle.Proofs.Script.Units
import ScriptOracle.Proofs.Url.Form

/-!
# Forms of objects

A script that writes an object as a form gets a text from which every field is read back: once for each
element where the field is a list, and once otherwise. Names and elements may be made of any characters,
marks included.
-/

namespace ScriptOracle

/-- What stands in a field: the elements of a list, or else the value itself. -/
def Json.elements : Json -> List Json
  | .array items => items
  | value => [value]

namespace Script.Modules

theorem fieldPairs_eq (field : String × Json) :
    fieldPairs field = field.2.elements.map fun element => (field.1, element.scalarText) := by
  obtain ⟨name, value⟩ := field
  cases value with
  | array items => rfl
  | _ => rfl

theorem call_formText {heap : Heap} {value : Value} {data : Json} (converts : heap.data value = .ok data)
    (this : Value) (rest : List Value) (after : Heap -> Except Halt Value -> Act) :
    Native.formText.call this (value :: rest) heap after =
      after heap (.ok (.ofText (Form.render (formPairs data)))) := by
  have read (next : Heap -> Except Halt Json -> Act) : toData value heap next = next heap (.ok data) := by
    rw [toData_eq, converts]
  exact read _

/-- The form of an object is given at once, and it reads as one pair for each element of each field, in
order and under the name of the field. -/
theorem form_of_object {heap : Heap} {value : Value} {fields : Fields Json}
    (converts : heap.data value = .ok (.object fields)) (this : Value) (rest : List Value) :
    ∃ units,
      (∀ after, Native.formText.call this (value :: rest) heap after = after heap (.ok (.text units))) ∧
      Form.parse (Text.utf8 (Units.toText units)) =
        fields.flatMap fun field => field.2.elements.map fun element =>
          (field.1, element.scalarText) := by
  refine ⟨_, call_formText converts this rest, ?_⟩
  rw [Units.toText_ofText, Form.parse_render, formPairs]
  exact congrArg fields.flatMap (funext fieldPairs_eq)

/-- Marks in names and elements, an empty name, an empty list and a list in a list. -/
theorem form_of_object_marks :
    let fields : Fields Json := [("", .null), ("a&b", .array [.string "=+ %", .null, .array [.bool true]]),
      ("none", .array []), ("ü", .object [("c", .integer 1)])]
    let made := (⟨#[], #[], []⟩ : Heap).ofJson (.object fields)
    made.1.data made.2 = .ok (.object fields) ∧
    ∃ units,
      (∀ after, Native.formText.call .undefined [made.2] made.1 after = after made.1 (.ok (.text units))) ∧
      Form.parse (Text.utf8 (Units.toText units)) =
        [("", ""), ("a&b", "=+ %"), ("a&b", ""), ("a&b", "[true]"), ("ü", "\x7b\"c\":1\x7d")] := by
  intro fields made
  have converts : made.1.data made.2 = .ok (.object fields) := rfl
  exact ⟨converts, form_of_object converts .undefined []⟩

end Script.Modules

end ScriptOracle
