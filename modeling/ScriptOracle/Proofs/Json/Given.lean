import ScriptOracle.Proofs.Json.Fields
import ScriptOracle.Proofs.Number.Double

/-!
# Fields that are given

Some readers take a field for left out if it is null, false, zero or an empty text. Zero is meant by its
value, however it is written.
-/

namespace ScriptOracle.Json

/-- The number that a value is, if it is one. -/
def number? : Json -> Option ℚ
  | .integer n => some n
  | .double x => Double.value? x
  | _ => none

/-- The values that stand for a field that is left out. -/
def IsBlank (value : Json) : Prop :=
  value = .null ∨ value = .bool false ∨ value.number? = some 0 ∨ value = .string ""

theorem isGiven_iff (value : Json) : value.isGiven = true ↔ ¬value.IsBlank := by
  cases value with
  | null => simp [isGiven, IsBlank]
  | bool b => cases b <;> simp [isGiven, IsBlank, number?]
  | integer n => simp [isGiven, IsBlank, number?]
  | double x =>
      rw [isGiven, Bool.not_eq_true', Bool.eq_false_iff, ne_eq, Double.beq_zero_iff]
      simp [IsBlank, number?]
  | string text => simp [isGiven, IsBlank, number?]
  | array items => simp [isGiven, IsBlank, number?]
  | object fields => simp [isGiven, IsBlank, number?]

/-- A field is left out if it is absent or blank. -/
def LeavesOut (input : Json) (name : String) : Prop := ∀ value ∈ input.get? name, value.IsBlank

theorem leavesOut_of_none {input : Json} {name : String} (absent : input.get? name = none) :
    input.LeavesOut name := by
  intro value found
  cases absent.symm.trans found

theorem given?_eq_some_iff {input : Json} {name : String} {value : Json} :
    input.given? name = some value ↔ input.get? name = some value ∧ ¬value.IsBlank := by
  rw [given?, Option.filter_eq_some_iff, isGiven_iff]

theorem given?_eq_none_iff {input : Json} {name : String} :
    input.given? name = none ↔ input.LeavesOut name := by
  rw [given?, Option.filter_eq_none_iff, LeavesOut]
  simp only [isGiven_iff, not_not]
  rfl

/-- A blank field gives nothing under its name beyond what is in front of it. -/
theorem given?_of_blank {before after : Fields Json} {name : String} {value : Json}
    (blank : value.IsBlank) :
    (Json.object (before ++ (name, value) :: after)).given? name = (Json.object before).given? name := by
  have dropped : value.isGiven = false := by
    rw [← Bool.not_eq_true, isGiven_iff, not_not]
    exact blank
  rw [given?, given?, get?, get?, Fields.get?_append, Fields.get?_cons, if_pos rfl]
  cases Fields.get? before name with
  | none => simp [dropped]
  | some first => rfl

/-- What is kept of a field is nothing if it is left out, and else its value. -/
def Keeps (input : Json) (name : String) : Option Json -> Prop
  | none => input.LeavesOut name
  | some value => input.get? name = some value ∧ ¬value.IsBlank

theorem keeps_iff {input : Json} {name : String} {kept : Option Json} :
    input.Keeps name kept ↔ input.given? name = kept := by
  cases kept with
  | none => exact given?_eq_none_iff.symm
  | some value => exact given?_eq_some_iff.symm

/-! ## What fields may hold -/

/-- The field is there and its value is as it has to be. -/
def Has (input : Json) (name : String) (good : Json -> Prop) : Prop :=
  ∃ value, input.get? name = some value ∧ good value

/-- The field is left out or its value is as it has to be. -/
def Allows (input : Json) (name : String) (good : Json -> Prop) : Prop :=
  ∀ value, input.get? name = some value → value.IsBlank ∨ good value

def IsText (value : Json) : Prop := ∃ text, value = .string text

def IsTextList (value : Json) : Prop := ∃ texts, value = ofStrings texts

def IsTextMap (value : Json) : Prop := ∃ fields, value = ofStringFields fields

theorem allows_iff {input : Json} {name : String} {good : Json -> Prop} :
    input.Allows name good ↔ ∀ value, input.given? name = some value → good value := by
  constructor
  · intro allows value given
    obtain ⟨found, full⟩ := given?_eq_some_iff.1 given
    exact (allows value found).resolve_left full
  · intro good value found
    exact or_iff_not_imp_left.2 fun full => good value (given?_eq_some_iff.2 ⟨found, full⟩)

/-! ## What fields stand for -/

section Gives

variable {α : Type} {stands : Json -> α -> Prop} {usual result : α} {input : Json} {name : String}

/-- A field is left out and the usual is taken, or its value stands for the result. -/
def Gives (input : Json) (name : String) (stands : Json -> α -> Prop) (usual result : α) : Prop :=
  input.LeavesOut name ∧ result = usual ∨
    ∃ value, input.get? name = some value ∧ ¬value.IsBlank ∧ stands value result

theorem gives_of_none (absent : input.given? name = none) :
    input.Gives name stands usual result ↔ result = usual := by
  have left : input.LeavesOut name := given?_eq_none_iff.1 absent
  constructor
  · rintro (⟨-, same⟩ | ⟨value, found, full, -⟩)
    · exact same
    · exact absurd (left value found) full
  · exact fun same => .inl ⟨left, same⟩

theorem gives_of_some {value : Json} (given : input.given? name = some value) :
    input.Gives name stands usual result ↔ stands value result := by
  obtain ⟨found, full⟩ := given?_eq_some_iff.1 given
  constructor
  · rintro (⟨left, -⟩ | ⟨other, same, -, means⟩)
    · exact absurd (left value found) full
    · cases found.symm.trans same
      exact means
  · exact fun means => .inr ⟨value, found, full, means⟩

/-- A field gives something exactly if it is left out or stands for something. -/
theorem exists_gives_iff :
    (∃ result, input.Gives name stands usual result) ↔
      input.Allows name fun value => ∃ result, stands value result := by
  rw [allows_iff]
  cases given : input.given? name with
  | none => simp [gives_of_none given]
  | some value => simp [gives_of_some given]

end Gives

end ScriptOracle.Json
