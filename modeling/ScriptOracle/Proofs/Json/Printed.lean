import ScriptOracle.Proofs.Json.Printer

/-!
# Values of one text

Several doubles may have one text, as far as is known of them. With one double put in the place of all that
have its text, and null in the place of what is no number, a value keeps its text, and values of one text
become one value.
-/

namespace ScriptOracle.Json

/-! ## One double for each text -/

noncomputable def doubleOf (text : List Char) : Float :=
  Classical.epsilon fun x => doubleText x = text

theorem doubleText_doubleOf (x : Float) : doubleText (doubleOf (doubleText x)) = doubleText x :=
  Classical.epsilon_spec (p := fun y => doubleText y = doubleText x) ⟨x, rfl⟩

/-- Whether a double stands for a number and for all doubles with its text. -/
def Stands (x : Float) : Prop := ∃ y, (Double.dyadic? y).isSome = true ∧ x = doubleOf (doubleText y)

theorem legible_stands : Legible Stands := by
  constructor
  · rintro x ⟨y, finite, rfl⟩
    by_contra none
    have null : doubleText (doubleOf (doubleText y)) = ['n', 'u', 'l', 'l'] := by
      rw [doubleText, Option.not_isSome_iff_eq_none.1 none]
    rw [doubleText_doubleOf] at null
    have letter : isNumeral 'n' = true := (marked_doubleText finite).numerals 'n' (by simp [null])
    exact absurd letter (by decide)
  · rintro x x' ⟨y, _, rfl⟩ ⟨y', _, rfl⟩ same
    rw [doubleText_doubleOf, doubleText_doubleOf] at same
    rw [same]

/-! ## One value for each text -/

mutual

/-- The value with one double in the place of all that have its text. -/
noncomputable def printed : Json -> Json
  | .null => .null
  | .bool b => .bool b
  | .integer n => .integer n
  | .double x => if (Double.dyadic? x).isSome then .double (doubleOf (doubleText x)) else .null
  | .string text => .string text
  | .array items => .array (printedItems items)
  | .object fields => .object (printedFields fields)

noncomputable def printedItems : List Json -> List Json
  | [] => []
  | item :: rest => printed item :: printedItems rest

noncomputable def printedFields : List (String × Json) -> List (String × Json)
  | [] => []
  | (name, value) :: rest => (name, printed value) :: printedFields rest

end

theorem printedItems_eq (items : List Json) : printedItems items = items.map printed := by
  induction items with
  | nil => rfl
  | cons item rest ih => rw [printedItems, ih, List.map_cons]

theorem printedFields_eq (fields : List (String × Json)) :
    printedFields fields = fields.map fun field => (field.1, printed field.2) := by
  induction fields with
  | nil => rfl
  | cons field rest ih => rw [printedFields, ih, List.map_cons]

theorem separated_map {α : Type} {text : α -> List Char} {f : α -> α} {items : List α}
    (same : ∀ one ∈ items, text (f one) = text one) :
    separated text (items.map f) = separated text items := by
  induction items with
  | nil => rfl
  | cons one rest ih =>
      obtain ⟨first, others⟩ := List.forall_mem_cons.1 same
      have behind := ih others
      cases rest with
      | nil => exact first
      | cons next rest =>
          show text (f one) ++ ',' :: separated text ((next :: rest).map f) =
            text one ++ ',' :: separated text (next :: rest)
          rw [first, behind]

theorem compactChars_printed (value : Json) : compactChars (printed value) = compactChars value := by
  induction value using induction_parts with
  | step value ih =>
    cases value with
    | null | bool | integer | string => rw [printed]
    | double x =>
        rw [printed]
        split
        · exact doubleText_doubleOf x
        next none =>
          show ['n', 'u', 'l', 'l'] = doubleText x
          rw [doubleText, Option.not_isSome_iff_eq_none.1 none]
    | array items =>
        have same : ∀ item ∈ items, compactChars (printed item) = compactChars item := ih
        rw [printed, printedItems_eq, compactChars, compactChars, compactItems_eq, compactItems_eq,
          separated_map same]
    | object fields =>
        have same : ∀ field ∈ fields, fieldChars (field.1, printed field.2) = fieldChars field := by
          intro field member
          rw [fieldChars, fieldChars, ih field.2 (List.mem_map_of_mem member)]
        rw [printed, printedFields_eq, compactChars, compactChars, compactFields_eq, compactFields_eq,
          separated_map same]

theorem exists_of_mem_doublesOfItems {items : List Json} {x : Float} (member : x ∈ doublesOfItems items) :
    ∃ item ∈ items, x ∈ item.doubles := by
  induction items with
  | nil => cases member
  | cons item rest ih =>
      rcases List.mem_append.1 member with here | later
      · exact ⟨item, List.mem_cons_self, here⟩
      · obtain ⟨other, inside, deep⟩ := ih later
        exact ⟨other, List.mem_cons_of_mem _ inside, deep⟩

theorem stands_of_mem_printed (value : Json) : ∀ x ∈ (printed value).doubles, Stands x := by
  induction value using induction_parts with
  | step value ih =>
    intro x member
    cases value with
    | null | bool | integer | string =>
        rw [printed] at member
        cases member
    | double y =>
        rw [printed] at member
        split at member
        next finite =>
          obtain rfl := List.mem_singleton.1 member
          exact ⟨y, finite, rfl⟩
        next => cases member
    | array items =>
        rw [printed, printedItems_eq] at member
        obtain ⟨_, inside, deep⟩ := exists_of_mem_doublesOfItems member
        obtain ⟨item, among, rfl⟩ := List.mem_map.1 inside
        exact ih item among x deep
    | object fields =>
        rw [printed, printedFields_eq, doubles, doublesOfFields_eq, List.map_map] at member
        obtain ⟨_, inside, deep⟩ := exists_of_mem_doublesOfItems member
        obtain ⟨field, among, rfl⟩ := List.mem_map.1 inside
        exact ih field.2 (List.mem_map_of_mem among) x deep

/-- Values have one text exactly if they are one value as far as their text tells. -/
theorem compact_eq_iff (a b : Json) : a.compact = b.compact ↔ printed a = printed b := by
  have same : ∀ value : Json, (printed value).compact = value.compact :=
    fun value => congrArg String.ofList (compactChars_printed value)
  rw [← same a, ← same b]
  exact ⟨compact_inj legible_stands (stands_of_mem_printed a) (stands_of_mem_printed b),
    congrArg compact⟩

end ScriptOracle.Json
