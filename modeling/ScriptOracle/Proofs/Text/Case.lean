import ScriptOracle.Proofs.Text.Hexadecimal

/-!
# Which letters become small ones

Of the characters beyond the first 128, one becomes an `i` with a dot above it and one a `k`; none becomes
another of the first 128. A text that has neither letter is therefore the small form of no more texts than
those that differ from it in the case of the twenty-six letters.
-/

namespace ScriptOracle.Text

/-! ## The twenty-six letters -/

theorem asciiLower_of_wide {c : Char} (wide : 0x80 ≤ c.toNat) : asciiLower c = c := by
  refine if_neg fun capital => ?_
  have low : c.toNat ≤ 0x5A := capital.2
  omega

@[simp] theorem asciiLower_asciiLower (c : Char) : asciiLower (asciiLower c) = asciiLower c := by
  by_cases capital : 'A' ≤ c ∧ c ≤ 'Z'
  · have all : ∀ code < 0x5B, 0x41 ≤ code →
        asciiLower (asciiLower (Char.ofNat code)) = asciiLower (Char.ofNat code) := by decide
    have low : 0x41 ≤ c.toNat := capital.1
    have high : c.toNat ≤ 0x5A := capital.2
    have known := all c.toNat (Nat.lt_succ_of_le high) low
    rwa [Char.ofNat_toNat] at known
  · rw [asciiLower.eq_def c, if_neg capital, asciiLower, if_neg capital]

/-! ## All other letters -/

theorem exists_row_of_shiftOf? {rows : List Letter.Row} {code : Nat} {shift : Int}
    (found : shiftOf? rows code = some shift) :
    ∃ first last step, (first, last, step, shift) ∈ rows ∧ first ≤ code ∧ code ≤ last := by
  induction rows with
  | nil => cases found
  | cons row rows ih =>
      obtain ⟨first, last, step, moved⟩ := row
      rw [shiftOf?] at found
      split at found
      next inside =>
        cases found
        exact ⟨first, last, step, List.mem_cons_self, inside.1, inside.2.1⟩
      next =>
        obtain ⟨first, last, step, member, inside⟩ := ih found
        exact ⟨first, last, step, List.mem_cons_of_mem _ member, inside⟩

/-- No row leads below 128 from beyond, but the one of the sign for kelvins. -/
theorem toSmall_wide : ∀ row ∈ Letter.toSmall,
    row.2.1 < 0x80 ∨ 0x80 ≤ (row.1 : Int) + row.2.2.2 ∨ row = (0x212A, 0x212A, 1, -8383) := by
  decide +kernel

/-- The characters that nothing but they and their capitals become. -/
def IsOwn (c : Char) : Prop := c.toNat < 0x80 ∧ c ∉ ['i', 'k', '\x00']

theorem not_isOwn_of_wide {c : Char} (wide : 0x80 ≤ c.toNat) : ¬ IsOwn (asciiLower c) := by
  rw [asciiLower_of_wide wide]
  exact fun own => Nat.not_lt.2 wide own.1

theorem not_isOwn_ofNat {code : Nat} (wide : 0x80 ≤ code) : ¬ IsOwn (asciiLower (Char.ofNat code)) := by
  by_cases valid : code.isValidChar
  · have same : (Char.ofNat code).toNat = code := by
      rw [Char.ofNat, dif_pos valid]
      rfl
    exact not_isOwn_of_wide (by rwa [same])
  · rw [Char.ofNat, dif_neg valid]
    exact fun own => own.2 (by decide)

theorem not_isOwn_moved {c : Char} (wide : 0x80 ≤ c.toNat) :
    ¬ IsOwn (asciiLower (moved Letter.toSmall c)) := by
  unfold moved
  split
  next shift found =>
    obtain ⟨first, last, step, member, low, high⟩ := exists_row_of_shiftOf? found
    rcases toSmall_wide _ member with narrow | far | kelvin
    · exact absurd (Nat.lt_of_le_of_lt high narrow) (Nat.not_lt.2 wide)
    · have beyond : 0x80 ≤ (first : Int) + shift := far
      exact not_isOwn_ofNat (by omega)
    · cases kelvin
      rw [Nat.le_antisymm high low]
      exact fun own => own.2 (by decide)
  next => exact not_isOwn_of_wide wide

theorem exists_smallLetters_of_wide {c : Char} (wide : 0x80 ≤ c.toNat) (before after : List Char) :
    ∃ first rest, smallLetters before c after = first :: rest ∧ ¬ IsOwn (asciiLower first) := by
  unfold smallLetters
  rw [if_neg (Nat.not_lt.2 wide)]
  split
  · split
    · exact ⟨_, _, rfl, not_isOwn_of_wide (by decide)⟩
    · exact ⟨_, _, rfl, not_isOwn_of_wide (by decide)⟩
  · split
    · exact ⟨_, _, rfl, fun own => own.2 (by decide)⟩
    · exact ⟨_, _, rfl, not_isOwn_moved wide⟩

theorem map_asciiLower_lowerChars {text : List Char} (own : ∀ c ∈ text, IsOwn c)
    (before chars : List Char) :
    (lowerChars before chars).map asciiLower = text ↔ chars.map asciiLower = text := by
  induction chars generalizing before text with
  | nil => exact Iff.rfl
  | cons c after ih =>
      by_cases narrow : c.toNat < 0x80
      · have small : smallLetters before c after = [asciiLower c] := if_pos narrow
        rw [lowerChars, small, List.map_append, List.map_singleton, asciiLower_asciiLower, List.map_cons]
        cases text with
        | nil => exact ⟨nofun, nofun⟩
        | cons d text =>
            rw [List.singleton_append, List.cons.injEq, List.cons.injEq, ih (List.forall_mem_cons.1 own).2]
      · -- Neither side can begin with a character of the text.
        have wide := Nat.le_of_not_lt narrow
        obtain ⟨first, rest, small, foreign⟩ := exists_smallLetters_of_wide wide before after
        rw [lowerChars, small]
        constructor
        · rintro rfl
          exact absurd (own _ List.mem_cons_self) foreign
        · rintro rfl
          exact absurd (own _ List.mem_cons_self) (not_isOwn_of_wide wide)

theorem asciiLowerCase_lowerCase {text : String} (own : ∀ c ∈ text.toList, IsOwn c) (address : String) :
    asciiLowerCase (lowerCase address) = text ↔ asciiLowerCase address = text := by
  rw [← String.toList_inj, ← String.toList_inj, asciiLowerCase, asciiLowerCase, lowerCase,
    String.toList_ofList, String.toList_ofList, String.toList_ofList, map_asciiLower_lowerChars own]

/-! ## Addresses in other case -/

theorem inRanges_asciiLower (c : Char) :
    inRanges Letter.passedOver (asciiLower c).toNat = inRanges Letter.passedOver c.toNat ∧
      inRanges Letter.cased (asciiLower c).toNat = inRanges Letter.cased c.toNat := by
  by_cases capital : 'A' ≤ c ∧ c ≤ 'Z'
  · have all : ∀ code < 0x5B, 0x41 ≤ code →
        inRanges Letter.passedOver (asciiLower (Char.ofNat code)).toNat =
            inRanges Letter.passedOver (Char.ofNat code).toNat ∧
          inRanges Letter.cased (asciiLower (Char.ofNat code)).toNat =
            inRanges Letter.cased (Char.ofNat code).toNat := by decide +kernel
    have low : 0x41 ≤ c.toNat := capital.1
    have high : c.toNat ≤ 0x5A := capital.2
    have known := all c.toNat (Nat.lt_succ_of_le high) low
    rwa [Char.ofNat_toNat] at known
  · rw [asciiLower, if_neg capital]
    exact ⟨rfl, rfl⟩

theorem casedNext_map (chars : List Char) : casedNext (chars.map asciiLower) = casedNext chars := by
  induction chars with
  | nil => rfl
  | cons c rest ih =>
      obtain ⟨passed, cased⟩ := inRanges_asciiLower c
      unfold casedNext at ih ⊢
      cases skipped : inRanges Letter.passedOver c.toNat with
      | true => simp only [List.map_cons, List.dropWhile_cons, passed, skipped, ↓reduceIte, ih]
      | false =>
          simp only [List.map_cons, List.dropWhile_cons, passed, skipped, Bool.false_eq_true, ↓reduceIte,
            cased]

theorem smallLetters_map (before : List Char) (c : Char) (after : List Char) :
    smallLetters (before.map asciiLower) (asciiLower c) (after.map asciiLower) =
      smallLetters before c after := by
  by_cases narrow : c.toNat < 0x80
  · have small : (asciiLower c).toNat < 0x80 := by
      have all : ∀ code < 0x80, (asciiLower (Char.ofNat code)).toNat < 0x80 := by decide
      have known := all c.toNat narrow
      rwa [Char.ofNat_toNat] at known
    rw [smallLetters, if_pos small, smallLetters, if_pos narrow, asciiLower_asciiLower]
  · rw [asciiLower_of_wide (Nat.le_of_not_lt narrow)]
    simp only [smallLetters, casedNext_map]

theorem lowerChars_map (before chars : List Char) :
    lowerChars (before.map asciiLower) (chars.map asciiLower) = lowerChars before chars := by
  induction chars generalizing before with
  | nil => rfl
  | cons c after ih =>
      have rest := ih (c :: before)
      rw [List.map_cons] at rest
      rw [List.map_cons, lowerChars, lowerChars, smallLetters_map, rest]

/-- Which of the twenty-six letters of a text are capitals does not show in its small form: not even where
they decide whether a sigma is the last letter of its word. -/
theorem lowerCase_asciiLowerCase (text : String) : lowerCase (asciiLowerCase text) = lowerCase text := by
  rw [lowerCase, lowerCase, asciiLowerCase, String.toList_ofList]
  exact congrArg String.ofList (lowerChars_map [] text.toList)

end ScriptOracle.Text
