import ScriptOracle.Proofs.Json.Reader
import ScriptOracle.Script.Units

/-!
# Texts and units

Characters become one unit or a pair of halves, and come back as they were, whatever stands behind them.
So text that is made of whole characters is recovered from its units and the other way round. A half that
stands alone comes back as six other characters.
-/

namespace ScriptOracle.Script.Units

variable {unit high low : UInt16} {units rest : Units} {chars : List Char}

def isHalf (unit : UInt16) : Bool := isHigh unit || isLow unit

/-- Units in which every half stands in a pair. -/
inductive Whole : Units -> Prop where
  | nil : Whole []
  | single {unit : UInt16} {rest : Units} (alone : isHalf unit = false) (behind : Whole rest) :
      Whole (unit :: rest)
  | pair {high low : UInt16} {rest : Units} (first : isHigh high = true) (second : isLow low = true)
      (behind : Whole rest) : Whole (high :: low :: rest)

/-! ## Halves -/

theorem isHigh_iff : isHigh unit = true ↔ 0xD800 ≤ unit.toNat ∧ unit.toNat < 0xDC00 := by
  rw [isHigh, Bool.and_eq_true, decide_eq_true_iff, decide_eq_true_iff, UInt16.le_iff_toNat_le,
    UInt16.lt_iff_toNat_lt]
  rfl

theorem isLow_iff : isLow unit = true ↔ 0xDC00 ≤ unit.toNat ∧ unit.toNat < 0xE000 := by
  rw [isLow, Bool.and_eq_true, decide_eq_true_iff, decide_eq_true_iff, UInt16.le_iff_toNat_le,
    UInt16.lt_iff_toNat_lt]
  rfl

theorem isHalf_iff : isHalf unit = true ↔ 0xD800 ≤ unit.toNat ∧ unit.toNat < 0xE000 := by
  rw [isHalf, Bool.or_eq_true, isHigh_iff, isLow_iff]
  omega

theorem not_isHalf_iff : isHalf unit = false ↔ unit.toNat < 0xD800 ∨ 0xE000 ≤ unit.toNat := by
  rw [← Bool.not_eq_true, isHalf_iff]
  omega

theorem toNat_ofNat_of_lt {n : Nat} (small : n < 0x10000) : (UInt16.ofNat n).toNat = n := by
  rw [UInt16.toNat_ofNat', Nat.mod_eq_of_lt small]

theorem toNat_char {n : Nat} (valid : n < 0xD800 ∨ 0xE000 ≤ n ∧ n < 0x110000) :
    (Char.ofNat n).toNat = n := by
  have isValid : n.isValidChar := by
    rcases valid with low | high
    · exact .inl low
    · exact .inr ⟨by omega, high.2⟩
  rw [Char.ofNat, dif_pos isValid]
  rfl

/-! ## One character -/

/-- A character is one unit that is no half, or a pair of halves. -/
theorem ofChar_cases (c : Char) :
    (∃ unit, ofChar c = [unit] ∧ isHalf unit = false ∧ Char.ofNat unit.toNat = c) ∨
      ∃ high low, ofChar c = [high, low] ∧ isHigh high = true ∧ isLow low = true ∧
        ofPair high low = c := by
  have valid : c.toNat < 0xD800 ∨ 0xDFFF < c.toNat ∧ c.toNat < 0x110000 := c.valid
  unfold ofChar
  split
  next small =>
    refine .inl ⟨_, rfl, ?_, ?_⟩
    · rw [not_isHalf_iff, toNat_ofNat_of_lt small]
      omega
    · rw [toNat_ofNat_of_lt small, Char.ofNat_toNat]
  next large =>
    have first : (UInt16.ofNat (0xD800 + (c.toNat - 0x10000) / 0x400)).toNat =
        0xD800 + (c.toNat - 0x10000) / 0x400 := toNat_ofNat_of_lt (by omega)
    have second : (UInt16.ofNat (0xDC00 + (c.toNat - 0x10000) % 0x400)).toNat =
        0xDC00 + (c.toNat - 0x10000) % 0x400 := toNat_ofNat_of_lt (by omega)
    refine .inr ⟨_, _, rfl, ?_, ?_, ?_⟩
    · rw [isHigh_iff, first]
      omega
    · rw [isLow_iff, second]
      omega
    · have same : 0x10000 + (0xD800 + (c.toNat - 0x10000) / 0x400 - 0xD800) * 0x400 +
          (0xDC00 + (c.toNat - 0x10000) % 0x400 - 0xDC00) = c.toNat := by omega
      rw [ofPair, first, second, same, Char.ofNat_toNat]

theorem ofChar_ofNat (alone : isHalf unit = false) : ofChar (Char.ofNat unit.toNat) = [unit] := by
  have small := unit.toNat_lt
  have same : (Char.ofNat unit.toNat).toNat = unit.toNat := by
    have apart := not_isHalf_iff.1 alone
    exact toNat_char (by omega)
  rw [ofChar, same, if_pos small, UInt16.ofNat_toNat]

theorem ofChar_ofPair (first : isHigh high = true) (second : isLow low = true) :
    ofChar (ofPair high low) = [high, low] := by
  rw [isHigh_iff] at first
  rw [isLow_iff] at second
  have same : (ofPair high low).toNat =
      0x10000 + (high.toNat - 0xD800) * 0x400 + (low.toNat - 0xDC00) := toNat_char (by omega)
  have front : 0xD800 + (0x10000 + (high.toNat - 0xD800) * 0x400 + (low.toNat - 0xDC00) - 0x10000) / 0x400 =
      high.toNat := by omega
  have back : 0xDC00 + (0x10000 + (high.toNat - 0xD800) * 0x400 + (low.toNat - 0xDC00) - 0x10000) % 0x400 =
      low.toNat := by omega
  rw [ofChar, same, if_neg (by omega)]
  simp only [front, back, UInt16.ofNat_toNat]

/-! ## Many characters -/

theorem isHigh_of_not_isHalf (alone : isHalf unit = false) : isHigh unit = false :=
  (Bool.or_eq_false_iff.1 alone).1

/-- A unit that does not begin a pair is taken by itself. -/
theorem toChars_cons (apart : isHigh unit = true → ∀ next ∈ rest.head?, isLow next = false) :
    toChars (unit :: rest) = single unit ++ toChars rest := by
  cases rest with
  | nil => exact (List.append_nil _).symm
  | cons next rest =>
      rw [toChars, if_neg]
      intro both
      rw [Bool.and_eq_true] at both
      exact absurd both.2 (by rw [apart both.1 next rfl]; decide)

theorem toChars_of_not_isHalf (alone : isHalf unit = false) :
    toChars (unit :: rest) = Char.ofNat unit.toNat :: toChars rest := by
  have one : single unit = [Char.ofNat unit.toNat] := by
    rw [single, if_neg]
    rw [← Bool.not_eq_true] at alone
    exact alone
  rw [toChars_cons, one]
  · rfl
  · intro first
    rw [isHigh_of_not_isHalf alone] at first
    cases first

theorem toChars_of_pair (first : isHigh high = true) (second : isLow low = true) :
    toChars (high :: low :: rest) = ofPair high low :: toChars rest := by
  rw [toChars, if_pos (by rw [first, second]; rfl)]

theorem ofChars_append (chars others : List Char) :
    ofChars (chars ++ others) = ofChars chars ++ ofChars others := List.flatMap_append

theorem toChars_ofChar_append (c : Char) (rest : Units) :
    toChars (ofChar c ++ rest) = c :: toChars rest := by
  rcases ofChar_cases c with ⟨unit, one, alone, same⟩ | ⟨high, low, two, first, second, same⟩
  · rw [one, List.singleton_append, toChars_of_not_isHalf alone, same]
  · rw [two, ← same]
    exact toChars_of_pair first second

/-- What is made of characters comes back, whatever stands behind it. -/
theorem toChars_ofChars_append (chars : List Char) (rest : Units) :
    toChars (ofChars chars ++ rest) = chars ++ toChars rest := by
  induction chars with
  | nil => rfl
  | cons c chars ih =>
      rw [ofChars, List.flatMap_cons, List.append_assoc, toChars_ofChar_append]
      exact congrArg (c :: ·) ih

theorem toChars_ofChars (chars : List Char) : toChars (ofChars chars) = chars := by
  have all := toChars_ofChars_append chars []
  rwa [List.append_nil, toChars, List.append_nil] at all

@[simp] theorem toText_ofText (text : String) : toText (ofText text) = text := by
  rw [toText, ofText, toChars_ofChars, String.ofList_toList]

theorem ofText_inj {text other : String} : ofText text = ofText other ↔ text = other := by
  refine ⟨fun same => ?_, congrArg ofText⟩
  rw [← toText_ofText text, same, toText_ofText]

/-! ## Whole texts -/

theorem Whole.append (front : Whole units) (back : Whole rest) : Whole (units ++ rest) := by
  induction front with
  | nil => exact back
  | single alone _ ih => exact .single alone ih
  | pair first second _ ih => exact .pair first second ih

theorem whole_ofChar (c : Char) : Whole (ofChar c) := by
  rcases ofChar_cases c with ⟨unit, one, alone, -⟩ | ⟨high, low, two, first, second, -⟩
  · rw [one]
    exact .single alone .nil
  · rw [two]
    exact .pair first second .nil

theorem whole_ofChars (chars : List Char) : Whole (ofChars chars) := by
  induction chars with
  | nil => exact .nil
  | cons c chars ih => exact (whole_ofChar c).append ih

theorem Whole.ofChars_toChars (whole : Whole units) : ofChars (toChars units) = units := by
  induction whole with
  | nil => rfl
  | @single unit rest alone _ ih =>
      rw [toChars_of_not_isHalf alone, ofChars, List.flatMap_cons, ofChar_ofNat alone]
      exact congrArg (unit :: ·) ih
  | @pair high low rest first second _ ih =>
      rw [toChars_of_pair first second, ofChars, List.flatMap_cons, ofChar_ofPair first second]
      exact congrArg (high :: low :: ·) ih

theorem ofChars_toChars_iff : ofChars (toChars units) = units ↔ Whole units :=
  ⟨fun same => same ▸ whole_ofChars _, Whole.ofChars_toChars⟩

/-- Exactly the whole texts come back from their characters. -/
theorem ofText_toText_iff : ofText (toText units) = units ↔ Whole units := by
  rw [ofText, toText, String.toList_ofList, ofChars_toChars_iff]

/-! ## Halves that stand alone -/

def WritesHalf (chars : List Char) : Prop := ∃ half, isHalf half = true ∧ escaped half <:+: chars

theorem single_of_isHalf (half : isHalf unit = true) : single unit = escaped unit := if_pos half

theorem writesHalf_of_not_whole (units : Units) (broken : ¬Whole units) :
    WritesHalf (toChars units) := by
  induction units using toChars.induct with
  | case1 => exact absurd .nil broken
  | case2 unit =>
      by_cases half : isHalf unit = true
      · have written : toChars [unit] = escaped unit := single_of_isHalf half
        exact ⟨unit, half, written ▸ List.infix_rfl⟩
      · exact absurd (.single (Bool.eq_false_iff.2 half) .nil) broken
  | case3 high low rest both ih =>
      obtain ⟨first, second⟩ := Bool.and_eq_true_iff.1 both
      obtain ⟨half, isHalf, inside⟩ := ih fun whole => broken (.pair first second whole)
      rw [toChars_of_pair first second]
      exact ⟨half, isHalf, inside.trans (List.suffix_cons _ _).isInfix⟩
  | case4 high low rest apart ih =>
      rw [toChars, if_neg apart]
      by_cases half : isHalf high = true
      · rw [single_of_isHalf half]
        exact ⟨high, half, (List.prefix_append _ _).isInfix⟩
      · have behind : ¬Whole (low :: rest) := fun whole =>
          broken (.single (Bool.eq_false_iff.2 half) whole)
        obtain ⟨half, isHalf, inside⟩ := ih behind
        exact ⟨half, isHalf, inside.trans (List.suffix_append _ _).isInfix⟩

theorem ofChars_backslash (chars : List Char) : ∃ tail, ofChars ('\\' :: chars) = 0x5C :: tail := by
  have backslash : ofChar '\\' = [0x5C] := by decide
  rw [ofChars, List.flatMap_cons, backslash]
  exact ⟨_, rfl⟩

/-- What is written out begins with a backslash, which is no half. -/
theorem ofChars_escaped (unit : UInt16) (rest : List Char) :
    ∃ tail, ofChars (escaped unit ++ rest) = 0x5C :: tail := ofChars_backslash _

theorem head?_ofChars (chars : List Char) : ∀ next ∈ (ofChars chars).head?, isLow next = false := by
  intro next found
  cases chars with
  | nil => cases found
  | cons c chars =>
      rw [ofChars, List.flatMap_cons] at found
      rcases ofChar_cases c with ⟨unit, one, alone, -⟩ | ⟨high, low, two, first, -⟩
      · rw [one] at found
        cases found
        exact (Bool.or_eq_false_iff.1 alone).2
      · rw [two] at found
        cases found
        rw [isHigh_iff] at first
        rw [← Bool.not_eq_true, isLow_iff]
        omega

section Broken

variable {half : UInt16} (isHalf : isHalf half = true) (before after : List Char)

def broken (before : List Char) (half : UInt16) (after : List Char) : Units :=
  ofChars before ++ half :: ofChars after

include isHalf in
theorem toChars_broken : toChars (broken before half after) = before ++ escaped half ++ after := by
  rw [broken, toChars_ofChars_append, toChars_cons (fun _ => head?_ofChars after),
    single_of_isHalf isHalf, toChars_ofChars, List.append_assoc]

include isHalf in
theorem not_whole_broken : ¬Whole (broken before half after) := by
  intro whole
  have same := whole.ofChars_toChars
  obtain ⟨tail, written⟩ := ofChars_escaped half after
  rw [toChars_broken isHalf, broken, List.append_assoc, ofChars_append, written] at same
  obtain ⟨rfl, -⟩ := List.cons.inj (List.append_cancel_left same)
  exact absurd isHalf (by decide)

end Broken

/-- Text is told apart from all other units by its characters if it is whole and no half is written out
in it. -/
theorem toChars_unique_iff :
    (∀ other, toChars other = toChars units → other = units) ↔
      Whole units ∧ ¬WritesHalf (toChars units) := by
  constructor
  · intro unique
    have whole : Whole units := ofChars_toChars_iff.1 (unique _ (toChars_ofChars _))
    refine ⟨whole, ?_⟩
    rintro ⟨half, isHalf, before, after, same⟩
    have confused := unique _ ((toChars_broken isHalf before after).trans same)
    exact not_whole_broken isHalf before after (confused ▸ whole)
  · rintro ⟨whole, unwritten⟩ other same
    by_cases wholeToo : Whole other
    · rw [← wholeToo.ofChars_toChars, same, whole.ofChars_toChars]
    · exact absurd (same ▸ writesHalf_of_not_whole other wholeToo) unwritten

/-! ## Indices -/

/-- A decimal digit is one unit with the value of the digit. -/
theorem exists_digit_unit {c : Char} (digit : c.isDigit = true) :
    ∃ unit, ofChar c = [unit] ∧ digit? unit = some (c.toNat - 0x30) ∧ (unit = 0x30 → c = '0') := by
  have all : ∀ n < 58, 48 ≤ n → ofChar (Char.ofNat n) = [UInt16.ofNat n] ∧
      digit? (UInt16.ofNat n) = some (n - 0x30) ∧ (UInt16.ofNat n = 0x30 → Char.ofNat n = '0') := by decide
  obtain ⟨least, greatest⟩ := Json.Reader.digit_bounds digit
  obtain ⟨one, value, zero⟩ := all c.toNat greatest least
  rw [Char.ofNat_toNat] at one zero
  exact ⟨_, one, value, zero⟩

theorem digits?_ofChars {digits : List Char} (all : ∀ c ∈ digits, c.isDigit = true) (start : Nat) :
    digits? start (ofChars digits) = some (Nat.ofDigitChars 10 digits start) := by
  induction digits generalizing start with
  | nil => rfl
  | cons c digits ih =>
      obtain ⟨first, others⟩ := List.forall_mem_cons.1 all
      obtain ⟨unit, one, value, -⟩ := exists_digit_unit first
      rw [ofChars, List.flatMap_cons, one, List.singleton_append, digits?, value, Option.bind_some,
        Nat.ofDigitChars_cons]
      exact ih others _

theorem length_ofChars_digits {digits : List Char} (all : ∀ c ∈ digits, c.isDigit = true) :
    (ofChars digits).length = digits.length := by
  induction digits with
  | nil => rfl
  | cons c digits ih =>
      obtain ⟨first, others⟩ := List.forall_mem_cons.1 all
      obtain ⟨unit, one, -, -⟩ := exists_digit_unit first
      rw [ofChars, List.flatMap_cons, one, List.length_append, List.length_cons, ← ofChars, ih others]
      exact Nat.add_comm _ _

/-- The decimal of an index is the name of that index. -/
theorem index?_ofNat {n : Nat} (small : n < indexBound) : index? (ofNat n) = some n := by
  have bound : n < 10 ^ 10 := Nat.lt_trans small (by decide)
  have digits : ∀ c ∈ Double.decimal n, c.isDigit = true := fun _ => Json.isDigit_decimal
  have value : digits? 0 (ofNat n) = some n := by
    rw [ofNat, digits?_ofChars digits, Double.decimal,
      Nat.ofDigitChars_toDigits (by decide) (by decide)]
  have short : (ofNat n).length ≤ 10 := by
    rw [ofNat, length_ofChars_digits digits, Double.decimal,
      Nat.length_toDigits_le_iff (by decide) (by decide)]
    exact bound
  rcases Nat.eq_zero_or_pos n with rfl | positive
  · rfl
  obtain ⟨c, rest, front, other⟩ := Json.Reader.exists_decimal_eq_cons positive
  have first : c.isDigit = true := digits c (front ▸ List.mem_cons_self)
  obtain ⟨unit, one, single, zero⟩ := exists_digit_unit first
  have written : ofNat n = unit :: ofChars rest := by
    rw [ofNat, front, ofChars, List.flatMap_cons, one]
    rfl
  rw [written] at value short ⊢
  cases more : ofChars rest with
  | nil =>
      rw [more, digits?, single] at value
      rw [index?, single, ← value, Option.bind_some, digits?, Nat.mul_zero, Nat.zero_add]
  | cons next tail =>
      rw [more] at value short
      rw [index?, if_neg, value, Option.filter_some, if_pos (decide_eq_true small)]
      · rintro (leading | long)
        · exact other (zero leading)
        · exact absurd short (Nat.not_le.2 long)
      · exact List.cons_ne_nil _ _

end ScriptOracle.Script.Units
