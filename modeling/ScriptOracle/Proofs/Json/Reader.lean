import ScriptOracle.Json.Reader
import ScriptOracle.Proofs.Json.Fields
import ScriptOracle.Proofs.Json.Printer

/-!
# Reading values back

The reader of a text in quotes takes escapes back and passes over every other byte, for no byte of a
character beyond ASCII looks like a quote, a backslash or a control character. A number ends where no digit
stands, and whatever the printer puts behind a value is none. So a value is read back from its compact text,
and nothing is left over, as long as there are no doubles in it.
-/

namespace ScriptOracle.Json

def bytes (chars : List Char) : Bytes := chars.flatMap String.utf8EncodeChar

@[simp] theorem bytes_nil : bytes [] = [] := rfl

@[simp] theorem bytes_cons (c : Char) (rest : List Char) :
    bytes (c :: rest) = String.utf8EncodeChar c ++ bytes rest := rfl

@[simp] theorem bytes_append (front back : List Char) :
    bytes (front ++ back) = bytes front ++ bytes back := List.flatMap_append

theorem utf8_compact (value : Json) : Text.utf8 value.compact = bytes value.compactChars :=
  Text.utf8_ofList _

theorem utf8_eq_bytes (text : String) : Text.utf8 text = bytes text.toList := by
  rw [bytes, ← Text.utf8_ofList, String.ofList_toList]

namespace Reader

/-! ## Texts in quotes -/

/-- A byte that stands for itself inside quotes. -/
structure Plain (byte : UInt8) : Prop where
  quote : byte ≠ 0x22
  slash : byte ≠ 0x5C
  control : ¬byte < 0x20

theorem plain_of_toNat {n : Nat} (small : n < 256) (quote : n ≠ 0x22) (slash : n ≠ 0x5C)
    (control : 0x20 ≤ n) : Plain (UInt8.ofNat n) := by
  have value : (UInt8.ofNat n).toNat = n := UInt8.toNat_ofNat_of_lt' small
  constructor
  · intro same
    exact quote (by rw [← value, same]; rfl)
  · intro same
    exact slash (by rw [← value, same]; rfl)
  · rw [UInt8.lt_iff_toNat_lt, value]
    exact Nat.not_lt.2 control

theorem plain_of_high {n : Nat} (high : 0x80 ≤ n) (small : n < 256) : Plain (UInt8.ofNat n) :=
  plain_of_toNat small (by omega) (by omega) (by omega)

/-- The bytes of a character beyond ASCII have their first bit set. -/
theorem plain_utf8EncodeChar {c : Char} (quote : c ≠ '"') (slash : c ≠ '\\')
    (control : ¬c.toNat < 0x20) : ∀ byte ∈ String.utf8EncodeChar c, Plain byte := by
  have quote' : c.toNat ≠ 0x22 := fun same => quote (by rw [← Char.ofNat_toNat c, same])
  have slash' : c.toNat ≠ 0x5C := fun same => slash (by rw [← Char.ofNat_toNat c, same])
  have code : c.toNat = c.val.toNat := rfl
  intro byte member
  unfold String.utf8EncodeChar at member
  dsimp only at member
  split_ifs at member with one two three
  all_goals simp only [List.mem_cons, List.not_mem_nil, or_false] at member
  · rw [member]
    exact plain_of_toNat (by omega) quote' slash' (by omega)
  · rcases member with rfl | rfl <;> exact plain_of_high (by omega) (by omega)
  · rcases member with rfl | rfl | rfl <;> exact plain_of_high (by omega) (by omega)
  · rcases member with rfl | rfl | rfl | rfl <;> exact plain_of_high (by omega) (by omega)

theorem hexValue?_digit {value : Nat} (small : value < 16) :
    String.utf8EncodeChar (Hexadecimal.digit value) =
        [UInt8.ofNat (Hexadecimal.digit value).toNat] ∧
      hexValue? (UInt8.ofNat (Hexadecimal.digit value).toNat) = some value := by
  have all : ∀ value < 16, String.utf8EncodeChar (Hexadecimal.digit value) =
        [UInt8.ofNat (Hexadecimal.digit value).toNat] ∧
      hexValue? (UInt8.ofNat (Hexadecimal.digit value).toNat) = some value := by decide
  exact all value small

/-- The escape of a control character without a letter of its own. -/
theorem escape_control {c : Char} (control : c.toNat < 0x20) (rest : Bytes) :
    escape (bytes ['u', '0', '0', Hexadecimal.digit (c.toNat / 16),
        Hexadecimal.digit (c.toNat % 16)] ++ rest) =
      .ok (String.utf8EncodeChar c, rest) := by
  obtain ⟨highByte, high⟩ := hexValue?_digit (show c.toNat / 16 < 16 by omega)
  obtain ⟨lowByte, low⟩ := hexValue?_digit (Nat.mod_lt c.toNat (by decide : 0 < 16))
  have code : c.toNat / 16 * 16 + c.toNat % 16 = c.toNat := by omega
  have digits : fourDigits (bytes ['0', '0', Hexadecimal.digit (c.toNat / 16),
      Hexadecimal.digit (c.toNat % 16)] ++ rest) = .ok (c.toNat, rest) := by
    show fourDigits (0x30 :: 0x30 :: (String.utf8EncodeChar _ ++ (String.utf8EncodeChar _ ++ []))
      ++ rest) = _
    rw [highByte, lowByte]
    simp [fourDigits, show hexValue? 0x30 = some 0 from rfl, high, low, code]
  show escape (0x75 :: (bytes ['0', '0', Hexadecimal.digit (c.toNat / 16),
    Hexadecimal.digit (c.toNat % 16)] ++ rest)) = _
  simp only [escape, digits]
  rw [if_neg (by decide), if_neg (by decide), if_neg (by decide), if_neg (by decide),
    if_neg (by decide), if_neg (by decide), if_pos trivial, if_neg (by omega), if_neg (by omega),
    Char.ofNat_toNat]

/-- How one character stands inside quotes: as itself, or behind a backslash by something that the reader
takes back. -/
theorem escapeChar_cases (c : Char) :
    (escapeChar c = [c] ∧ ∀ byte ∈ String.utf8EncodeChar c, Plain byte) ∨
      ∃ mark, escapeChar c = '\\' :: mark ∧
        ∀ rest, escape (bytes mark ++ rest) = .ok (String.utf8EncodeChar c, rest) := by
  unfold escapeChar
  split_ifs with quote slash backspace feed line start tab control
  all_goals try exact .inr ⟨_, rfl, fun rest => by subst c; rfl⟩
  · exact .inr ⟨_, rfl, escape_control control⟩
  · exact .inl ⟨rfl, plain_utf8EncodeChar quote slash control⟩

theorem quotedBytes_plain {plain : Bytes} (all : ∀ byte ∈ plain, Plain byte) (fuel : Nat)
    (taken rest : Bytes) :
    quotedBytes (fuel + plain.length) taken (plain ++ rest) =
      quotedBytes fuel (plain.reverse ++ taken) rest := by
  induction plain generalizing taken with
  | nil => rfl
  | cons byte plain ih =>
      obtain ⟨first, others⟩ := List.forall_mem_cons.1 all
      rw [List.length_cons, ← Nat.add_assoc, List.cons_append, quotedBytes,
        if_neg first.quote, if_neg first.slash, if_neg first.control,
        ih others, List.reverse_cons, List.append_assoc, List.singleton_append]

/-- A text is read back up to its closing quote. The fuel counts steps, of which there is at most one for
each byte. -/
theorem quotedBytes_escaped (chars : List Char) (taken rest : Bytes) {fuel : Nat}
    (enough : (bytes (chars.flatMap escapeChar)).length < fuel) :
    quotedBytes fuel taken (bytes (chars.flatMap escapeChar) ++ 0x22 :: rest) =
      .ok (taken.reverse ++ bytes chars, rest) := by
  induction chars generalizing taken fuel with
  | nil =>
      obtain ⟨fuel, rfl⟩ := Nat.exists_eq_succ_of_ne_zero (Nat.ne_of_gt enough)
      simp [quotedBytes]
  | cons c chars ih =>
      rw [List.flatMap_cons, bytes_append, List.length_append] at enough
      rw [List.flatMap_cons, bytes_append, List.append_assoc]
      -- A character that stands for itself takes a step for each of its bytes, an escape only one.
      rcases escapeChar_cases c with ⟨itself, plain⟩ | ⟨mark, escaped, takenBack⟩
      · rw [itself, bytes_cons, bytes_nil, List.append_nil] at enough ⊢
        obtain ⟨more, rfl⟩ : ∃ more, fuel = more + (String.utf8EncodeChar c).length :=
          ⟨fuel - (String.utf8EncodeChar c).length, by omega⟩
        rw [quotedBytes_plain plain, ih _ (by omega), List.reverse_append, List.reverse_reverse,
          List.append_assoc, bytes_cons]
      · have length : (bytes (escapeChar c)).length = 1 + (bytes mark).length := by
          rw [escaped, bytes_cons, List.length_append]
          rfl
        obtain ⟨fuel, rfl⟩ := Nat.exists_eq_succ_of_ne_zero (show fuel ≠ 0 by omega)
        rw [escaped, bytes_cons, show String.utf8EncodeChar '\\' = [0x5C] from rfl,
          List.append_assoc, List.singleton_append, quotedBytes, if_neg (by decide), if_pos rfl,
          takenBack]
        dsimp only
        rw [ih _ (by omega), List.reverse_append, List.reverse_reverse, List.append_assoc,
          bytes_cons]

/-- A text is read back from behind its opening quote on. -/
theorem quoted_quote (text : String) (rest : Bytes) :
    ∃ behind, bytes (quote text) ++ rest = 0x22 :: behind ∧ quoted behind = .ok (text, rest) := by
  refine ⟨bytes (text.toList.flatMap escapeChar) ++ 0x22 :: rest, ?_, ?_⟩
  · simp only [quote, bytes_append, bytes_cons, bytes_nil, List.append_nil, List.cons_append,
      show String.utf8EncodeChar '"' = [0x22] from rfl, List.nil_append, List.append_assoc]
  · have enough : (bytes (text.toList.flatMap escapeChar)).length <
        (bytes (text.toList.flatMap escapeChar) ++ 0x22 :: rest).length + 1 := by
      rw [List.length_append]
      omega
    rw [quoted, quotedBytes_escaped _ _ _ enough, List.reverse_nil, List.nil_append]
    dsimp only
    rw [← utf8_eq_bytes, Text.ofUtf8?_utf8]

/-! ## Numbers -/

/-- What may stand behind a number: nothing, or a byte that does not go on with it. -/
def Stops (rest : Bytes) : Prop :=
  ∀ byte ∈ rest.head?, isDigit byte = false ∧ byte ≠ 0x2E ∧ byte ≠ 0x65 ∧ byte ≠ 0x45

theorem stops_nil : Stops [] := nofun

theorem stops_cons {byte : UInt8} (other : byte = 0x2C ∨ byte = 0x5D ∨ byte = 0x7D) (rest : Bytes) :
    Stops (byte :: rest) := by
  intro first found
  cases Option.mem_some_iff.1 found
  rcases other with rfl | rfl | rfl <;> decide

/-- A decimal digit is one byte with the value of the digit. -/
structure DigitByte (c : Char) (byte : UInt8) : Prop where
  encoded : String.utf8EncodeChar c = [byte]
  digit : isDigit byte = true
  value : digitValue byte = c.toNat - '0'.toNat

theorem digit_bounds {c : Char} (digit : c.isDigit = true) : 48 ≤ c.toNat ∧ c.toNat < 58 := by
  simp only [Char.isDigit, Bool.and_eq_true, decide_eq_true_eq] at digit
  exact ⟨digit.1, Nat.lt_succ_of_le digit.2⟩

theorem exists_digitByte {c : Char} (digit : c.isDigit = true) : ∃ byte, DigitByte c byte := by
  have all : ∀ n < 58, 48 ≤ n → String.utf8EncodeChar (Char.ofNat n) = [UInt8.ofNat n] ∧
      isDigit (UInt8.ofNat n) = true ∧
      digitValue (UInt8.ofNat n) = (Char.ofNat n).toNat - '0'.toNat := by decide
  obtain ⟨least, greatest⟩ := digit_bounds digit
  obtain ⟨encoded, isDigit, value⟩ := all c.toNat greatest least
  rw [Char.ofNat_toNat] at encoded value
  exact ⟨_, encoded, isDigit, value⟩

theorem le_ofDigitChars (digits : List Char) (start : Nat) :
    start ≤ Nat.ofDigitChars 10 digits start := by
  induction digits generalizing start with
  | nil => exact Nat.le_refl _
  | cons c digits ih =>
      rw [Nat.ofDigitChars_cons]
      exact Nat.le_trans (by omega) (ih _)

theorem whole_digits {digits : List Char} (all : ∀ c ∈ digits, c.isDigit = true) {rest : Bytes}
    (stops : Stops rest) {significand : Nat}
    (fits : Nat.ofDigitChars 10 digits significand ≤ significandLimit) (negative : Bool) :
    whole negative significand (bytes digits ++ rest) =
      afterWhole negative (Nat.ofDigitChars 10 digits significand) rest := by
  induction digits generalizing significand with
  | nil =>
      cases rest with
      | nil => rfl
      | cons byte rest =>
          have other : isDigit byte = false := (stops byte rfl).1
          rw [bytes_nil, List.nil_append, whole, if_neg (by simp [other]), Nat.ofDigitChars_nil]
  | cons c digits ih =>
      obtain ⟨first, others⟩ := List.forall_mem_cons.1 all
      obtain ⟨byte, digit⟩ := exists_digitByte first
      rw [Nat.ofDigitChars_cons, Nat.mul_comm] at fits ⊢
      rw [bytes_cons, digit.encoded, List.singleton_append, List.cons_append, whole,
        if_pos digit.digit, digit.value]
      have within := Nat.le_trans (le_ofDigitChars digits _) fits
      rw [if_neg (Nat.not_lt.2 within), ih others fits]

/-- The decimal of a number other than zero does not start with a zero. -/
theorem exists_decimal_eq_cons {n : Nat} (positive : 0 < n) :
    ∃ c digits, Double.decimal n = c :: digits ∧ c ≠ '0' := by
  induction n using Nat.strongRecOn with
  | ind n ih =>
    rw [Double.decimal, Nat.toDigits_eq_if (by decide)]
    split
    next small =>
      have all : ∀ n < 10, 0 < n → n.digitChar ≠ '0' := by decide
      exact ⟨_, [], rfl, all n small positive⟩
    next large =>
      obtain ⟨c, digits, front, other⟩ := ih (n / 10) (by omega) (by omega)
      exact ⟨c, digits ++ [(n % 10).digitChar], by rw [← Double.decimal, front]; rfl, other⟩

theorem number_decimal {n : Nat} (fits : n ≤ significandLimit) {rest : Bytes} (stops : Stops rest)
    (negative : Bool) :
    number negative (bytes (Double.decimal n) ++ rest) = afterWhole negative n rest := by
  rcases Nat.eq_zero_or_pos n with rfl | positive
  · show number negative (0x30 :: rest) = _
    cases rest with
    | nil => rfl
    | cons byte rest =>
        have other : isDigit byte = false := (stops byte rfl).1
        simp only [number, if_pos, other, Bool.false_eq_true, if_false]
  · obtain ⟨c, digits, front, other⟩ := exists_decimal_eq_cons positive
    have all : ∀ c ∈ Double.decimal n, c.isDigit = true := fun c => isDigit_decimal
    rw [front] at all
    obtain ⟨first, others⟩ := List.forall_mem_cons.1 all
    obtain ⟨byte, digit⟩ := exists_digitByte first
    have same : Nat.ofDigitChars 10 digits (c.toNat - '0'.toNat) = n := by
      have read : Nat.ofDigitChars 10 (Double.decimal n) 0 = n := Nat.ofDigitChars_ten_toDigits
      rwa [front, Nat.ofDigitChars_cons, Nat.mul_zero, Nat.zero_add] at read
    have notZero : byte ≠ 0x30 := by
      rintro rfl
      have zero : 0 = c.toNat - 48 := digit.value
      have code : c.toNat = 48 := by
        have least := (digit_bounds first).1
        omega
      exact other (by rw [← Char.ofNat_toNat c, code])
    rw [front, bytes_cons, digit.encoded, List.singleton_append, List.cons_append, number.eq_def]
    dsimp only
    rw [if_neg notZero, if_pos digit.digit, digit.value, whole_digits others stops (by rwa [same]), same]

theorem afterWhole_stops (negative : Bool) (significand : Nat) {rest : Bytes} (stops : Stops rest) :
    afterWhole negative significand rest =
      if !negative then .ok (.integer significand, rest)
      else if significand = 0 ∨ 1 <<< 63 < significand then
        .ok (.double (-(Float.ofNat significand)), rest)
      else .ok (.integer (-significand), rest) := by
  unfold afterWhole
  split
  next rest => exact absurd rfl (stops 0x2E rfl).2.1
  next rest => exact absurd rfl (stops 0x65 rfl).2.2.1
  next rest => exact absurd rfl (stops 0x45 rfl).2.2.2
  next => rfl

/-! ## Values -/

/-- A value is read back at a depth, from its text and whatever may stand behind it. -/
def ReadBack (depth : Nat) (value : Json) : Prop :=
  ∀ fuel rest, Stops rest → 3 * (bytes value.compactChars).length < fuel →
    Reader.value fuel depth (bytes value.compactChars ++ rest) = .ok (value, rest)

/-- The text of a value starts with a byte that is no blank and closes no list. -/
def Opens (value : Json) : Prop :=
  ∃ byte behind, bytes value.compactChars = byte :: behind ∧ isBlank byte = false ∧ byte ≠ 0x5D

theorem skipBlanks_cons {byte : UInt8} (solid : isBlank byte = false) (rest : Bytes) :
    skipBlanks (byte :: rest) = byte :: rest := by
  rw [skipBlanks, List.dropWhile_cons_of_neg (by simp [solid])]

theorem ne_of_isDigit {byte other : UInt8} (digit : isDigit byte = true)
    (noDigit : isDigit other = false) : byte ≠ other := by
  rintro rfl
  rw [digit] at noDigit
  cases noDigit

theorem isDigit_opens {byte : UInt8} (digit : isDigit byte = true) :
    isBlank byte = false ∧ byte ≠ 0x5D := by
  have solid : isBlank byte = false := by
    simp [isBlank, ne_of_isDigit digit (show isDigit 0x20 = false by decide),
      ne_of_isDigit digit (show isDigit 0x0A = false by decide),
      ne_of_isDigit digit (show isDigit 0x09 = false by decide),
      ne_of_isDigit digit (show isDigit 0x0D = false by decide)]
  exact ⟨solid, ne_of_isDigit digit (by decide)⟩

theorem value_digit {byte : UInt8} (digit : isDigit byte = true) (fuel depth : Nat) (rest : Bytes) :
    value (fuel + 1) depth (byte :: rest) = number false (byte :: rest) := by
  rw [value, skipBlanks_cons (isDigit_opens digit).1]
  dsimp only
  rw [if_neg (ne_of_isDigit digit (by decide)), if_neg (ne_of_isDigit digit (by decide)),
    if_neg (ne_of_isDigit digit (by decide)), if_neg (ne_of_isDigit digit (by decide)), if_pos digit]

theorem readBack_string (depth : Nat) (text : String) : ReadBack depth (.string text) := by
  intro fuel rest _ enough
  obtain ⟨fuel, rfl⟩ : ∃ more, fuel = more + 1 := ⟨fuel - 1, by omega⟩
  obtain ⟨behind, front, read⟩ := quoted_quote text rest
  rw [compactChars, front, value, skipBlanks_cons (by decide)]
  dsimp only
  rw [if_neg (by decide), if_neg (by decide), if_neg (by decide), if_neg (by decide),
    if_neg (by decide), if_pos rfl, read]

theorem readBack_integer (depth : Nat) {n : Int} (least : -0x8000000000000000 ≤ n)
    (greatest : n < 0x10000000000000000) : ReadBack depth (.integer n) := by
  intro fuel rest stops enough
  obtain ⟨fuel, rfl⟩ : ∃ more, fuel = more + 1 := ⟨fuel - 1, by omega⟩
  rw [compactChars, integerText]
  split
  next negative =>
    have fits : n.natAbs ≤ significandLimit := by
      have limit : significandLimit = 0xFFFFFFFFFFFFFFFF := rfl
      omega
    have range : ¬(n.natAbs = 0 ∨ 1 <<< 63 < n.natAbs) := by omega
    rw [bytes_cons, show String.utf8EncodeChar '-' = [0x2D] from rfl, List.append_assoc,
      List.singleton_append, value, skipBlanks_cons (by decide)]
    dsimp only
    rw [if_neg (by decide), if_neg (by decide), if_neg (by decide), if_pos rfl,
      number_decimal fits stops, afterWhole_stops _ _ stops, if_neg (by decide), if_neg range,
      show -(n.natAbs : Int) = n by omega]
  next positive =>
    have fits : n.natAbs ≤ significandLimit := by
      have limit : significandLimit = 0xFFFFFFFFFFFFFFFF := rfl
      omega
    have size : ((n.natAbs : Nat) : Int) = n := by omega
    obtain ⟨c, digits, front⟩ := List.exists_cons_of_ne_nil (numeral_decimal n.natAbs).nonempty
    have first : c.isDigit = true := isDigit_decimal (front ▸ List.mem_cons_self)
    obtain ⟨byte, digit⟩ := exists_digitByte first
    have read := number_decimal fits stops false
    rw [front, bytes_cons, digit.encoded, List.singleton_append, List.cons_append] at read ⊢
    rw [value_digit digit.digit, read, afterWhole_stops _ _ stops, if_pos (by decide), size]

section Parts

variable {depth : Nat}

theorem stops_behindFirst {α : Type} {text : α -> List Char} (rest : List α) {close : UInt8}
    (closes : close = 0x5D ∨ close = 0x7D) (after : Bytes) :
    Stops (bytes (behindFirst text rest) ++ close :: after) := by
  cases rest with
  | nil => exact stops_cons (.inr closes) after
  | cons next rest => exact stops_cons (.inl rfl) _

theorem item_readBack {item : Json} {rest after : Bytes} {more : List Json}
    {fuel : Nat} (back : ReadBack depth item) (stops : Stops rest)
    (enough : 3 * (bytes item.compactChars).length < fuel)
    (others : Reader.items fuel depth false rest = .ok (more, after)) :
    Reader.item (fuel + 1) depth (bytes item.compactChars ++ rest) = .ok (item :: more, after) := by
  rw [Reader.item, back fuel rest stops enough]
  dsimp only
  rw [others]

theorem items_behindFirst {items : List Json} (back : ∀ item ∈ items, ReadBack depth item)
    (opens : ∀ item ∈ items, Opens item) (rest : Bytes) {fuel : Nat}
    (enough : 3 * (bytes (behindFirst compactChars items)).length < fuel) :
    Reader.items fuel depth false (bytes (behindFirst compactChars items) ++ 0x5D :: rest) =
      .ok (items, rest) := by
  induction items generalizing fuel with
  | nil =>
      obtain ⟨fuel, rfl⟩ : ∃ more, fuel = more + 1 := ⟨fuel - 1, by omega⟩
      rw [behindFirst, bytes_nil, List.nil_append, Reader.items, skipBlanks_cons (by decide)]
      rfl
  | cons item items ih =>
      obtain ⟨backFirst, backOthers⟩ := List.forall_mem_cons.1 back
      obtain ⟨⟨byte, behind, front, solid, inside⟩, opensOthers⟩ := List.forall_mem_cons.1 opens
      rw [behindFirst, separated_cons, bytes_cons, bytes_append,
        show String.utf8EncodeChar ',' = [0x2C] from rfl, List.singleton_append] at enough ⊢
      rw [List.length_cons, List.length_append] at enough
      obtain ⟨fuel, rfl⟩ : ∃ more, fuel = more + 2 := ⟨fuel - 2, by omega⟩
      have read := item_readBack backFirst (stops_behindFirst items (.inl rfl) rest)
        (show _ < fuel by omega) (ih backOthers opensOthers (by omega))
      rw [List.cons_append, Reader.items, skipBlanks_cons (by decide)]
      dsimp only
      rw [if_neg (by decide), if_neg (by decide), if_pos rfl, List.append_assoc, front, List.cons_append,
        skipBlanks_cons solid]
      dsimp only
      rw [if_neg inside, ← List.cons_append, ← front, read]

theorem items_separated {items : List Json} (back : ∀ item ∈ items, ReadBack depth item)
    (opens : ∀ item ∈ items, Opens item) (rest : Bytes) {fuel : Nat}
    (enough : 3 * (bytes (separated compactChars items)).length + 2 < fuel) :
    Reader.items fuel depth true (bytes (separated compactChars items) ++ 0x5D :: rest) =
      .ok (items, rest) := by
  cases items with
  | nil =>
      obtain ⟨fuel, rfl⟩ : ∃ more, fuel = more + 1 := ⟨fuel - 1, by omega⟩
      rw [separated, bytes_nil, List.nil_append, Reader.items, skipBlanks_cons (by decide)]
      rfl
  | cons item items =>
      obtain ⟨backFirst, backOthers⟩ := List.forall_mem_cons.1 back
      obtain ⟨⟨byte, behind, front, solid, inside⟩, opensOthers⟩ := List.forall_mem_cons.1 opens
      rw [separated_cons, bytes_append] at enough ⊢
      rw [List.length_append] at enough
      obtain ⟨fuel, rfl⟩ : ∃ more, fuel = more + 2 := ⟨fuel - 2, by omega⟩
      have read := item_readBack backFirst (stops_behindFirst items (.inl rfl) rest)
        (show _ < fuel by omega) (items_behindFirst backOthers opensOthers rest (by omega))
      rw [List.append_assoc, front, List.cons_append, Reader.items, skipBlanks_cons solid]
      dsimp only
      rw [if_neg inside, if_pos rfl, ← List.cons_append, ← front, read]

/-- A field is read back from behind the quote that it starts with. -/
theorem field_readBack {one : String × Json} {rest after : Bytes} {more : Fields Json} {fuel : Nat}
    (back : ReadBack depth one.2) (stops : Stops rest)
    (enough : 3 * (bytes (fieldChars one)).length < fuel)
    (others : Reader.fields fuel depth false rest = .ok (more, after)) :
    ∃ behind, bytes (fieldChars one) ++ rest = 0x22 :: behind ∧
      Reader.field (fuel + 1) depth behind = .ok (one :: more, after) := by
  obtain ⟨behind, front, read⟩ :=
    quoted_quote one.1 (0x3A :: (bytes (compactChars one.2) ++ rest))
  rw [fieldChars, bytes_append, bytes_cons, show String.utf8EncodeChar ':' = [0x3A] from rfl,
    List.singleton_append] at enough ⊢
  rw [List.length_append, List.length_cons] at enough
  refine ⟨behind, by rw [← front, List.append_assoc, List.cons_append], ?_⟩
  rw [Reader.field, read]
  dsimp only
  rw [skipBlanks_cons (by decide)]
  dsimp only
  rw [if_pos rfl, back fuel rest stops (by omega)]
  dsimp only
  rw [others]

/-- Behind a field, each of the others is read behind its comma. -/
theorem fields_behindFirst {fields : Fields Json} (back : ∀ one ∈ fields, ReadBack depth one.2)
    (rest : Bytes) {fuel : Nat} (enough : 3 * (bytes (behindFirst fieldChars fields)).length < fuel) :
    Reader.fields fuel depth false (bytes (behindFirst fieldChars fields) ++ 0x7D :: rest) =
      .ok (fields, rest) := by
  induction fields generalizing fuel with
  | nil =>
      obtain ⟨fuel, rfl⟩ : ∃ more, fuel = more + 1 := ⟨fuel - 1, by omega⟩
      rw [behindFirst, bytes_nil, List.nil_append, Reader.fields, skipBlanks_cons (by decide)]
      rfl
  | cons one fields ih =>
      obtain ⟨backFirst, backOthers⟩ := List.forall_mem_cons.1 back
      rw [behindFirst, separated_cons, bytes_cons, bytes_append,
        show String.utf8EncodeChar ',' = [0x2C] from rfl, List.singleton_append] at enough ⊢
      rw [List.length_cons, List.length_append] at enough
      obtain ⟨fuel, rfl⟩ : ∃ more, fuel = more + 2 := ⟨fuel - 2, by omega⟩
      obtain ⟨behind, front, read⟩ := field_readBack backFirst
        (stops_behindFirst fields (.inr rfl) rest) (show _ < fuel by omega) (ih backOthers (by omega))
      rw [List.cons_append, Reader.fields, skipBlanks_cons (by decide)]
      dsimp only
      rw [if_neg (by decide), if_neg (by decide), if_pos rfl, List.append_assoc, front,
        skipBlanks_cons (by decide)]
      dsimp only
      rw [if_pos rfl, read]

theorem fields_separated {fields : Fields Json} (back : ∀ one ∈ fields, ReadBack depth one.2)
    (rest : Bytes) {fuel : Nat} (enough : 3 * (bytes (separated fieldChars fields)).length + 2 < fuel) :
    Reader.fields fuel depth true (bytes (separated fieldChars fields) ++ 0x7D :: rest) =
      .ok (fields, rest) := by
  cases fields with
  | nil =>
      obtain ⟨fuel, rfl⟩ : ∃ more, fuel = more + 1 := ⟨fuel - 1, by omega⟩
      rw [separated, bytes_nil, List.nil_append, Reader.fields, skipBlanks_cons (by decide)]
      rfl
  | cons one fields =>
      obtain ⟨backFirst, backOthers⟩ := List.forall_mem_cons.1 back
      rw [separated_cons, bytes_append] at enough ⊢
      rw [List.length_append] at enough
      obtain ⟨fuel, rfl⟩ : ∃ more, fuel = more + 2 := ⟨fuel - 2, by omega⟩
      obtain ⟨behind, front, read⟩ := field_readBack backFirst
        (stops_behindFirst fields (.inr rfl) rest) (show _ < fuel by omega)
        (fields_behindFirst backOthers rest (by omega))
      rw [List.append_assoc, front, Reader.fields, skipBlanks_cons (by decide)]
      dsimp only
      rw [if_neg (by decide), if_pos rfl, if_pos rfl, read]

end Parts

end Reader

/-! ## Whole texts -/

/-- Values that are all in their text: there are no doubles in them, whole numbers have sixty-four bits, no
name comes twice in an object, and they nest so deep at most. -/
inductive Exact : Nat -> Json -> Prop where
  | null (depth : Nat) : Exact depth .null
  | bool (depth : Nat) (b : Bool) : Exact depth (.bool b)
  | integer (depth : Nat) {n : Int} (least : -0x8000000000000000 ≤ n)
      (greatest : n < 0x10000000000000000) : Exact depth (.integer n)
  | string (depth : Nat) (text : String) : Exact depth (.string text)
  | array {depth : Nat} {items : List Json} (inside : ∀ item ∈ items, Exact depth item) :
      Exact (depth + 1) (.array items)
  | object {depth : Nat} {fields : Fields Json} (distinct : (Fields.names fields).Nodup)
      (inside : ∀ field ∈ fields, Exact depth field.2) : Exact (depth + 1) (.object fields)

theorem Exact.opens {depth : Nat} {value : Json} (exact : Exact depth value) : Reader.Opens value := by
  cases exact with
  | null => exact ⟨_, _, rfl, by decide, by decide⟩
  | bool depth b => cases b <;> exact ⟨_, _, rfl, by decide, by decide⟩
  | @integer _ n =>
      rw [Reader.Opens, compactChars, integerText]
      split
      · exact ⟨_, _, rfl, by decide, by decide⟩
      · obtain ⟨c, digits, front⟩ := List.exists_cons_of_ne_nil (numeral_decimal n.natAbs).nonempty
        have first : c.isDigit = true := isDigit_decimal (front ▸ List.mem_cons_self)
        obtain ⟨byte, digit⟩ := Reader.exists_digitByte first
        obtain ⟨solid, inside⟩ := Reader.isDigit_opens digit.digit
        exact ⟨byte, bytes digits, by rw [front, bytes_cons, digit.encoded]; rfl, solid, inside⟩
  | string depth text =>
      obtain ⟨behind, front, -⟩ := Reader.quoted_quote text []
      rw [List.append_nil] at front
      exact ⟨_, behind, front, by decide, by decide⟩
  | array | object => exact ⟨_, _, rfl, by decide, by decide⟩

theorem bytes_array (items : List Json) (rest : Bytes) :
    bytes (compactChars (.array items)) ++ rest =
      0x5B :: (bytes (separated compactChars items) ++ 0x5D :: rest) := by
  rw [compactChars, compactItems_eq, List.cons_append, bytes_cons, bytes_append, List.append_assoc,
    List.append_assoc]
  rfl

theorem bytes_object (fields : Fields Json) (rest : Bytes) :
    bytes (compactChars (.object fields)) ++ rest =
      0x7B :: (bytes (separated fieldChars fields) ++ 0x7D :: rest) := by
  rw [compactChars, compactFields_eq, List.cons_append, bytes_cons, bytes_append, List.append_assoc,
    List.append_assoc]
  rfl

/-- A value is read back at every depth that is greater than its own. -/
theorem Exact.readBack {least depth : Nat} {value : Json} (exact : Exact least value)
    (deep : least < depth) : Reader.ReadBack depth value := by
  induction exact generalizing depth with
  | null =>
      intro fuel rest _ enough
      obtain ⟨fuel, rfl⟩ : ∃ more, fuel = more + 1 := ⟨fuel - 1, by omega⟩
      show Reader.value _ _ (0x6E :: 0x75 :: 0x6C :: 0x6C :: rest) = _
      rw [Reader.value, Reader.skipBlanks_cons (by decide)]
      rfl
  | bool depth b =>
      intro fuel rest _ enough
      obtain ⟨fuel, rfl⟩ : ∃ more, fuel = more + 1 := ⟨fuel - 1, by omega⟩
      cases b with
      | true =>
          show Reader.value _ _ (0x74 :: 0x72 :: 0x75 :: 0x65 :: rest) = _
          rw [Reader.value, Reader.skipBlanks_cons (by decide)]
          rfl
      | false =>
          show Reader.value _ _ (0x66 :: 0x61 :: 0x6C :: 0x73 :: 0x65 :: rest) = _
          rw [Reader.value, Reader.skipBlanks_cons (by decide)]
          rfl
  | integer _ least greatest => exact Reader.readBack_integer depth least greatest
  | string _ text => exact Reader.readBack_string depth text
  | @array least items inside ih =>
      intro fuel rest _ enough
      have length := congrArg List.length (bytes_array items [])
      simp only [List.append_nil, List.length_cons, List.length_append, List.length_nil] at length
      obtain ⟨fuel, rfl⟩ : ∃ more, fuel = more + 1 := ⟨fuel - 1, by omega⟩
      have read := Reader.items_separated (fun item member => ih item member (show least < depth - 1 by omega))
        (fun item member => (inside item member).opens) rest (show _ < fuel by omega)
      rw [bytes_array, Reader.value, Reader.skipBlanks_cons (by decide)]
      dsimp only
      rw [if_neg (by decide), if_neg (by decide), if_neg (by decide), if_neg (by decide),
        if_neg (by decide), if_neg (by decide), if_pos rfl, if_neg (by omega), read]
  | @object least fields distinct inside ih =>
      intro fuel rest _ enough
      have length := congrArg List.length (bytes_object fields [])
      simp only [List.append_nil, List.length_cons, List.length_append, List.length_nil] at length
      obtain ⟨fuel, rfl⟩ : ∃ more, fuel = more + 1 := ⟨fuel - 1, by omega⟩
      have read := Reader.fields_separated (fun one member => ih one member (show least < depth - 1 by omega))
        rest (show _ < fuel by omega)
      rw [bytes_object, Reader.value, Reader.skipBlanks_cons (by decide)]
      dsimp only
      rw [if_neg (by decide), if_neg (by decide), if_neg (by decide), if_neg (by decide),
        if_neg (by decide), if_neg (by decide), if_neg (by decide), if_pos rfl, if_neg (by omega), read]

theorem settledItems_of_settled {items : List Json} (same : ∀ item ∈ items, item.settled = item) :
    settledItems items = items := by
  induction items with
  | nil => rfl
  | cons item items ih =>
      obtain ⟨first, others⟩ := List.forall_mem_cons.1 same
      rw [settledItems, first, ih others]

theorem settledFields_of_settled {fields : Fields Json} (same : ∀ one ∈ fields, one.2.settled = one.2) :
    settledFields fields = fields := by
  induction fields with
  | nil => rfl
  | cons one fields ih =>
      obtain ⟨first, others⟩ := List.forall_mem_cons.1 same
      rw [settledFields, first, ih others]

theorem Exact.settled {depth : Nat} {value : Json} (exact : Exact depth value) : value.settled = value := by
  induction exact with
  | null | bool | integer | string => rfl
  | array inside ih => rw [Json.settled, settledItems_of_settled ih]
  | object distinct inside ih =>
      rw [Json.settled, settledFields_of_settled ih, Fields.ofList_of_nodup distinct]

theorem Exact.readWritten {depth : Nat} {value : Json} (exact : Exact depth value)
    (shallow : depth < Reader.depthLimit) : readWritten (Text.utf8 value.compact) = .ok value := by
  have back := exact.readBack shallow (3 * (bytes value.compactChars).length + 3) [] Reader.stops_nil (by omega)
  rw [List.append_nil] at back
  rw [utf8_compact, Json.readWritten, readFront, back]
  rfl

/-- A value whose text tells all of it is read back from its text. -/
theorem Exact.readText {depth : Nat} {value : Json} (exact : Exact depth value)
    (shallow : depth < Reader.depthLimit) : readText value.compact = .ok value := by
  rw [Json.readText, read, exact.readWritten shallow]
  exact congrArg Except.ok exact.settled

theorem exact_ofStrings (depth : Nat) (texts : List String) : Exact (depth + 1) (ofStrings texts) := by
  refine .array fun item member => ?_
  obtain ⟨text, -, rfl⟩ := List.mem_map.1 member
  exact .string depth text

theorem exact_ofStringFields (depth : Nat) {fields : Fields String}
    (distinct : (Fields.names fields).Nodup) : Exact (depth + 1) (ofStringFields fields) := by
  refine .object (by rwa [Fields.names, List.map_map]) fun one member => ?_
  obtain ⟨field, -, rfl⟩ := List.mem_map.1 member
  exact .string depth field.2

end ScriptOracle.Json
