import Mathlib.Data.List.Basic
import ScriptOracle.Json.Printer
import ScriptOracle.Proofs.Text.Hexadecimal

/-!
# What the text of a data value tells

Behind the text of a value the reader of a text knows where it ends and which value it was: if two texts
with something behind them are the same, so are the values and what is behind them. A text in quotes ends
with the first quote that is not escaped, a number with the first character that no number is written with,
and the rest by its brackets. Doubles have to be told apart by their own texts.
-/

namespace ScriptOracle.Json

open Double (Layout decimal)

/-! ## Numbers -/

def isNumeral (c : Char) : Bool := c.isDigit || c == '-' || c == '+' || c == '.' || c == 'e'

structure Numeral (text : List Char) : Prop where
  nonempty : text ≠ []
  numerals : ∀ c ∈ text, isNumeral c = true

/-- What may follow a number: nothing, or something that does not go on with it. -/
def Ends (rest : List Char) : Prop := ∀ c ∈ rest.head?, isNumeral c = false

theorem ends_nil : Ends [] := nofun

theorem ends_cons {c : Char} (other : isNumeral c = false) (rest : List Char) : Ends (c :: rest) := by
  intro d first
  rw [List.head?_cons, Option.mem_some_iff] at first
  rw [← first, other]

theorem takeWhile_of_ends {text rest : List Char} (numerals : ∀ c ∈ text, isNumeral c = true)
    (ends : Ends rest) : (text ++ rest).takeWhile isNumeral = text := by
  rw [List.takeWhile_append_of_pos numerals]
  cases rest with
  | nil => rw [List.takeWhile_nil, List.append_nil]
  | cons c rest =>
      have stop : isNumeral c = false := ends c rfl
      rw [List.takeWhile_cons_of_neg (by rw [stop]; decide), List.append_nil]

theorem Numeral.append_inj {a b r s : List Char} (first : Numeral a) (second : Numeral b)
    (stop : Ends r) (halt : Ends s) (same : a ++ r = b ++ s) : a = b ∧ r = s := by
  have texts : a = b := by
    rw [← takeWhile_of_ends first.numerals stop, same, takeWhile_of_ends second.numerals halt]
  subst texts
  exact ⟨rfl, List.append_cancel_left same⟩

theorem isNumeral_of_isDigit {c : Char} (digit : c.isDigit = true) : isNumeral c = true := by
  simp only [isNumeral, digit, Bool.true_or]

theorem isDigit_decimal {n : Nat} {c : Char} (member : c ∈ decimal n) : c.isDigit = true :=
  Nat.isDigit_of_mem_toDigits (by decide) (by decide) member

theorem numeral_decimal (n : Nat) : Numeral (decimal n) :=
  ⟨Nat.toDigits_ne_nil, fun _ member => isNumeral_of_isDigit (isDigit_decimal member)⟩

theorem decimal_inj {m n : Nat} (same : decimal m = decimal n) : m = n := by
  have read := congrArg (Nat.ofDigitChars 10 · 0) same
  simpa only [decimal, Nat.ofDigitChars_toDigits (by decide : 1 < 10) (by decide : 10 ≤ 10)] using read

def isMark (c : Char) : Bool := c == '.' || c == 'e'

theorem not_isMark_of_isDigit {c : Char} (digit : c.isDigit = true) : isMark c = false := by
  by_cases mark : isMark c = true
  · simp only [isMark, Bool.or_eq_true, beq_iff_eq] at mark
    rcases mark with rfl | rfl <;> exact absurd digit (by decide)
  · simpa using mark

theorem numerals_exponentText (e : Int) : ∀ c ∈ Double.exponentText e, isNumeral c = true := by
  intro c member
  rcases List.mem_cons.1 member with rfl | digits
  · split <;> decide
  · exact (numeral_decimal _).numerals c digits

theorem numerals_zeros (count : Nat) : ∀ c ∈ List.replicate count '0', isNumeral c = true := by
  intro c member
  rw [List.eq_of_mem_replicate member]
  decide

structure Marked (text : List Char) : Prop where
  numerals : ∀ c ∈ text, isNumeral c = true
  marked : ∃ c ∈ text, isMark c = true

theorem Marked.numeral {text : List Char} (marked : Marked text) : Numeral text := by
  obtain ⟨c, member, _⟩ := marked.marked
  exact ⟨List.ne_nil_of_mem member, marked.numerals⟩

theorem Marked.negated {text : List Char} (marked : Marked text) : Marked ('-' :: text) := by
  obtain ⟨c, member, mark⟩ := marked.marked
  exact ⟨List.forall_mem_cons.2 ⟨by decide, marked.numerals⟩, c, List.mem_cons_of_mem _ member, mark⟩

theorem marked_digits (d : Double.Digits) : Marked (Layout.json.digits d) := by
  have digits : ∀ c ∈ decimal d.coefficient, isNumeral c = true := (numeral_decimal _).numerals
  have point : isNumeral '.' = true := by decide
  unfold Layout.digits
  dsimp only
  split
  · split
    · exact ⟨List.forall_mem_append.2 ⟨List.forall_mem_cons.2 ⟨by decide,
        List.forall_mem_cons.2 ⟨point, numerals_zeros _⟩⟩, digits⟩, '.', by simp, by decide⟩
    · split
      · exact ⟨List.forall_mem_append.2 ⟨List.forall_mem_append.2 ⟨digits, numerals_zeros _⟩,
          List.all_eq_true.1 rfl⟩, '.', by simp [Layout.json], by decide⟩
      · exact ⟨List.forall_mem_append.2 ⟨fun c member => digits c (List.mem_of_mem_take member),
          List.forall_mem_cons.2 ⟨point, fun c member => digits c (List.mem_of_mem_drop member)⟩⟩,
          '.', by simp, by decide⟩
  · have exponent := numerals_exponentText (d.point - 1)
    cases text : decimal d.coefficient with
    | nil => exact absurd text (numeral_decimal _).nonempty
    | cons first rest =>
        rw [text] at digits
        obtain ⟨lead, more⟩ := List.forall_mem_cons.1 digits
        have mark : ∀ c ∈ 'e' :: Double.exponentText (d.point - 1), isNumeral c = true :=
          List.forall_mem_cons.2 ⟨by decide, exponent⟩
        cases rest with
        | nil => exact ⟨List.forall_mem_cons.2 ⟨lead, mark⟩, 'e', by simp, by decide⟩
        | cons second rest =>
            exact ⟨List.forall_mem_append.2 ⟨List.forall_mem_cons.2 ⟨lead,
              List.forall_mem_cons.2 ⟨point, more⟩⟩, mark⟩, 'e', by simp, by decide⟩

/-- The text of a finite double, with its sign apart. -/
theorem doubleText_eq {x : Float} {d : Double.Dyadic} (value : Double.dyadic? x = some d) :
    let size := if d.mantissa = 0 then ['0', '.', '0']
      else Layout.json.digits (Double.shortest d.mantissa d.exponent)
    doubleText x = if d.negative then '-' :: size else size := by
  intro size
  simp only [doubleText, Layout.render, value, size]
  by_cases zero : d.mantissa = 0
  · cases d.negative <;> simp [zero, Layout.json]
  · cases d.negative <;> simp [zero]

theorem marked_doubleText {x : Float} (finite : (Double.dyadic? x).isSome = true) :
    Marked (doubleText x) := by
  obtain ⟨d, value⟩ := Option.isSome_iff_exists.1 finite
  have size : Marked (if d.mantissa = 0 then ['0', '.', '0']
      else Layout.json.digits (Double.shortest d.mantissa d.exponent)) := by
    split
    · exact ⟨List.all_eq_true.1 rfl, '.', by simp, by decide⟩
    · exact marked_digits _
  rw [doubleText_eq value]
  split
  · exact size.negated
  · exact size

theorem numeral_integerText (n : Int) : Numeral (integerText n) := by
  have size := numeral_decimal n.natAbs
  unfold integerText
  split
  · exact ⟨List.cons_ne_nil _ _, List.forall_mem_cons.2 ⟨by decide, size.numerals⟩⟩
  · exact size

theorem not_isMark_integerText {n : Int} {c : Char} (member : c ∈ integerText n) :
    isMark c = false := by
  unfold integerText at member
  split at member
  · rcases List.mem_cons.1 member with rfl | digit
    · decide
    · exact not_isMark_of_isDigit (isDigit_decimal digit)
  · exact not_isMark_of_isDigit (isDigit_decimal member)

theorem minus_ne_decimal {n : Nat} {rest : List Char} : '-' :: rest ≠ decimal n := by
  intro same
  have digit : ('-').isDigit = true := isDigit_decimal (same ▸ List.mem_cons_self)
  exact absurd digit (by decide)

theorem integerText_inj {m n : Int} (same : integerText m = integerText n) : m = n := by
  unfold integerText at same
  split at same <;> split at same
  · have sizes := decimal_inj (List.cons.inj same).2
    omega
  · exact absurd same minus_ne_decimal
  · exact absurd same.symm minus_ne_decimal
  · have sizes := decimal_inj same
    omega

/-! ## Texts in quotes -/

/-- The character that an escape stands for, from behind its backslash on, and what follows it. -/
def escaped? : List Char -> Option (Char × List Char)
  | 'u' :: _ :: _ :: high :: low :: rest => do
    let high ← Hexadecimal.value? (UInt8.ofNat high.toNat)
    let low ← Hexadecimal.value? (UInt8.ofNat low.toNat)
    pure (Char.ofNat (16 * high + low), rest)
  | 'b' :: rest => some ('\x08', rest)
  | 'f' :: rest => some ('\x0C', rest)
  | 'n' :: rest => some ('\n', rest)
  | 'r' :: rest => some ('\r', rest)
  | 't' :: rest => some ('\t', rest)
  | mark :: rest => some (mark, rest)
  | [] => none

/-- The first character of a text in quotes and what follows it; none behind the closing quote. -/
def unescape? : List Char -> Option (Char × List Char)
  | [] => none
  | c :: rest => if c = '"' then none else if c = '\\' then escaped? rest else some (c, rest)

theorem unescape?_escapeChar (c : Char) (rest : List Char) :
    unescape? (escapeChar c ++ rest) = some (c, rest) := by
  unfold escapeChar
  split_ifs with quote slash backspace feed line start tab control
  all_goals try (subst c; rfl)
  · have back : Char.ofNat (16 * (c.toNat / 16) + c.toNat % 16) = c := by
      rw [Nat.div_add_mod, Char.ofNat_toNat]
    show escaped? ('u' :: '0' :: '0' :: _ :: _ :: rest) = _
    simp only [escaped?, (Hexadecimal.isDigit_digit (show c.toNat / 16 < 16 by omega)).value,
      (Hexadecimal.isDigit_digit (Nat.mod_lt c.toNat (by decide : 0 < 16))).value, Option.bind_eq_bind,
      Option.bind_some, back]
    rfl
  · show (if c = '"' then none else if c = '\\' then _ else some (c, rest)) = _
    rw [if_neg quote, if_neg slash]

/-- The characters of a text in quotes are told apart, and so is its end. -/
theorem escaped_append_inj {a b r s : List Char}
    (same : a.flatMap escapeChar ++ '"' :: r = b.flatMap escapeChar ++ '"' :: s) :
    a = b ∧ r = s := by
  induction a generalizing b with
  | nil =>
      cases b with
      | nil => exact ⟨rfl, (List.cons.inj same).2⟩
      | cons d b =>
          have front := congrArg unescape? same
          rw [List.flatMap_cons, List.append_assoc, unescape?_escapeChar] at front
          exact absurd front nofun
  | cons c a ih =>
      have front := congrArg unescape? same
      rw [List.flatMap_cons, List.append_assoc, unescape?_escapeChar] at front
      cases b with
      | nil => exact absurd front nofun
      | cons d b =>
          rw [List.flatMap_cons, List.append_assoc, unescape?_escapeChar, Option.some.injEq,
            Prod.mk.injEq] at front
          obtain ⟨rfl, rest⟩ := ih front.2
          exact ⟨by rw [front.1], rest⟩

theorem quote_append_inj {a b : String} {r s : List Char} (same : quote a ++ r = quote b ++ s) :
    a = b ∧ r = s := by
  simp only [quote, List.cons_append, List.append_assoc, List.nil_append] at same
  obtain ⟨texts, rests⟩ := escaped_append_inj (List.cons.inj same).2
  exact ⟨String.toList_inj.1 texts, rests⟩

/-! ## Values -/

mutual

def doubles : Json -> List Float
  | .double x => [x]
  | .array items => doublesOfItems items
  | .object fields => doublesOfFields fields
  | _ => []

def doublesOfItems : List Json -> List Float
  | [] => []
  | item :: rest => doubles item ++ doublesOfItems rest

def doublesOfFields : List (String × Json) -> List Float
  | [] => []
  | (_, value) :: rest => doubles value ++ doublesOfFields rest

end

/-- Doubles that are numbers and whose texts tell them apart. -/
structure Legible (scope : Float -> Prop) : Prop where
  finite : ∀ x, scope x → (Double.dyadic? x).isSome = true
  told : ∀ x y, scope x → scope y → doubleText x = doubleText y → x = y

/-- The first character of a value that is no number. -/
def opening? : Json -> Option Char
  | .null => some 'n'
  | .bool true => some 't'
  | .bool false => some 'f'
  | .integer _ | .double _ => none
  | .string _ => some '"'
  | .array _ => some '['
  | .object _ => some '{'

theorem compactChars_of_opening? {value : Json} {c : Char} (opens : value.opening? = some c) :
    isNumeral c = false ∧ ∃ rest, compactChars value = c :: rest := by
  cases value with
  | integer | double => cases opens
  | null | string | array | object =>
      cases opens
      exact ⟨by decide, _, rfl⟩
  | bool b => cases b <;> (cases opens; exact ⟨by decide, _, rfl⟩)

theorem numeral_of_opening? {value : Json} (opens : value.opening? = none)
    (finite : ∀ x ∈ value.doubles, (Double.dyadic? x).isSome = true) :
    Numeral (compactChars value) := by
  cases value with
  | integer n => exact numeral_integerText n
  | double x => exact (marked_doubleText (finite x List.mem_cons_self)).numeral
  | null | string | array | object => cases opens
  | bool b => cases b <;> cases opens

theorem Numeral.append_ne_cons {text : List Char} (numeral : Numeral text) {c : Char}
    (other : isNumeral c = false) (r s : List Char) : text ++ r ≠ c :: s := by
  intro same
  cases text with
  | nil => exact numeral.nonempty rfl
  | cons d text =>
      have mark := numeral.numerals d List.mem_cons_self
      rw [(List.cons.inj same).1, other] at mark
      cases mark

/-- Values whose texts start alike are of one kind. -/
theorem opening?_eq {a b : Json} {r s : List Char}
    (first : ∀ x ∈ a.doubles, (Double.dyadic? x).isSome = true)
    (second : ∀ x ∈ b.doubles, (Double.dyadic? x).isSome = true)
    (same : compactChars a ++ r = compactChars b ++ s) : a.opening? = b.opening? := by
  cases one : a.opening? with
  | none =>
      cases two : b.opening? with
      | none => rfl
      | some d =>
          obtain ⟨other, rest, text⟩ := compactChars_of_opening? two
          rw [text] at same
          exact absurd same ((numeral_of_opening? one first).append_ne_cons other _ _)
  | some c =>
      obtain ⟨other, rest, text⟩ := compactChars_of_opening? one
      rw [text] at same
      cases two : b.opening? with
      | none => exact absurd same.symm ((numeral_of_opening? two second).append_ne_cons other _ _)
      | some d =>
          obtain ⟨_, rest', text'⟩ := compactChars_of_opening? two
          rw [text'] at same
          rw [(List.cons.inj same).1]

/-! ## Lists -/

def separated {α : Type} (text : α -> List Char) : List α -> List Char
  | [] => []
  | [one] => text one
  | one :: rest => text one ++ ',' :: separated text rest

/-- What stands behind the first of the texts. -/
def behindFirst {α : Type} (text : α -> List Char) : List α -> List Char
  | [] => []
  | next :: rest => ',' :: separated text (next :: rest)

section Separated

variable {α : Type} {text : α -> List Char} {close : Char}

theorem separated_cons (one : α) (rest : List α) :
    separated text (one :: rest) = text one ++ behindFirst text rest := by
  cases rest with
  | nil => rw [separated, behindFirst, List.append_nil]
  | cons next rest =>
      rw [separated, behindFirst]
      exact List.cons_ne_nil _ _

theorem ends_behindFirst (closes : isNumeral close = false) (rest : List α) (r : List Char) :
    Ends (behindFirst text rest ++ close :: r) := by
  cases rest with
  | nil => exact ends_cons closes r
  | cons next rest => exact ends_cons (by decide) _

/-- A list of texts and what is behind its closing bracket can be told if each text and what is behind it
can be told, and none of them starts with the bracket. -/
theorem separated_append_inj (closes : isNumeral close = false) (comma : close ≠ ',')
    {a b : List α} {r s : List Char}
    (starts : ∀ one ∈ a, ∀ r s, text one ++ r ≠ close :: s)
    (starts' : ∀ one ∈ b, ∀ r s, text one ++ r ≠ close :: s)
    (told : ∀ one ∈ a, ∀ other ∈ b, ∀ r s, Ends r → Ends s →
      text one ++ r = text other ++ s → one = other ∧ r = s)
    (same : separated text a ++ close :: r = separated text b ++ close :: s) : a = b ∧ r = s := by
  induction a generalizing b with
  | nil =>
      cases b with
      | nil => exact ⟨rfl, (List.cons.inj same).2⟩
      | cons other rest =>
          rw [separated_cons, List.append_assoc] at same
          exact absurd same.symm (starts' other List.mem_cons_self _ _)
  | cons one rest ih =>
      rw [separated_cons, List.append_assoc] at same
      cases b with
      | nil => exact absurd same (starts one List.mem_cons_self _ _)
      | cons other rest' =>
          rw [separated_cons, List.append_assoc] at same
          obtain ⟨rfl, behind⟩ := told one List.mem_cons_self other List.mem_cons_self _ _
            (ends_behindFirst closes rest r) (ends_behindFirst closes rest' s) same
          cases rest with
          | nil =>
              cases rest' with
              | nil => exact ⟨rfl, (List.cons.inj behind).2⟩
              | cons next' more' => exact absurd (List.cons.inj behind).1 comma
          | cons next more =>
              cases rest' with
              | nil => exact absurd (List.cons.inj behind).1.symm comma
              | cons next' more' =>
                  obtain ⟨lists, rests⟩ := ih
                    (fun x member => starts x (List.mem_cons_of_mem _ member))
                    (fun x member => starts' x (List.mem_cons_of_mem _ member))
                    (fun x member y member' =>
                      told x (List.mem_cons_of_mem _ member) y (List.mem_cons_of_mem _ member'))
                    (List.cons.inj behind).2
                  exact ⟨congrArg _ lists, rests⟩

end Separated

def fieldChars (field : String × Json) : List Char :=
  quote field.1 ++ ':' :: compactChars field.2

theorem compactItems_eq (items : List Json) : compactItems items = separated compactChars items := by
  induction items with
  | nil => rfl
  | cons item rest ih =>
      cases rest with
      | nil => rfl
      | cons next rest =>
          rw [compactItems, separated, ih]
          all_goals exact List.cons_ne_nil _ _

theorem compactFields_eq (fields : List (String × Json)) :
    compactFields fields = separated fieldChars fields := by
  induction fields with
  | nil => rfl
  | cons field rest ih =>
      cases rest with
      | nil => rfl
      | cons next rest =>
          rw [compactFields, separated, ih, fieldChars, List.append_assoc, List.cons_append]
          all_goals exact List.cons_ne_nil _ _

/-! ## Values -/

variable {scope : Float -> Prop}

def parts : Json -> List Json
  | .array items => items
  | .object fields => fields.map Prod.snd
  | _ => []

theorem induction_parts {motive : Json -> Prop}
    (step : ∀ value, (∀ part ∈ value.parts, motive part) → motive value) (value : Json) :
    motive value := by
  refine step value fun part member => ?_
  have smaller : sizeOf part < sizeOf value := by
    cases value with
    | array items =>
        have inside := List.sizeOf_lt_of_mem (show part ∈ items from member)
        rw [Json.array.sizeOf_spec]
        omega
    | object fields =>
        obtain ⟨⟨name, value⟩, inside, rfl⟩ := List.mem_map.1 member
        have field := List.sizeOf_lt_of_mem inside
        rw [Prod.mk.sizeOf_spec] at field
        rw [Json.object.sizeOf_spec]
        show sizeOf value < _
        omega
    | null | bool | integer | double | string => cases member
  exact induction_parts step part
termination_by sizeOf value

theorem doublesOfFields_eq (fields : List (String × Json)) :
    doublesOfFields fields = doublesOfItems (fields.map Prod.snd) := by
  induction fields with
  | nil => rfl
  | cons field rest ih => rw [doublesOfFields, List.map_cons, doublesOfItems, ih]

theorem mem_doublesOfItems {items : List Json} {item : Json} (member : item ∈ items) {x : Float}
    (inside : x ∈ item.doubles) : x ∈ doublesOfItems items := by
  induction items with
  | nil => cases member
  | cons next rest ih =>
      rcases List.mem_cons.1 member with rfl | later
      · exact List.mem_append_left _ inside
      · exact List.mem_append_right _ (ih later)

/-- The doubles in a part of a value are doubles in the value. -/
theorem mem_doubles_of_part {value part : Json} (member : part ∈ value.parts) {x : Float}
    (inside : x ∈ part.doubles) : x ∈ value.doubles := by
  cases value with
  | array items => exact mem_doublesOfItems member inside
  | object fields =>
      rw [doubles, doublesOfFields_eq]
      exact mem_doublesOfItems member inside
  | null | bool | integer | double | string => cases member

/-- No value starts with a closing bracket. -/
theorem compactChars_append_ne_bracket {value : Json}
    (finite : ∀ x ∈ value.doubles, (Double.dyadic? x).isSome = true) (r s : List Char) :
    compactChars value ++ r ≠ ']' :: s := by
  cases opens : value.opening? with
  | none => exact (numeral_of_opening? opens finite).append_ne_cons (by decide) r s
  | some c =>
      obtain ⟨_, rest, text⟩ := compactChars_of_opening? opens
      intro same
      rw [text] at same
      rw [(List.cons.inj same).1] at opens
      cases value with
      | bool p => cases p <;> cases opens
      | null | integer | double | string | array | object => cases opens

/-- Numbers are told apart by their texts: whole numbers by their digits, doubles by assumption, and only
doubles have a mark. -/
theorem eq_of_numbers (legible : Legible scope) {a b : Json} (number : a.opening? = none)
    (other : b.opening? = none) (inside : ∀ x ∈ a.doubles, scope x)
    (within : ∀ x ∈ b.doubles, scope x) (same : compactChars a = compactChars b) : a = b := by
  have apart : ∀ n x, scope x → integerText n ≠ doubleText x := by
    intro n x member equal
    obtain ⟨c, written, mark⟩ := (marked_doubleText (legible.finite x member)).marked
    rw [← equal] at written
    exact absurd mark (by rw [not_isMark_integerText written]; decide)
  cases a with
  | integer m =>
      cases b with
      | integer n => exact congrArg Json.integer (integerText_inj same)
      | double y => exact absurd same (apart m y (within y List.mem_cons_self))
      | bool q => cases q <;> cases other
      | null | string | array | object => cases other
  | double x =>
      have member := inside x List.mem_cons_self
      cases b with
      | integer n => exact absurd same.symm (apart n x member)
      | double y => exact congrArg Json.double (legible.told x y member (within y List.mem_cons_self) same)
      | bool q => cases q <;> cases other
      | null | string | array | object => cases other
  | bool p => cases p <;> cases number
  | null | string | array | object => cases number

/-- The text of two values and what is behind each of them tells both. -/
def ToldApart (a b : Json) : Prop :=
  ∀ r s, Ends r → Ends s → compactChars a ++ r = compactChars b ++ s → a = b ∧ r = s

theorem array_append_inj {a b : List Json} {r s : List Char}
    (finite : ∀ x ∈ (Json.array a).doubles, (Double.dyadic? x).isSome = true)
    (finite' : ∀ x ∈ (Json.array b).doubles, (Double.dyadic? x).isSome = true)
    (told : ∀ one ∈ a, ∀ other ∈ b, ToldApart one other)
    (same : compactChars (.array a) ++ r = compactChars (.array b) ++ s) : a = b ∧ r = s := by
  simp only [compactChars, compactItems_eq, List.cons_append, List.append_assoc,
    List.nil_append] at same
  have starts := fun one (member : one ∈ a) => compactChars_append_ne_bracket
    fun x deep => finite x (mem_doubles_of_part member deep)
  have starts' := fun one (member : one ∈ b) => compactChars_append_ne_bracket
    fun x deep => finite' x (mem_doubles_of_part member deep)
  exact separated_append_inj (by decide) (by decide) starts starts' told (List.cons.inj same).2

theorem object_append_inj {a b : List (String × Json)} {r s : List Char}
    (told : ∀ one ∈ a, ∀ other ∈ b, ToldApart one.2 other.2)
    (same : compactChars (.object a) ++ r = compactChars (.object b) ++ s) : a = b ∧ r = s := by
  simp only [compactChars, compactFields_eq, List.cons_append, List.append_assoc,
    List.nil_append] at same
  have starts : ∀ (one : String × Json) r s, fieldChars one ++ r ≠ '}' :: s := by
    intro one r s equal
    cases (List.cons.inj equal).1
  refine separated_append_inj (by decide) (by decide) (fun one _ => starts one)
    (fun one _ => starts one) ?_ (List.cons.inj same).2
  intro one member other member' r s stop halt equal
  simp only [fieldChars, List.append_assoc, List.cons_append] at equal
  obtain ⟨names, behind⟩ := quote_append_inj equal
  obtain ⟨values, rests⟩ := told one member other member' r s stop halt (List.cons.inj behind).2
  exact ⟨Prod.ext names values, rests⟩

/-- A value and what is behind it can be told from the text of both. -/
theorem compactChars_append_inj (legible : Legible scope) (a b : Json)
    (inside : ∀ x ∈ a.doubles, scope x) (within : ∀ x ∈ b.doubles, scope x) : ToldApart a b := by
  induction a using induction_parts generalizing b with
  | step a ih =>
    -- What is behind stays open, for behind a part stands the rest of its list.
    intro r s stop halt same
    have finite : ∀ x ∈ a.doubles, (Double.dyadic? x).isSome = true :=
      fun x member => legible.finite x (inside x member)
    have finite' : ∀ x ∈ b.doubles, (Double.dyadic? x).isSome = true :=
      fun x member => legible.finite x (within x member)
    have apart : ∀ one ∈ a.parts, ∀ other ∈ b.parts, ToldApart one other :=
      fun one member other member' => ih one member other
        (fun x deep => inside x (mem_doubles_of_part member deep))
        (fun x deep => within x (mem_doubles_of_part member' deep))
    have kind := opening?_eq finite finite' same
    cases opens : a.opening? with
    | none =>
        rw [opens] at kind
        obtain ⟨texts, rests⟩ := (numeral_of_opening? opens finite).append_inj
          (numeral_of_opening? kind.symm finite') stop halt same
        exact ⟨eq_of_numbers legible opens kind.symm inside within texts, rests⟩
    | some c =>
        cases a with
        | integer | double => cases opens
        | null =>
            cases b with
            | null => exact ⟨rfl, List.append_cancel_left same⟩
            | bool q => cases q <;> cases kind
            | integer | double | string | array | object => cases kind
        | bool p =>
            cases b with
            | bool q =>
                obtain rfl : p = q := by cases p <;> cases q <;> first | rfl | cases kind
                exact ⟨rfl, List.append_cancel_left same⟩
            | null | integer | double | string | array | object => cases p <;> cases kind
        | string text =>
            cases b with
            | string other =>
                obtain ⟨texts, rests⟩ := quote_append_inj same
                exact ⟨congrArg Json.string texts, rests⟩
            | bool q => cases q <;> cases kind
            | null | integer | double | array | object => cases kind
        | array items =>
            cases b with
            | array others =>
                obtain ⟨lists, rests⟩ := array_append_inj finite finite' apart same
                exact ⟨congrArg Json.array lists, rests⟩
            | bool q => cases q <;> cases kind
            | null | integer | double | string | object => cases kind
        | object fields =>
            cases b with
            | object others =>
                obtain ⟨lists, rests⟩ := object_append_inj
                  (fun one member other member' =>
                    apart one.2 (List.mem_map_of_mem member) other.2 (List.mem_map_of_mem member')) same
                exact ⟨congrArg Json.object lists, rests⟩
            | bool q => cases q <;> cases kind
            | null | integer | double | string | array => cases kind

/-- Values of one text are one value. -/
theorem compact_inj (legible : Legible scope) {a b : Json} (inside : ∀ x ∈ a.doubles, scope x)
    (within : ∀ x ∈ b.doubles, scope x) (same : a.compact = b.compact) : a = b := by
  have chars : compactChars a ++ [] = compactChars b ++ [] := by
    rw [List.append_nil, List.append_nil]
    exact String.ofList_inj.1 same
  exact (compactChars_append_inj legible a b inside within [] [] ends_nil ends_nil chars).1

end ScriptOracle.Json
