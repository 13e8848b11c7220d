import ScriptOracle.Proofs.Text.Hexadecimal
import ScriptOracle.Text.Base64

/-!
# Reading base 64 back

Three bytes are four numbers below sixty-four, and the numbers are joined to the bytes again. Groups before
the last one are full, and the last one is padded to four symbols, so that a reader finds both.
-/

namespace ScriptOracle.Base64

/-! ## Symbols -/

/-- The byte that stands for a number below sixty-four. -/
def symbolByte (number : Nat) : UInt8 := UInt8.ofNat (symbol number).toNat

/-- What a reader needs to know of the byte that stands for a number. -/
structure IsSymbol (number : Nat) : Prop where
  written : String.utf8EncodeChar (symbol number) = [symbolByte number]
  value : value? (symbolByte number) = some number
  notPad : symbolByte number ≠ pad

theorem isSymbol_of_lt {number : Nat} (small : number < 64) : IsSymbol number := by
  have all : ∀ number < 64, String.utf8EncodeChar (symbol number) = [symbolByte number] ∧
      value? (symbolByte number) = some number ∧ symbolByte number ≠ pad := by decide
  obtain ⟨written, value, notPad⟩ := all number small
  exact ⟨written, value, notPad⟩

theorem utf8_symbols {numbers : List Nat} (small : ∀ number ∈ numbers, number < 64) :
    (numbers.map symbol).flatMap String.utf8EncodeChar = numbers.map symbolByte := by
  induction numbers with
  | nil => rfl
  | cons number numbers ih =>
      obtain ⟨first, others⟩ := List.forall_mem_cons.1 small
      rw [List.map_cons, List.flatMap_cons, (isSymbol_of_lt first).written, ih others]
      rfl

theorem values_map_symbolByte {numbers : List Nat} (small : ∀ number ∈ numbers, number < 64)
    (offset : Nat) : values offset (numbers.map symbolByte) = .ok numbers := by
  induction numbers generalizing offset with
  | nil => rfl
  | cons number numbers ih =>
      obtain ⟨first, others⟩ := List.forall_mem_cons.1 small
      simp only [List.map_cons, values, (isSymbol_of_lt first).value, ih others]
      rfl

/-! ## Groups -/

theorem ofNat_of_eq {n : Nat} {byte : UInt8} (same : n = byte.toNat) : UInt8.ofNat n = byte := by
  rw [same, UInt8.ofNat_toNat]

def group (a b c : UInt8) : List Nat :=
  [a.toNat / 4, a.toNat % 4 * 16 + b.toNat / 16, b.toNat % 16 * 4 + c.toNat / 64, c.toNat % 64]

theorem lt_of_mem_group {a b c : UInt8} : ∀ number ∈ group a b c, number < 64 := by
  have boundA := a.toNat_lt
  have boundB := b.toNat_lt
  have boundC := c.toNat_lt
  simp only [group, List.forall_mem_cons]
  exact ⟨by omega, by omega, by omega, by omega, nofun⟩

theorem join_group (a b c : UInt8) (numbers : List Nat) :
    join (group a b c ++ numbers) = a :: b :: c :: join numbers := by
  have boundA := a.toNat_lt
  have boundB := b.toNat_lt
  have boundC := c.toNat_lt
  simp only [group, List.cons_append, List.nil_append, join]
  rw [ofNat_of_eq (by omega : _ = a.toNat), ofNat_of_eq (by omega : _ = b.toNat),
    ofNat_of_eq (by omega : _ = c.toNat)]

/-- Numbers that are written for bytes of which no group is left open. -/
structure Fills (numbers : List Nat) (bytes : Bytes) : Prop where
  small : ∀ number ∈ numbers, number < 64
  count : numbers.length % 4 = 0
  written : ∀ more, symbols (bytes ++ more) = numbers.map symbol ++ symbols more
  joined : join numbers = bytes

theorem exists_fills {bytes : Bytes} (full : bytes.length % 3 = 0) :
    ∃ numbers, Fills numbers bytes := by
  induction bytes using symbols.induct with
  | case1 => exact ⟨[], nofun, rfl, fun _ => rfl, rfl⟩
  | case2 a => cases full
  | case3 a b => cases full
  | case4 a b c rest ih =>
      have fewer : rest.length % 3 = 0 := (Nat.add_mod_right rest.length 3).symm.trans full
      obtain ⟨numbers, small, count, written, joined⟩ := ih fewer
      refine ⟨group a b c ++ numbers, ?_, ?_, ?_, ?_⟩
      · exact List.forall_mem_append.2 ⟨lt_of_mem_group, small⟩
      · rw [List.length_append, group, List.length_cons]
        simpa using count
      · intro more
        rw [List.map_append, List.append_assoc, ← written more]
        rfl
      · rw [join_group, joined]

/-- The numbers that are written for the last bytes, and how many pads fill up their group. -/
structure Closes (numbers : List Nat) (pads : Nat) (bytes : Bytes) : Prop where
  small : ∀ number ∈ numbers, number < 64
  two : 2 ≤ numbers.length
  count : numbers.length + pads = 4
  spare : spareBits numbers = 0
  written : symbols bytes = numbers.map symbol ++ List.replicate pads '='
  joined : join numbers = bytes

theorem exists_closes {bytes : Bytes} (some : bytes ≠ []) (few : bytes.length ≤ 3) :
    ∃ numbers pads, Closes numbers pads bytes := by
  match bytes with
  | [a] =>
      have bound := a.toNat_lt
      refine ⟨[a.toNat / 4, a.toNat % 4 * 16], 2, ?_, Nat.le_refl 2, rfl, ?_, rfl, ?_⟩
      · simp only [List.forall_mem_cons]
        exact ⟨by omega, by omega, nofun⟩
      · exact Nat.mul_mod_left (a.toNat % 4) 16
      · rw [join, ofNat_of_eq (by omega : _ = a.toNat)]
  | [a, b] =>
      have boundA := a.toNat_lt
      have boundB := b.toNat_lt
      refine ⟨[a.toNat / 4, a.toNat % 4 * 16 + b.toNat / 16, b.toNat % 16 * 4], 1, ?_,
        Nat.le_succ 2, rfl, Nat.mul_mod_left (b.toNat % 16) 4, rfl, ?_⟩
      · simp only [List.forall_mem_cons]
        exact ⟨by omega, by omega, by omega, nofun⟩
      · rw [join, ofNat_of_eq (by omega : _ = a.toNat), ofNat_of_eq (by omega : _ = b.toNat)]
  | [a, b, c] =>
      exact ⟨group a b c, 0, lt_of_mem_group, by simp [group], rfl, rfl, rfl, join_group a b c []⟩
  | _ :: _ :: _ :: _ :: _ =>
      simp only [List.length_cons] at few
      omega

/-! ## The last group -/

theorem splitPadding_padded {numbers : List Nat} (small : ∀ number ∈ numbers, number < 64)
    (two : 2 ≤ numbers.length) (offset pads : Nat) :
    splitPadding offset (numbers.map symbolByte ++ List.replicate pads pad) =
      .ok (numbers.map symbolByte, pads) := by
  have plain : ∀ byte ∈ numbers.map symbolByte, (byte != pad) = true := by
    intro byte member
    obtain ⟨number, listed, rfl⟩ := List.mem_map.1 member
    exact bne_iff_ne.2 (isSymbol_of_lt (small number listed)).notPad
  have front : (numbers.map symbolByte ++ List.replicate pads pad).takeWhile (· != pad) =
      numbers.map symbolByte := by
    rw [List.takeWhile_append_of_pos plain]
    cases pads <;> simp [List.replicate_succ]
  simp only [splitPadding, front, values_map_symbolByte small, List.drop_left]
  cases pads with
  | zero => rfl
  | succ pads => simp [List.replicate_succ, Nat.not_lt.2 two]

theorem decodeLast_padded {numbers : List Nat} {pads : Nat} {bytes : Bytes}
    (closes : Closes numbers pads bytes) (offset : Nat) :
    decodeLast offset (numbers.map symbolByte ++ List.replicate pads pad) = .ok bytes := by
  obtain ⟨small, two, count, spare, _, joined⟩ := closes
  have group : (pads + numbers.length) % 4 = 0 := by omega
  simp only [decodeLast, splitPadding_padded small two, bind, Except.bind, values_map_symbolByte small,
    Nat.not_lt.2 two, group, spare, joined, ne_eq, not_true_eq_false, if_false]
  rfl

/-! ## Texts -/

theorem exists_last_group {bytes : Bytes} (some : bytes ≠ []) :
    ∃ front last, bytes = front ++ last ∧ front.length % 3 = 0 ∧ last ≠ [] ∧ last.length ≤ 3 := by
  have positive := List.length_pos_iff.2 some
  -- Groups are cut off as long as something is left behind them, so that the last one is never empty.
  refine ⟨bytes.take (3 * ((bytes.length - 1) / 3)), bytes.drop (3 * ((bytes.length - 1) / 3)),
    (List.take_append_drop _ _).symm, ?_, ?_, ?_⟩
  · rw [List.length_take]
    omega
  · rw [← List.length_pos_iff, List.length_drop]
    omega
  · rw [List.length_drop]
    omega

theorem utf8_encode {front last : Bytes} {numbers others : List Nat} {pads : Nat}
    (fills : Fills numbers front) (closes : Closes others pads last) :
    Text.utf8 (encode (front ++ last)) =
      numbers.map symbolByte ++ (others.map symbolByte ++ List.replicate pads pad) := by
  have padding : (List.replicate pads '=').flatMap String.utf8EncodeChar = List.replicate pads pad := by
    rw [List.flatMap_replicate]
    exact List.flatten_replicate_singleton
  rw [encode, Text.utf8_ofList, fills.written, closes.written, List.flatMap_append,
    List.flatMap_append, utf8_symbols fills.small, utf8_symbols closes.small, padding]

theorem decodeText_encode (bytes : Bytes) : decodeText (encode bytes) = .ok bytes := by
  by_cases none : bytes = []
  · rw [none]
    rfl
  obtain ⟨front, last, rfl, full, some, few⟩ := exists_last_group none
  obtain ⟨numbers, fills⟩ := exists_fills full
  obtain ⟨others, pads, closes⟩ := exists_closes some few
  have front' : (numbers.map symbolByte).length = numbers.length := List.length_map _
  have length : (numbers.map symbolByte ++
      (others.map symbolByte ++ List.replicate pads pad)).length = numbers.length + 4 := by
    simp [closes.count]
  have spare : (numbers.length + 4) % 4 = 0 := by rw [Nat.add_mod_right, fills.count]
  have tail := decodeLast_padded closes numbers.length
  simp only [decodeText, utf8_encode fills closes, decode, length, spare, Nat.zero_ne_one, false_and,
    if_false, if_true, Nat.add_sub_cancel, List.take_left' front', List.drop_left' front',
    values_map_symbolByte fills.small, tail, fills.joined, bind, Except.bind]
  rfl

/-- Only for no bytes nothing is written. -/
theorem encode_ne_empty {bytes : Bytes} (some : bytes ≠ []) : encode bytes ≠ "" := by
  intro empty
  have read := decodeText_encode bytes
  rw [empty] at read
  exact some (Except.ok.inj read).symm

end ScriptOracle.Base64
