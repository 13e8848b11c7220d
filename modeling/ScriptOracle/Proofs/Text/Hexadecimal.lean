import ScriptOracle.Text.Case
import ScriptOracle.Text.Hexadecimal

/-!
# Reading hexadecimal digits back

Two digits for each byte are read back to the bytes, whichever case each digit has.
-/

namespace ScriptOracle

namespace Text

/-- A character that becomes a small letter was that letter or its capital. -/
theorem eq_or_eq_asciiUpper {c d : Char} (small : asciiLower c = d) : c = d ∨ c = asciiUpper d := by
  unfold asciiLower at small
  split at small
  next capital =>
    right
    have low : 65 ≤ c.toNat := capital.1
    have high : c.toNat ≤ 90 := capital.2
    have code : d.toNat = c.toNat + 32 := by
      have valid : (c.toNat + 32).isValidChar := .inl (by omega)
      rw [← small, Char.ofNat, dif_pos valid]
      rfl
    have range : 'a' ≤ d ∧ d ≤ 'z' := by
      constructor
      · show 97 ≤ d.toNat
        omega
      · show d.toNat ≤ 122
        omega
    rw [asciiUpper, if_pos range, code, Nat.add_sub_cancel, Char.ofNat_toNat]
  next => exact .inl small

theorem utf8_ofList (chars : List Char) :
    utf8 (String.ofList chars) = chars.flatMap String.utf8EncodeChar := by
  show (String.ofList chars).toByteArray.data.toList = _
  rw [String.toByteArray_ofList, List.utf8Encode]
  simp

end Text

namespace Hexadecimal

/-- Characters that write bytes, with two digits of either case for each. -/
def Writes (chars : List Char) (bytes : Bytes) : Prop :=
  chars.map Text.asciiLower = digits bytes

/-- What a reader needs to know of a digit of either case. -/
structure IsDigit (c : Char) (value : Nat) : Prop where
  byte : String.utf8EncodeChar c = [UInt8.ofNat c.toNat]
  value : value? (UInt8.ofNat c.toNat) = some value
  notBlank : Text.isBlank c = false
  notMark : c ≠ 'x' ∧ c ≠ 'X'

theorem isDigit_of_mem {value : Nat} (small : value < 16) {c : Char}
    (written : c ∈ [digit value, Text.asciiUpper (digit value)]) : IsDigit c value := by
  have all : ∀ value < 16, [digit value, Text.asciiUpper (digit value)].all (fun c =>
      String.utf8EncodeChar c = [UInt8.ofNat c.toNat] ∧
      value? (UInt8.ofNat c.toNat) = some value ∧
      Text.isBlank c = false ∧ c ≠ 'x' ∧ c ≠ 'X') = true := by decide
  obtain ⟨byte, found, notBlank, notMark⟩ :=
    of_decide_eq_true (List.all_eq_true.1 (all value small) c written)
  exact ⟨byte, found, notBlank, notMark⟩

theorem isDigit_digit {value : Nat} (small : value < 16) : IsDigit (digit value) value :=
  isDigit_of_mem small (by simp)

theorem isDigit_of_asciiLower {c : Char} {value : Nat} (small : value < 16)
    (written : Text.asciiLower c = digit value) : IsDigit c value :=
  isDigit_of_mem small (by simpa using Text.eq_or_eq_asciiUpper written)

/-- The digits of a byte, one by one. -/
theorem writes_cons {chars : List Char} {byte : UInt8} {bytes : Bytes}
    (writes : Writes chars (byte :: bytes)) :
    ∃ high low rest, chars = high :: low :: rest ∧ IsDigit high (byte.toNat / 16) ∧
      IsDigit low (byte.toNat % 16) ∧ Writes rest bytes := by
  have bound := byte.toNat_lt
  match chars, writes with
  | [_], writes => cases (List.cons.inj writes).2
  | high :: low :: rest, writes =>
    rw [Writes, digits, List.flatMap_cons, List.map_cons, List.map_cons] at writes
    obtain ⟨first, writes⟩ := List.cons.inj writes
    obtain ⟨second, writes⟩ := List.cons.inj writes
    exact ⟨high, low, rest, rfl, isDigit_of_asciiLower (by omega) first,
      isDigit_of_asciiLower (by omega) second, writes⟩

theorem decodePairs_of_writes {chars : List Char} {bytes : Bytes} (writes : Writes chars bytes)
    (position : Nat) :
    decodePairs position (chars.flatMap String.utf8EncodeChar) = .ok bytes ∧
      (chars.flatMap String.utf8EncodeChar).length = 2 * bytes.length := by
  induction bytes generalizing chars position with
  | nil =>
      obtain rfl : chars = [] := List.map_eq_nil_iff.1 writes
      exact ⟨rfl, rfl⟩
  | cons byte bytes ih =>
      obtain ⟨high, low, rest, rfl, first, second, writes⟩ := writes_cons writes
      obtain ⟨read, length⟩ := ih writes (position + 2)
      have value : UInt8.ofNat (16 * (byte.toNat / 16) + byte.toNat % 16) = byte := by
        rw [Nat.div_add_mod, UInt8.ofNat_toNat]
      simp only [List.flatMap_cons, first.byte, second.byte, List.cons_append, List.nil_append,
        decodePairs, first.value, second.value, read, value, List.length_cons, length]
      exact ⟨rfl, by omega⟩

/-- Digits of either case are read back to the bytes that they write. -/
theorem decodeText_of_writes {chars : List Char} {bytes : Bytes} (writes : Writes chars bytes) :
    decodeText (String.ofList chars) = .ok bytes := by
  obtain ⟨read, length⟩ := decodePairs_of_writes writes 0
  rw [decodeText, Text.utf8_ofList, decode, if_neg (by omega), read]

theorem writes_digits (bytes : Bytes) : Writes (digits bytes) bytes := by
  have small : ∀ value < 16, Text.asciiLower (digit value) = digit value := by decide
  induction bytes with
  | nil => rfl
  | cons byte bytes ih =>
      have bound := byte.toNat_lt
      rw [Writes, digits, List.flatMap_cons, List.map_append]
      simp only [List.map_cons, List.map_nil, small _ (show byte.toNat / 16 < 16 by omega),
        small _ (Nat.mod_lt byte.toNat (by decide : 0 < 16))]
      exact congrArg _ ih

end Hexadecimal

end ScriptOracle
