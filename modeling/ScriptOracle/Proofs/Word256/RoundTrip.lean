import ScriptOracle.Proofs.Word256.Bytes

/-! # Whole numbers and words

The encoders accept exactly the numbers of their range, and between that range and the words of
thirty-two bytes they and the decoders are inverse to each other. A signed word is the unsigned word of
the number modulo `2 ^ 256`.
-/

namespace ScriptOracle.Word256

/-- The two's complement of a number: the unsigned number with the same word. -/
def wrapped (n : Int) : Nat := if n < 0 then (modulus + n).toNat else n.toNat

/-! ## Ranges -/

theorem encodeUnsigned?_eq_some {n : Int} (low : 0 ≤ n) (high : n < 2 ^ 256) :
    encodeUnsigned? n = some (leftPad (shortest n.toNat)) := by
  have range : 0 ≤ n ∧ n < modulus := by rw [modulus_eq]; omega
  rw [encodeUnsigned?, if_pos range]

theorem isSome_encodeUnsigned? (n : Int) :
    (encodeUnsigned? n).isSome ↔ 0 ≤ n ∧ n < 2 ^ 256 := by
  have range : (0 ≤ n ∧ n < modulus) ↔ 0 ≤ n ∧ n < 2 ^ 256 := by rw [modulus_eq]; omega
  rw [encodeUnsigned?, ← range]
  split <;> simp_all

theorem encodeSigned?_eq_some {n : Int} (low : -2 ^ 255 ≤ n) (high : n < 2 ^ 255) :
    encodeSigned? n = some (leftPad (shortest (wrapped n))) := by
  have range : -(1 <<< 255 : Nat) ≤ n ∧ n < (1 <<< 255 : Nat) := by omega
  rw [encodeSigned?, if_pos range, wrapped]

theorem isSome_encodeSigned? (n : Int) :
    (encodeSigned? n).isSome ↔ -2 ^ 255 ≤ n ∧ n < 2 ^ 255 := by
  have range : (-(1 <<< 255 : Nat) ≤ n ∧ n < (1 <<< 255 : Nat)) ↔
      -2 ^ 255 ≤ n ∧ n < 2 ^ 255 := by omega
  rw [encodeSigned?, ← range]
  split <;> simp_all

/-! ## The sign -/

theorem wrapped_eq_emod {n : Int} (low : -2 ^ 255 ≤ n) (high : n < 2 ^ 255) :
    (wrapped n : Int) = n % 2 ^ 256 := by
  unfold wrapped
  rw [modulus_eq]
  split <;> omega

theorem wrapped_lt {n : Int} (low : -2 ^ 255 ≤ n) (high : n < 2 ^ 255) : wrapped n < modulus := by
  have value := wrapped_eq_emod low high
  rw [modulus_eq]
  omega

/-- The first byte of a full word tells whether its value reaches `2 ^ 255`. -/
theorem sign_iff {word : Bytes} (full : word.length = width) :
    128 ≤ (word.headD 0).toNat ↔ 2 ^ 255 ≤ ofBigEndian word := by
  obtain _ | ⟨first, rest⟩ := word
  · simp [width] at full
  · have count : rest.length = 31 := by simpa [width] using full
    have bound := ofBigEndian_lt rest
    rw [List.headD_cons, ofBigEndian_cons, count]
    rw [count] at bound
    omega

theorem decodeSigned_eq {word : Bytes} (full : word.length = width) :
    decodeSigned word =
      if 2 ^ 255 ≤ ofBigEndian word then (ofBigEndian word : Int) - 2 ^ 256
      else (ofBigEndian word : Int) := by
  have sign : (word.length = width ∧ 128 ≤ (word.headD 0).toNat) ↔ 2 ^ 255 ≤ ofBigEndian word := by
    rw [sign_iff full]
    simp [full]
  simp only [decodeSigned, sign, modulus_eq]
  rfl

theorem decodeUnsigned_range {word : Bytes} (full : word.length = width) :
    0 ≤ decodeUnsigned word ∧ decodeUnsigned word < 2 ^ 256 := by
  have bound := ofBigEndian_lt_modulus full
  rw [modulus_eq] at bound
  unfold decodeUnsigned
  omega

theorem decodeSigned_range {word : Bytes} (full : word.length = width) :
    -2 ^ 255 ≤ decodeSigned word ∧ decodeSigned word < 2 ^ 255 := by
  have bound := ofBigEndian_lt_modulus full
  rw [modulus_eq] at bound
  rw [decodeSigned_eq full]
  split <;> omega

theorem decodeSigned_emod {word : Bytes} (full : word.length = width) :
    decodeSigned word % 2 ^ 256 = (ofBigEndian word : Int) := by
  have bound := ofBigEndian_lt_modulus full
  rw [modulus_eq] at bound
  rw [decodeSigned_eq full]
  split <;> omega

/-! ## Both ways -/

theorem decodeUnsigned_word {n : Int} (low : 0 ≤ n) (high : n < 2 ^ 256) :
    decodeUnsigned (leftPad (shortest n.toNat)) = n := by
  have fits : n.toNat < modulus := by rw [modulus_eq]; omega
  rw [decodeUnsigned, ofBigEndian_word fits]
  omega

theorem decodeSigned_word {n : Int} (low : -2 ^ 255 ≤ n) (high : n < 2 ^ 255) :
    decodeSigned (leftPad (shortest (wrapped n))) = n := by
  have value := wrapped_eq_emod low high
  rw [decodeSigned_eq (length_leftPad _), ofBigEndian_word (wrapped_lt low high)]
  split <;> omega

theorem encodeUnsigned?_decodeUnsigned {word : Bytes} (full : word.length = width) :
    encodeUnsigned? (decodeUnsigned word) = some word := by
  have range := decodeUnsigned_range full
  rw [encodeUnsigned?_eq_some range.1 range.2, decodeUnsigned, Int.toNat_natCast,
    word_ofBigEndian full]

theorem encodeSigned?_decodeSigned {word : Bytes} (full : word.length = width) :
    encodeSigned? (decodeSigned word) = some word := by
  have range := decodeSigned_range full
  have value : wrapped (decodeSigned word) = ofBigEndian word := by
    have modular := wrapped_eq_emod range.1 range.2
    rw [decodeSigned_emod full] at modular
    exact Int.ofNat.inj modular
  rw [encodeSigned?_eq_some range.1 range.2, value, word_ofBigEndian full]

theorem encodeSigned?_eq_encodeUnsigned? {n : Int} (low : -2 ^ 255 ≤ n) (high : n < 2 ^ 255) :
    encodeSigned? n = encodeUnsigned? (n % 2 ^ 256) := by
  have value := wrapped_eq_emod low high
  rw [encodeSigned?_eq_some low high, encodeUnsigned?_eq_some (by omega) (by omega), ← value,
    Int.toNat_natCast]

@[simp] theorem encode?_unsigned_integer (n : Int) :
    Encoder.unsigned.encode? (.integer n) = encodeUnsigned? n := by
  rw [Encoder.encode?, Operand.integer?, Option.bind_some]

@[simp] theorem encode?_signed_integer (n : Int) :
    Encoder.signed.encode? (.integer n) = encodeSigned? n := by
  rw [Encoder.encode?, Operand.integer?, Option.bind_some]

/-- Numbers and words match one to one, with and without a sign, from either side. -/
theorem codec_bijective (n : Int) (word : Bytes) (full : word.length = 32) :
    ((Encoder.unsigned.encode? (.integer n)).isSome ↔ 0 ≤ n ∧ n < 2 ^ 256) ∧
    ((Encoder.signed.encode? (.integer n)).isSome ↔ -2 ^ 255 ≤ n ∧ n < 2 ^ 255) ∧
    (∀ bytes ∈ Encoder.unsigned.encode? (.integer n),
      bytes.length = 32 ∧ decodeUnsigned bytes = n) ∧
    (∀ bytes ∈ Encoder.signed.encode? (.integer n),
      bytes.length = 32 ∧ decodeSigned bytes = n) ∧
    (0 ≤ decodeUnsigned word ∧ decodeUnsigned word < 2 ^ 256) ∧
    Encoder.unsigned.encode? (.integer (decodeUnsigned word)) = some word ∧
    (-2 ^ 255 ≤ decodeSigned word ∧ decodeSigned word < 2 ^ 255) ∧
    Encoder.signed.encode? (.integer (decodeSigned word)) = some word ∧
    (-2 ^ 255 ≤ n ∧ n < 2 ^ 255 →
      Encoder.signed.encode? (.integer n) = Encoder.unsigned.encode? (.integer (n % 2 ^ 256))) := by
  rw [encode?_unsigned_integer, encode?_signed_integer, encode?_unsigned_integer,
    encode?_signed_integer, encode?_unsigned_integer]
  refine ⟨isSome_encodeUnsigned? n, isSome_encodeSigned? n, ?unsigned, ?signed,
    decodeUnsigned_range full, encodeUnsigned?_decodeUnsigned full, decodeSigned_range full,
    encodeSigned?_decodeSigned full, fun range => encodeSigned?_eq_encodeUnsigned? range.1 range.2⟩
  case unsigned =>
    intro bytes found
    have range := (isSome_encodeUnsigned? n).mp (Option.isSome_of_mem found)
    have bytes_eq := Option.some.inj ((encodeUnsigned?_eq_some range.1 range.2).symm.trans found)
    rw [← bytes_eq]
    exact ⟨length_leftPad _, decodeUnsigned_word range.1 range.2⟩
  case signed =>
    intro bytes found
    have range := (isSome_encodeSigned? n).mp (Option.isSome_of_mem found)
    have bytes_eq := Option.some.inj ((encodeSigned?_eq_some range.1 range.2).symm.trans found)
    rw [← bytes_eq]
    exact ⟨length_leftPad _, decodeSigned_word range.1 range.2⟩

/-- The least signed number has the word whose first bit alone is set. -/
theorem codec_bijective_least :
    ((0x80 :: List.replicate 31 0 : Bytes).length = 32) ∧
    decodeSigned (0x80 :: List.replicate 31 0) = -2 ^ 255 ∧
    Encoder.signed.encode? (.integer (-2 ^ 255)) = some (0x80 :: List.replicate 31 0) ∧
    Encoder.signed.encode? (.integer (-2 ^ 255)) =
      Encoder.unsigned.encode? (.integer (-2 ^ 255 % 2 ^ 256)) := by
  have value : decodeSigned (0x80 :: List.replicate 31 0) = -2 ^ 255 := by decide +kernel
  obtain ⟨_, _, _, _, _, _, _, encoded, same⟩ :=
    codec_bijective (-2 ^ 255) (0x80 :: List.replicate 31 0) (by decide)
  rw [value] at encoded
  exact ⟨by decide, value, encoded, same (by omega)⟩

end ScriptOracle.Word256
