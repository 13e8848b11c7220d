import Mathlib.Algebra.Order.Ring.Int
import Mathlib.Data.List.Induction
import ScriptOracle.Word256

/-! # Numbers as bytes

A byte string is a number in base 256, and among byte strings of one length it is the only one with its
value. Padding the shortest bytes of a number below `modulus` gives the full word of that value, so the
two steps together are a bijection between those numbers and the words.
-/

namespace ScriptOracle.Word256

theorem modulus_eq : modulus = 2 ^ 256 := by decide

/-! ## Reading -/

theorem ofBigEndian_concat (bytes : Bytes) (byte : UInt8) :
    ofBigEndian (bytes ++ [byte]) = 256 * ofBigEndian bytes + byte.toNat := by
  simp [ofBigEndian, List.foldl_append]

@[simp] theorem ofBigEndian_singleton (byte : UInt8) : ofBigEndian [byte] = byte.toNat := by
  simp [ofBigEndian]

theorem ofBigEndian_append (front back : Bytes) :
    ofBigEndian (front ++ back) = ofBigEndian front * 256 ^ back.length + ofBigEndian back := by
  -- Reading goes from the left, so that the induction takes bytes off the right end.
  induction back using List.reverseRecOn with
  | nil => simp [ofBigEndian]
  | append_singleton back byte ih =>
      rw [← List.append_assoc, ofBigEndian_concat, ofBigEndian_concat, ih, List.length_append,
        List.length_singleton, Nat.pow_succ, Nat.mul_add]
      rw [show 256 * (ofBigEndian front * 256 ^ back.length) =
        ofBigEndian front * (256 ^ back.length * 256) by ac_rfl]
      omega

theorem ofBigEndian_cons (byte : UInt8) (rest : Bytes) :
    ofBigEndian (byte :: rest) = byte.toNat * 256 ^ rest.length + ofBigEndian rest := by
  simpa using ofBigEndian_append [byte] rest

theorem ofBigEndian_lt (bytes : Bytes) : ofBigEndian bytes < 256 ^ bytes.length := by
  induction bytes using List.reverseRecOn with
  | nil => simp [ofBigEndian]
  | append_singleton bytes byte ih =>
      have hb : byte.toNat < 256 := byte.toNat_lt
      rw [ofBigEndian_concat, List.length_append, List.length_singleton, Nat.pow_succ]
      omega

/-- A byte string is known by its length and its value. -/
theorem ofBigEndian_inj {bytes others : Bytes} (same : bytes.length = others.length)
    (value : ofBigEndian bytes = ofBigEndian others) : bytes = others := by
  induction bytes using List.reverseRecOn generalizing others with
  | nil => exact (List.length_eq_zero_iff.mp same.symm).symm
  | append_singleton bytes byte ih =>
      obtain rfl | ⟨others, other, rfl⟩ := others.eq_nil_or_concat
      · simp at same
      · rw [List.concat_eq_append] at same value ⊢
        rw [ofBigEndian_concat, ofBigEndian_concat] at value
        have hb : byte.toNat < 256 := byte.toNat_lt
        have ho : other.toNat < 256 := other.toNat_lt
        have front : bytes = others := ih (by simpa using same) (by omega)
        have last : byte = other := UInt8.toNat_inj.mp (by omega)
        rw [front, last]

/-! ## Writing -/

theorem shortest_of_lt {n : Nat} (small : n < 256) : shortest n = [UInt8.ofNat n] := by
  rw [shortest, if_pos small]

theorem shortest_of_le {n : Nat} (large : 256 ≤ n) :
    shortest n = shortest (n / 256) ++ [UInt8.ofNat (n % 256)] := by
  rw [shortest, if_neg (by omega)]

@[simp] theorem ofBigEndian_shortest (n : Nat) : ofBigEndian (shortest n) = n := by
  induction n using Nat.strongRecOn with
  | ind n ih =>
      rcases Nat.lt_or_ge n 256 with small | large
      · rw [shortest_of_lt small, ofBigEndian_singleton, UInt8.toNat_ofNat_of_lt' small]
      · have hm : n % 256 < 256 := Nat.mod_lt n (by omega)
        rw [shortest_of_le large, ofBigEndian_concat, ih (n / 256) (by omega),
          UInt8.toNat_ofNat_of_lt' hm]
        omega

/-- A number that fits into so many bytes takes no more than those. -/
theorem length_shortest_le {count n : Nat} (fits : n < 256 ^ (count + 1)) :
    (shortest n).length ≤ count + 1 := by
  induction count generalizing n with
  | zero => simp [shortest_of_lt (show n < 256 by simpa using fits)]
  | succ count ih =>
      rcases Nat.lt_or_ge n 256 with small | large
      · simp [shortest_of_lt small]
      · have quotient : n / 256 < 256 ^ (count + 1) :=
          Nat.div_lt_of_lt_mul (by rw [Nat.mul_comm, ← Nat.pow_succ]; exact fits)
        simpa [shortest_of_le large] using ih quotient

theorem ofBigEndian_zeros (count : Nat) (bytes : Bytes) :
    ofBigEndian (List.replicate count 0 ++ bytes) = ofBigEndian bytes := by
  induction count with
  | zero => rfl
  | succ count ih =>
      rw [List.replicate_succ, List.cons_append, ofBigEndian_cons, ih]
      simp

/-- A number is read back from its bytes as far as they reach. -/
theorem ofBigEndian_bigEndian (count n : Nat) :
    ofBigEndian (bigEndian count n) = n % 256 ^ count := by
  induction count with
  | zero => rw [bigEndian, Nat.pow_zero, Nat.mod_one]; rfl
  | succ count ih =>
      have byte : n / 256 ^ count % 256 < 256 := Nat.mod_lt _ (by decide)
      rw [bigEndian, ofBigEndian_cons, length_bigEndian, ih, Nat.pow_eq,
        UInt8.toNat_ofNat_of_lt' byte, Nat.mod_pow_succ, Nat.mul_comm, Nat.add_comm]

/-! ## Words -/

@[simp] theorem length_leftPad (bytes : Bytes) : (leftPad bytes).length = width := by
  simp only [leftPad, List.length_append, List.length_replicate, List.length_drop]
  omega

/-- Nothing is cut off from what is no longer than a word. -/
theorem ofBigEndian_leftPad {bytes : Bytes} (short : bytes.length ≤ width) :
    ofBigEndian (leftPad bytes) = ofBigEndian bytes := by
  have whole : bytes.length - width = 0 := by omega
  simp only [leftPad, whole, List.drop_zero]
  exact ofBigEndian_zeros _ bytes

/-- The word of a number below `modulus` has its value. -/
theorem ofBigEndian_word {n : Nat} (fits : n < modulus) :
    ofBigEndian (leftPad (shortest n)) = n := by
  have short : (shortest n).length ≤ 31 + 1 := by
    apply length_shortest_le
    rw [modulus_eq] at fits
    omega
  rw [ofBigEndian_leftPad short, ofBigEndian_shortest]

/-- A full word is the word of its value. -/
theorem word_ofBigEndian {word : Bytes} (full : word.length = width) :
    leftPad (shortest (ofBigEndian word)) = word := by
  have fits : ofBigEndian word < modulus := by
    have bound := ofBigEndian_lt word
    rw [full] at bound
    exact bound
  exact ofBigEndian_inj (by simp [full]) (ofBigEndian_word fits)

theorem ofBigEndian_lt_modulus {word : Bytes} (full : word.length = width) :
    ofBigEndian word < modulus := by
  rw [← word_ofBigEndian full]
  have bound := ofBigEndian_lt (leftPad (shortest (ofBigEndian word)))
  rw [length_leftPad] at bound
  exact bound

end ScriptOracle.Word256
