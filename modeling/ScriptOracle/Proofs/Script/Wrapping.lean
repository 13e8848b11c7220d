import ScriptOracle.Proofs.Word256.Doubles

/-!
# Numbers as bytes

The byte of a number is what the number is worth, without its fraction and modulo 256, unless it is worth
`2 ^ 63` or more: what exceeds sixty-four bits is cut off before the remainder is taken. Below `-2 ^ 63` this
does no harm, since doubles of that size are multiples of 256 as the bound is; above, it makes 255 of what
would be 0.
-/

namespace ScriptOracle

namespace Double

/-- A fraction without what stands behind its point. -/
def towardZero (w : ℚ) : ℤ := if 0 ≤ w then ⌊w⌋ else ⌈w⌉

@[simp] theorem towardZero_intCast (n : ℤ) : towardZero n = n := by
  rw [towardZero]
  split
  · exact Int.floor_intCast n
  · exact Int.ceil_intCast n

theorem towardZero_neg (w : ℚ) : towardZero (-w) = -towardZero w := by
  rw [towardZero, towardZero]
  obtain below | rfl | above := lt_trichotomy w 0
  · rw [if_pos (by linarith), if_neg (by linarith), Int.floor_neg]
  · rfl
  · rw [if_neg (by linarith), if_pos above.le, Int.ceil_neg]

/-! ## What is read off the bits -/

theorem Dyadic.floorNat_eq (d : Dyadic) : (d.floorNat : ℤ) = ⌊(d.mantissa * 2 ^ d.exponent : ℚ)⌋ := by
  unfold Dyadic.floorNat
  cases d.exponent with
  | ofNat e =>
      dsimp only
      rw [Nat.shiftLeft_eq, Int.ofNat_eq_natCast, zpow_natCast]
      have whole : ⌊((d.mantissa * 2 ^ e : ℕ) : ℚ)⌋ = (d.mantissa * 2 ^ e : ℕ) := Int.floor_natCast _
      exact_mod_cast whole.symm
  | negSucc e =>
      dsimp only
      rw [Nat.shiftRight_eq_div_pow, zpow_negSucc, ← div_eq_mul_inv]
      exact_mod_cast (Rat.floor_natCast_div_natCast d.mantissa (2 ^ (e + 1))).symm

theorem Dyadic.truncate_eq (d : Dyadic) : d.truncate = towardZero d.value := by
  have size : (d.floorNat : ℤ) = towardZero (d.mantissa * 2 ^ d.exponent) := by
    rw [towardZero, if_pos (by positivity), Dyadic.floorNat_eq]
  rw [Dyadic.truncate, Dyadic.value, Dyadic.signed, size]
  split
  · rw [Int.cast_neg, Int.cast_natCast, neg_mul, towardZero_neg]
  · rw [Int.cast_natCast]

theorem truncate?_eq (x : Float) : truncate? x = (value? x).map towardZero := by
  rw [truncate?, value?_eq, Option.map_map]
  exact congrArg (Option.map · (dyadic? x)) (funext Dyadic.truncate_eq)

/-- The bits in front of the exponent are few. -/
theorem mantissa_lt {x : Float} {d : Dyadic} (found : dyadic? x = some d) : d.mantissa < 2 ^ 53 := by
  have few : fractionField x < 2 ^ 52 := Nat.mod_lt _ (by decide)
  rw [dyadic?] at found
  split at found
  · cases found
  · split at found <;> cases found <;> simp only [Nat.one_shiftLeft] <;> omega

/-- Doubles of that size have no bits for what is below 256. -/
theorem dvd_floorNat {x : Float} {d : Dyadic} (found : dyadic? x = some d) (large : 2 ^ 63 ≤ d.floorNat) :
    256 ∣ d.floorNat := by
  have few := mantissa_lt found
  revert large
  unfold Dyadic.floorNat
  cases d.exponent with
  | ofNat e =>
      dsimp only
      rw [Nat.shiftLeft_eq]
      intro large
      have high : 10 < e := by
        refine Decidable.byContradiction fun low => ?_
        have small : 2 ^ e ≤ 2 ^ 10 := Nat.pow_le_pow_right (by decide) (Nat.not_lt.1 low)
        have product : d.mantissa * 2 ^ e < 2 ^ 53 * 2 ^ 10 := Nat.mul_lt_mul_of_lt_of_le few small (by decide)
        omega
      exact Dvd.dvd.mul_left (Nat.pow_dvd_pow 2 (by omega : 8 ≤ e)) _
  | negSucc e =>
      dsimp only
      intro large
      have less : d.mantissa >>> (e + 1) ≤ d.mantissa := Nat.shiftRight_le d.mantissa (e + 1)
      omega

theorem dvd_truncate? {x : Float} {n : ℤ} (found : truncate? x = some n) (large : 2 ^ 63 ≤ n.natAbs) :
    256 ∣ n := by
  obtain ⟨d, parts, rfl⟩ := Option.map_eq_some_iff.1 found
  have size : d.truncate.natAbs = d.floorNat := by
    rw [Dyadic.truncate]
    split <;> simp
  rw [size] at large
  exact Int.natCast_dvd.2 (size ▸ dvd_floorNat parts large)

end Double

namespace Script.Numeral

open Double (towardZero)

variable {n : Numeral}

theorem truncate?_eq (n : Numeral) : n.truncate? = n.worth?.map towardZero := by
  cases n with
  | int n => rw [truncate?, worth?, Option.map_some, Double.towardZero_intCast]
  | float x => exact Double.truncate?_eq x

/-- A whole number modulo 256. -/
def byteOf (n : ℤ) : UInt8 := UInt8.ofNat (n % 256).toNat

/-- What a number is worth, without its fraction and modulo 256; 0 of a number that is not finite. -/
def wrapped (n : Numeral) : UInt8 := byteOf ((n.worth?.map towardZero).getD 0)

/-- A number is worth `2 ^ 63` or more. -/
def Exceeds (n : Numeral) : Prop := ∃ w, n.worth? = some w ∧ 2 ^ 63 ≤ w

/-- Numbers of many bits have no bits below 256. -/
theorem dvd_of_worth? {w : ℚ} (kept : n.IsKept) (worth : n.worth? = some w)
    (large : 2 ^ 63 ≤ (towardZero w).natAbs) : 256 ∣ towardZero w := by
  cases n with
  | int n =>
      have range : -(1 <<< 31 : Nat) ≤ n ∧ n < (1 <<< 31 : Nat) := by simpa [IsKept, fits] using kept
      cases worth
      rw [Double.towardZero_intCast] at large
      omega
  | float x =>
      have value : Double.value? x = some w := worth
      exact Double.dvd_truncate? (by rw [Double.truncate?_eq, value, Option.map_some]) large

theorem towardZero_lt_iff {w : ℚ} : towardZero w < 2 ^ 63 ↔ w < 2 ^ 63 := by
  rw [towardZero]
  split
  · rw [Int.floor_lt]
    norm_num
  next below =>
    have less : ⌈w⌉ ≤ 0 := Int.ceil_le.2 (by exact_mod_cast (not_le.1 below).le)
    exact iff_of_true (by omega) ((not_le.1 below).trans (by norm_num))

theorem toByte_of_exceeds (exceeds : n.Exceeds) : n.toByte = 255 := by
  obtain ⟨w, worth, large⟩ := exceeds
  have above : 2 ^ 63 ≤ towardZero w := not_lt.1 (mt towardZero_lt_iff.1 (not_lt.2 large))
  rw [toByte, truncate?_eq, worth, Option.map_some]
  simp only [Nat.one_shiftLeft]
  rw [min_eq_right (by push_cast; omega), max_eq_right (by decide)]
  rfl

theorem wrapped_of_exceeds (kept : n.IsKept) (exceeds : n.Exceeds) : n.wrapped = 0 := by
  obtain ⟨w, worth, large⟩ := exceeds
  have above : 2 ^ 63 ≤ towardZero w := not_lt.1 (mt towardZero_lt_iff.1 (not_lt.2 large))
  have multiple : 256 ∣ towardZero w := dvd_of_worth? kept worth (by omega)
  rw [wrapped, worth, Option.map_some, Option.getD_some, byteOf, Int.emod_eq_zero_of_dvd multiple]
  rfl

theorem toByte_of_not_exceeds (kept : n.IsKept) (within : ¬n.Exceeds) : n.toByte = n.wrapped := by
  rw [toByte, wrapped, truncate?_eq]
  cases worth : n.worth? with
  | none => rfl
  | some w =>
      have below : towardZero w < 2 ^ 63 :=
        towardZero_lt_iff.2 (not_le.1 fun large => within ⟨w, worth, large⟩)
      simp only [Option.map_some, Option.getD_some, byteOf, Nat.one_shiftLeft]
      rw [min_eq_left (by push_cast; omega)]
      obtain inside | outside := le_or_gt (-2 ^ 63) (towardZero w)
      · rw [max_eq_right (by push_cast; omega)]
      · have multiple : 256 ∣ towardZero w := dvd_of_worth? kept worth (by omega)
        rw [max_eq_left (by push_cast; omega), Int.emod_eq_zero_of_dvd multiple]
        rfl

/-- A number is reduced to its byte exactly if it is worth less than `2 ^ 63`, or nothing. -/
theorem toByte_eq_wrapped_iff (kept : n.IsKept) : n.toByte = n.wrapped ↔ ¬n.Exceeds := by
  constructor
  · intro same exceeds
    rw [toByte_of_exceeds exceeds, wrapped_of_exceeds kept exceeds] at same
    exact absurd same (by decide)
  · exact toByte_of_not_exceeds kept

end Script.Numeral

end ScriptOracle
