import Mathlib
import ScriptOracle.Number.Double

/-!
# What doubles are worth

The value of a double, as its standard takes its bits apart, is a fraction, and none for infinities and
what is not a number. Here it is compared with the whole numbers that are read off the bits: a double is
read as the whole number that it is worth, and as none if it is worth no whole number. A whole number of
up to 53 bits becomes a double that is worth just that number.
-/

namespace ScriptOracle.Double

open Float.Model (UnpackedFloat Format)
open Float.Model.UnpackedFloat

/-! ## Values -/

/-- The value of a double that is taken apart. -/
def valueOf? : UnpackedFloat -> Option ℚ
  | .zero _ => some 0
  | .finite sign mantissa exponent _ => some (sign.apply mantissa * 2 ^ exponent)
  | .infinity _ | .notANumber => none

/-- The value of a double. Infinities have none, nor has what is not a number. -/
def value? (x : Float) : Option ℚ := valueOf? x.toModel.unpack

theorem isSome_value? (x : Float) : (value? x).isSome = x.isFinite := by
  show (valueOf? x.toModel.unpack).isSome = x.toModel.unpack.isFinite
  cases x.toModel.unpack <;> rfl

/-- A double is equal to zero if it is worth nothing, whatever its sign. -/
theorem beq_zero_iff (x : Float) : (x == 0) = true ↔ value? x = some 0 := by
  have plain : (0 : Float).toModel.unpack = .zero .positive := rfl
  show x.toModel.unpack.beq (0 : Float).toModel.unpack = true ↔ valueOf? x.toModel.unpack = some 0
  rw [plain, beq_iff_ne_notANumber_and_eq]
  cases x.toModel.unpack with
  | zero sign => cases sign <;> simp [valueOf?]
  | finite sign mantissa exponent some =>
      have power : (2 : ℚ) ^ exponent ≠ 0 := zpow_ne_zero _ two_ne_zero
      cases sign <;> simp [valueOf?, Sign.apply, some.ne', power]
  | infinity sign => simp [valueOf?]
  | notANumber => simp [valueOf?]

/-! ## The bits -/

abbrev bits (x : Float) : BitVec Format.binary64.numBits := x.toModel.toBits.toBitVec

theorem toNat_unpackExponent (x : Float) : (unpackExponent (bits x)).toNat = exponentField x := by
  rw [unpackExponent_def, BitVec.extractLsb'_toNat]
  rfl

theorem toNat_unpackMantissa (x : Float) : (unpackMantissa (bits x)).toNat = fractionField x := by
  rw [unpackMantissa_def, BitVec.extractLsb'_toNat]
  rfl

theorem unpackExponent_eq_iff (x : Float) (e : BitVec Format.binary64.exponentBits) :
    unpackExponent (bits x) = e ↔ exponentField x = e.toNat := by
  rw [← BitVec.toNat_inj, toNat_unpackExponent]

theorem unpackMantissa_eq_iff (x : Float) (m : BitVec Format.binary64.mantissaBitsWithoutImplicit) :
    unpackMantissa (bits x) = m ↔ fractionField x = m.toNat := by
  rw [← BitVec.toNat_inj, toNat_unpackMantissa]

theorem ofBitVec_unpackSign (x : Float) :
    Sign.ofBitVec (unpackSign (bits x)) = if isNegative x then .negative else .positive := by
  have bound : x.toBits.toNat < 2 ^ 64 := x.toBits.toNat_lt
  have bit : (unpackSign (bits x)).toNat = x.toBits.toNat / 2 ^ 63 := by
    rw [unpackSign_def, BitVec.extractLsb'_toNat]
    show x.toBits.toNat >>> 63 % 2 ^ 1 = _
    rw [Nat.shiftRight_eq_div_pow]
    omega
  have clear : unpackSign (bits x) = 0#1 ↔ isNegative x = false := by
    rw [← BitVec.toNat_inj, bit, isNegative, decide_eq_false_iff_not]
    show _ = 0 ↔ _
    omega
  rw [Sign.ofBitVec]
  by_cases negative : isNegative x = true
  · rw [if_neg (by rw [clear, negative]; decide), if_pos negative]
  · rw [if_pos (by rw [clear]; simpa using negative), if_neg negative]

/-- The bit that stands unwritten in front of a fraction. -/
theorem toNat_append_one (fraction : BitVec 52) :
    (1#1 ++ fraction).toNat = fraction.toNat + 1 <<< 52 := by
  rw [BitVec.toNat_append, ← Nat.shiftLeft_add_eq_or_of_lt fraction.isLt, Nat.add_comm]
  rfl

def Dyadic.signed (d : Dyadic) : ℤ := if d.negative then -(d.mantissa : ℤ) else d.mantissa

/-- The value of a whole number times a power of two. -/
def Dyadic.value (d : Dyadic) : ℚ := d.signed * 2 ^ d.exponent

theorem apply_sign (negative : Bool) (n : ℕ) (e : ℤ) :
    Sign.apply (if negative then .negative else .positive) n = Dyadic.signed ⟨negative, n, e⟩ := by
  cases negative <;> rfl

/-- What is read off the bits of a double is its value. -/
theorem value?_eq (x : Float) : value? x = (dyadic? x).map Dyadic.value := by
  have full := unpackExponent_eq_iff x (-1#11)
  have none := unpackExponent_eq_iff x 0#11
  have bare := unpackMantissa_eq_iff x 0#52
  rw [value?, dyadic?, Float.Model.unpack, UnpackedFloat.unpack]
  dsimp only
  rw [ofBitVec_unpackSign]
  by_cases large : exponentField x = 2047
  · rw [if_pos (full.2 large), if_pos large]
    split <;> rfl
  · rw [if_neg (mt full.1 large), if_neg large]
    by_cases small : exponentField x = 0
    · rw [if_pos (none.2 small), if_pos small]
      split
      next empty => simp [valueOf?, Dyadic.value, Dyadic.signed, bare.1 empty]
      next =>
        simp only [valueOf?, Option.map_some, Dyadic.value, apply_sign _ _ (-1074), toNat_unpackMantissa,
          toNat_unpackExponent, small]
        rfl
    · rw [if_neg (mt none.1 small), if_neg small]
      have whole : (1#1 ++ unpackMantissa (bits x)).toNat = fractionField x + 1 <<< 52 := by
        rw [← toNat_unpackMantissa]
        exact toNat_append_one _
      simp only [valueOf?, Option.map_some, Dyadic.value, toNat_unpackExponent, whole,
        apply_sign _ _ ((exponentField x : ℤ) - 1075)]
      rfl

/-! ## Whole values -/

theorem Dyadic.isWhole_iff {d : Dyadic} {e : ℕ} (exponent : d.exponent = .negSucc e) :
    d.isWhole = true ↔ 2 ^ (e + 1) ∣ d.mantissa := by
  unfold Dyadic.isWhole
  rw [exponent]
  show (d.mantissa % 1 <<< (e + 1) == 0) = true ↔ _
  rw [beq_iff_eq, Nat.one_shiftLeft, Nat.dvd_iff_mod_eq_zero]

theorem Dyadic.floorNat_of_isWhole {d : Dyadic} (whole : d.isWhole = true) :
    (d.floorNat : ℚ) = d.mantissa * 2 ^ d.exponent := by
  unfold Dyadic.floorNat
  cases exponent : d.exponent with
  | ofNat e =>
      show ((d.mantissa <<< e : ℕ) : ℚ) = _
      rw [Nat.shiftLeft_eq]
      push_cast
      rfl
  | negSucc e =>
      show ((d.mantissa >>> (e + 1) : ℕ) : ℚ) = _
      rw [Nat.shiftRight_eq_div_pow, Nat.cast_div ((Dyadic.isWhole_iff exponent).1 whole) (by positivity),
        zpow_negSucc, div_eq_mul_inv]
      push_cast
      rfl

theorem Dyadic.value_of_isWhole {d : Dyadic} (whole : d.isWhole = true) : d.value = d.truncate := by
  rw [Dyadic.value, Dyadic.signed, Dyadic.truncate]
  split
  · rw [Int.cast_neg, Int.cast_neg, Int.cast_natCast, Int.cast_natCast, neg_mul,
      Dyadic.floorNat_of_isWhole whole]
  · rw [Int.cast_natCast, Int.cast_natCast, Dyadic.floorNat_of_isWhole whole]

theorem Dyadic.natAbs_signed (d : Dyadic) : d.signed.natAbs = d.mantissa := by
  rw [Dyadic.signed]
  split <;> simp

theorem Dyadic.isWhole_of_value_eq {d : Dyadic} {n : ℤ} (worth : d.value = n) : d.isWhole = true := by
  cases exponent : d.exponent with
  | ofNat e => rw [Dyadic.isWhole, exponent]
  | negSucc e =>
      have power : (2 : ℚ) ^ (e + 1) ≠ 0 := by positivity
      rw [Dyadic.value, exponent, zpow_negSucc, ← div_eq_mul_inv, div_eq_iff power] at worth
      have multiple : d.signed = n * 2 ^ (e + 1) := by exact_mod_cast worth
      have size : d.mantissa = n.natAbs * 2 ^ (e + 1) := by
        rw [← Dyadic.natAbs_signed, multiple, Int.natAbs_mul, Int.natAbs_pow]
        rfl
      exact (Dyadic.isWhole_iff exponent).2 ⟨n.natAbs, by rw [size, Nat.mul_comm]⟩

theorem Dyadic.value_eq_iff {d : Dyadic} {n : ℤ} : d.value = n ↔ d.isWhole = true ∧ d.truncate = n := by
  constructor
  · intro worth
    have whole := Dyadic.isWhole_of_value_eq worth
    rw [Dyadic.value_of_isWhole whole, Int.cast_inj] at worth
    exact ⟨whole, worth⟩
  · rintro ⟨whole, rfl⟩
    exact Dyadic.value_of_isWhole whole

/-- A double is read as the whole number that it is worth. -/
theorem integer?_eq_some_iff {x : Float} {n : ℤ} : integer? x = some n ↔ value? x = some (n : ℚ) := by
  rw [value?_eq, integer?]
  cases dyadic? x with
  | none => simp
  | some d => simp [Dyadic.value_eq_iff]

/-! ## Whole numbers as doubles -/

theorem shiftLeft_shiftRight (m j : ℕ) :
    (⟨m <<< j, false, false⟩ : ExtendedMantissa) >>> j = ⟨m, false, false⟩ := by
  induction j generalizing m with
  | zero => rfl
  | succ j ih =>
      have twice : m <<< (j + 1) = (2 * m) <<< j := by
        rw [Nat.shiftLeft_eq, Nat.shiftLeft_eq, Nat.pow_succ]
        ring
      have step : ((⟨(2 * m) <<< j, false, false⟩ : ExtendedMantissa) >>> (j + 1)) =
          ((⟨(2 * m) <<< j, false, false⟩ : ExtendedMantissa) >>> j).shiftRightOne := rfl
      rw [twice, step, ih]
      simp [ExtendedMantissa.shiftRightOne]

section Normal

variable {m : ℕ} (low : 2 ^ 52 ≤ m) (high : m < 2 ^ 53)

include low high

theorem targetExponent_shiftLeft (j : ℕ) {e : ℤ} (least : -1074 ≤ e) :
    Format.binary64.targetExponent (Float.Model.totalExponent (m <<< j) (e - j)) = e := by
  have positive : 0 < 2 ^ j := Nat.two_pow_pos j
  have size : (m <<< j).log2 = 52 + j := by
    rw [Nat.shiftLeft_eq, Nat.log2_eq_iff (Nat.mul_ne_zero (by omega) positive.ne'), Nat.pow_add,
      Nat.add_right_comm, Nat.pow_add]
    exact ⟨Nat.mul_le_mul_right _ low, Nat.mul_lt_mul_of_pos_right high positive⟩
  rw [Format.targetExponent, Float.Model.totalExponent, size]
  show max (((52 + j : ℕ) : ℤ) + 1 + (e - j) - 53) (-1074) = e
  omega

theorem shiftToTargetExponent_shiftLeft (j : ℕ) {e : ℤ} (least : -1074 ≤ e) :
    shiftToTargetExponent Format.binary64 (m <<< j) (e - j) .exact = (⟨m, false, false⟩, e) := by
  have amount : (e - (e - j)).toNat = j := by omega
  rw [shiftToTargetExponent, targetExponent_shiftLeft low high j least, shiftToExponent]
  simp only [amount, ExtendedMantissa.ofMantissaAndAccuracy, shiftLeft_shiftRight, sub_add_cancel]

/-- A number of 53 bits, with zeros behind them, is not rounded. -/
theorem roundWithAccuracy_shiftLeft (sign : Sign) (j : ℕ) {e : ℤ} (least : -1074 ≤ e) :
    roundWithAccuracy Format.binary64 sign (m <<< j) (e - j) .exact =
      .finite sign m e (Nat.lt_of_lt_of_le (by decide) low) := by
  have again := shiftToTargetExponent_shiftLeft low high 0 least
  rw [Nat.shiftLeft_zero, Nat.cast_zero, sub_zero] at again
  rw [roundWithAccuracy, shiftToTargetExponent_shiftLeft low high j least]
  simp only [ExtendedMantissa.roundedMantissa, ExtendedMantissa.accuracy,
    Accuracy.roundToNearestEven, again]
  rw [dif_neg (by omega)]

/-- A number of 53 bits and its exponent are found in the bits of the double again. -/
theorem unpack_pack (sign : Sign) {e : ℤ} (least : -1074 ≤ e) (greatest : e ≤ 971) :
    (Float.Model.pack (.finite sign m e (Nat.lt_of_lt_of_le (by decide) low))).unpack =
      .finite sign m e (Nat.lt_of_lt_of_le (by decide) low) := by
  have size : m.log2 = 52 := (Nat.log2_eq_iff (by omega)).2 ⟨low, high⟩
  obtain ⟨b, biased⟩ : ∃ b : ℕ, (b : ℤ) = e + 1075 := ⟨(e + 1075).toNat, by omega⟩
  have field : (e + (Format.binary64.exponentBias : ℕ) + (52 : ℕ)).toNat = b := by
    show (e + (1023 : ℕ) + (52 : ℕ)).toNat = b
    omega
  have kept : (BitVec.ofNat 11 b).toNat = b := by
    rw [BitVec.toNat_ofNat, Nat.mod_eq_of_lt (by omega)]
  have notFull : BitVec.ofNat 11 b ≠ -1#11 := by
    rw [ne_eq, ← BitVec.toNat_inj, kept]
    show b ≠ 2047
    omega
  have notNone : BitVec.ofNat 11 b ≠ 0#11 := by
    rw [ne_eq, ← BitVec.toNat_inj, kept]
    show b ≠ 0
    omega
  have mantissa : (1#1 ++ BitVec.ofNat 52 m).toNat = m := by
    rw [toNat_append_one, BitVec.toNat_ofNat]
    omega
  have exponent :
      ((BitVec.ofNat 11 b).toNat : ℤ) - ((Format.binary64.exponentBias : ℕ) + (52 : ℕ)) = e := by
    rw [kept]
    show (b : ℤ) - ((1023 : ℕ) + (52 : ℕ)) = e
    omega
  unfold Float.Model.unpack Float.Model.pack UnpackedFloat.pack
  simp only [field, size]
  rw [if_neg (by omega), if_pos (show 52 + 1 = Format.binary64.mantissaBits from rfl), UnpackedFloat.unpack]
  simp only [unpackMantissa_packComponents, unpackExponent_packComponents, unpackSign_packComponents,
    Sign.ofBitVec_toBitVec]
  rw [if_neg notFull, if_neg notNone]
  simp only [mantissa, exponent]

end Normal

section Small

variable {n k : ℕ} (rest : n.log2 + k = 52)

include rest

theorem scaled_bounds (positive : 0 < n) : 2 ^ 52 ≤ n * 2 ^ k ∧ n * 2 ^ k < 2 ^ 53 := by
  obtain ⟨least, greatest⟩ := (Nat.log2_eq_iff positive.ne').1 (rfl : n.log2 = n.log2)
  constructor
  · rw [← rest, Nat.pow_add]
    exact Nat.mul_le_mul_right _ least
  · rw [show 53 = n.log2 + 1 + k by omega, Nat.pow_add]
    exact Nat.mul_lt_mul_of_pos_right greatest (Nat.two_pow_pos k)

/-- A number below `2 ^ 53` becomes a double with the bits of that number, and zeros behind them. -/
theorem unpack_toFloat (positive : 0 < n) (some : 0 < n * 2 ^ k) :
    (UInt64.toFloat n.toUInt64).toModel.unpack = .finite .positive (n * 2 ^ k) (-k) some := by
  obtain ⟨low, high⟩ := scaled_bounds rest positive
  have small : n < 2 ^ 53 := Nat.lt_of_le_of_lt (Nat.le_mul_of_pos_right n (Nat.two_pow_pos k)) high
  have same : n.toUInt64.toNat = n := by
    show n % 2 ^ 64 = n
    omega
  have above : compare (n : ℤ) 0 = .gt := compare_gt_iff_gt.2 (by omega)
  have target : Format.binary64.targetExponent (Float.Model.totalExponent n 0) = -(k : ℤ) := by
    show max ((n.log2 : ℤ) + 1 + 0 - 53) (-1074) = -(k : ℤ)
    omega
  have amount : ((0 : ℤ) - -(k : ℤ)).toNat = k := by omega
  have rounded := roundWithAccuracy_shiftLeft low high .positive 0 (show -1074 ≤ -(k : ℤ) by omega)
  rw [Nat.shiftLeft_zero, Nat.cast_zero, sub_zero] at rounded
  show (Float.Model.pack
    (UnpackedFloat.normalize Format.binary64 (n.toUInt64.toNat : ℕ) 0 .positive)).unpack = _
  rw [same, UnpackedFloat.normalize]
  simp only [above, Int.toNat_natCast]
  rw [UnpackedFloat.round, target, decreaseExponent]
  simp only [amount]
  rw [Nat.shiftLeft_eq, zero_sub, rounded]
  exact unpack_pack low high .positive (by omega) (by omega)

end Small

/-- A number is made of its digits, times the power of ten that is one. -/
theorem ofNat_eq_mul {n : ℕ} (small : n < 2 ^ 53) :
    Float.ofNat n = UInt64.toFloat n.toUInt64 * Float.ofBits 0x3FF0000000000000 := by
  show Float.ofScientific n false 0 = _
  rw [Float.ofScientific, dif_pos ⟨small, by decide⟩]
  rfl

theorem unpack_ofNat {n : ℕ} (positive : 0 < n) (small : n < 2 ^ 53) :
    ∃ (k : ℕ) (some : 0 < n * 2 ^ k), 2 ^ 52 ≤ n * 2 ^ k ∧ n * 2 ^ k < 2 ^ 53 ∧ k ≤ 52 ∧
      (Float.ofNat n).toModel.unpack = .finite .positive (n * 2 ^ k) (-k) some := by
  have size : n.log2 ≤ 52 := Nat.lt_succ_iff.1 ((Nat.log2_lt positive.ne').2 small)
  obtain ⟨k, rest⟩ : ∃ k, n.log2 + k = 52 := ⟨52 - n.log2, by omega⟩
  obtain ⟨low, high⟩ := scaled_bounds rest positive
  have some : 0 < n * 2 ^ k := by omega
  have one : (Float.ofBits 0x3FF0000000000000).toModel.unpack =
      .finite .positive (2 ^ 52) (-52) (by decide) := rfl
  have rounded := roundWithAccuracy_shiftLeft low high .positive 52 (show -1074 ≤ -(k : ℤ) by omega)
  rw [Nat.shiftLeft_eq] at rounded
  refine ⟨k, some, low, high, by omega, ?_⟩
  rw [ofNat_eq_mul small]
  show (Float.Model.pack (UnpackedFloat.mul Format.binary64 (UInt64.toFloat n.toUInt64).toModel.unpack
    (Float.ofBits 0x3FF0000000000000).toModel.unpack)).unpack = _
  rw [unpack_toFloat rest positive some, one, UnpackedFloat.mul]
  show (Float.Model.pack (roundWithAccuracy Format.binary64 .positive (n * 2 ^ k * 2 ^ 52)
    (-(k : ℤ) - (52 : ℕ)) .exact)).unpack = _
  rw [rounded]
  exact unpack_pack low high .positive (by omega) (by omega)

theorem value?_ofNat {n : ℕ} (small : n < 2 ^ 53) : value? (Float.ofNat n) = some (n : ℚ) := by
  obtain rfl | positive := Nat.eq_zero_or_pos n
  · rfl
  · obtain ⟨k, some, -, -, -, parts⟩ := unpack_ofNat positive small
    rw [value?, parts]
    simp [valueOf?, Sign.apply]

theorem value?_neg_ofNat {n : ℕ} (positive : 0 < n) (small : n < 2 ^ 53) :
    value? (Float.ofNat n).neg = some (-(n : ℚ)) := by
  obtain ⟨k, some, low, high, least, parts⟩ := unpack_ofNat positive small
  have stored := unpack_pack low high .negative (show -1074 ≤ -(k : ℤ) by omega) (by omega)
  show valueOf? (Float.Model.pack (UnpackedFloat.neg (Float.ofNat n).toModel.unpack)).unpack = _
  rw [parts]
  show valueOf? (Float.Model.pack (.finite .negative (n * 2 ^ k) (-k) _)).unpack = _
  rw [stored]
  simp [valueOf?, Sign.apply]

/-- A whole number of up to 53 bits becomes a double that is worth just that number. -/
theorem value?_ofInt {n : ℤ} (low : -2 ^ 53 < n) (high : n < 2 ^ 53) :
    value? (ofInt n) = some (n : ℚ) := by
  cases n with
  | ofNat n => exact value?_ofNat (by simp only [Int.ofNat_eq_natCast] at high; omega)
  | negSucc n =>
      have worth := value?_neg_ofNat (Nat.succ_pos n) (by omega)
      rw [Int.cast_negSucc]
      exact worth

end ScriptOracle.Double
