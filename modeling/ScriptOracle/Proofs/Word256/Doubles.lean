import ScriptOracle.Proofs.Number.Double
import ScriptOracle.Proofs.Word256.RoundTrip
import ScriptOracle.Script.Capability

/-!
# Words of doubles

A number of a script is encoded for what it is worth. Where that is a whole number of the encoder's range,
the word is that of the whole number, however far apart the doubles around it are; where it is not, the
encoder refuses. A script cannot tell by the word whether it handed over a number or a whole number of any
size.
-/

namespace ScriptOracle

namespace Script.Numeral

def worth? : Numeral -> Option ℚ
  | .int n => some n
  | .float x => Double.value? x

/-- Whole numbers are kept as such up to thirty-two bits. -/
def IsKept : Numeral -> Prop
  | .int n => fits n = true
  | .float _ => True

/-- A number is worth what the double is worth that it becomes. -/
theorem value?_toDouble {k : Numeral} (kept : k.IsKept) : Double.value? k.toDouble = k.worth? := by
  cases k with
  | int n =>
      have range : -(1 <<< 31 : Nat) ≤ n ∧ n < (1 <<< 31 : Nat) := by
        simpa [IsKept, fits] using kept
      exact Double.value?_ofInt (by omega) (by omega)
  | float x => rfl

end Script.Numeral

namespace Word256

/-- The range of an encoder. No number is a text. -/
def Encoder.Holds : Encoder -> ℤ -> Prop
  | .unsigned, n => 0 ≤ n ∧ n < 2 ^ 256
  | .signed, n => -2 ^ 255 ≤ n ∧ n < 2 ^ 255
  | .text, _ => False

theorem isSome_encode?_integer (encoder : Encoder) (n : ℤ) :
    (encoder.encode? (.integer n)).isSome = true ↔ encoder.Holds n := by
  cases encoder with
  | unsigned => rw [encode?_unsigned_integer, isSome_encodeUnsigned?, Encoder.Holds]
  | signed => rw [encode?_signed_integer, isSome_encodeSigned?, Encoder.Holds]
  | text => exact iff_of_false Bool.false_ne_true id

theorem encode?_integer_zero {encoder : Encoder} (numeric : encoder ≠ .text) :
    encoder.encode? (.integer 0) = some (List.replicate 32 0) := by
  have word : leftPad (shortest 0) = List.replicate 32 0 := by
    rw [shortest_of_lt (by decide)]
    rfl
  cases encoder with
  | unsigned => rw [encode?_unsigned_integer, encodeUnsigned?_eq_some (by omega) (by omega), ← word]; rfl
  | signed => rw [encode?_signed_integer, encodeSigned?_eq_some (by omega) (by omega), ← word]; rfl
  | text => exact absurd rfl numeric

section

variable (encoder : Encoder) {x : Float}

theorem encode?_number_of_whole {n : ℤ} (worth : Double.value? x = some (n : ℚ)) :
    encoder.encode? (.number x) = encoder.encode? (.integer n) := by
  have read : (Operand.number x).integer? = some n := Double.integer?_eq_some_iff.2 worth
  cases encoder with
  | unsigned => rw [encode?_unsigned_integer, Encoder.encode?, read, Option.bind_some]
  | signed => rw [encode?_signed_integer, Encoder.encode?, read, Option.bind_some]
  | text => rfl

theorem encode?_number_of_not_whole (worth : ∀ n : ℤ, Double.value? x ≠ some (n : ℚ)) :
    encoder.encode? (.number x) = none := by
  have read : (Operand.number x).integer? = none :=
    Option.eq_none_iff_forall_ne_some.2 fun n found => worth n (Double.integer?_eq_some_iff.1 found)
  cases encoder with
  | unsigned => rw [Encoder.encode?, read, Option.bind_none]
  | signed => rw [Encoder.encode?, read, Option.bind_none]
  | text => rfl

theorem isSome_encode?_number :
    (encoder.encode? (.number x)).isSome = true ↔
      ∃ n : ℤ, Double.value? x = some (n : ℚ) ∧ encoder.Holds n := by
  constructor
  · intro accepted
    by_cases whole : ∃ n : ℤ, Double.value? x = some (n : ℚ)
    · obtain ⟨n, worth⟩ := whole
      rw [encode?_number_of_whole encoder worth, isSome_encode?_integer] at accepted
      exact ⟨n, worth, accepted⟩
    · rw [encode?_number_of_not_whole encoder (not_exists.1 whole)] at accepted
      cases accepted
  · rintro ⟨n, worth, holds⟩
    rw [encode?_number_of_whole encoder worth]
    exact (isSome_encode?_integer encoder n).2 holds

end

end Word256

namespace Script.Capability

open Word256 (Encoder)

variable (encoder : Encoder)

theorem encode_number (k : Numeral) (rest : List Value) :
    encode encoder (.number k :: rest) =
      match encoder.encode? (.number k.toDouble) with
      | some bytes => Modules.newBytes bytes
      | none => Task.raise .error encoder.complaint := rfl

theorem encode_bigint (n : ℤ) (rest : List Value) :
    encode encoder (.bigint n :: rest) =
      match encoder.encode? (.integer n) with
      | some bytes => Modules.newBytes bytes
      | none => Task.raise .error encoder.complaint := rfl

end Script.Capability

namespace Word256

open Script (Numeral Capability.encode Task.raise)

/-- Numbers are encoded for what they are worth. A double is encoded if it is finite and worth a whole
number of the range, and then to the word of that whole number; a negative zero is worth zero. A script
gets one and the same answer for a number and for the whole number of any size that it is worth, and an
error for a number that is worth no whole number of the range. -/
theorem encode?_number (encoder : Encoder) (x : Float) :
    ((encoder.encode? (.number x)).isSome = true ↔
      x.isFinite = true ∧ ∃ n : ℤ, Double.value? x = some (n : ℚ) ∧ encoder.Holds n) ∧
    (∀ n : ℤ, Double.value? x = some (n : ℚ) →
      encoder.encode? (.number x) = encoder.encode? (.integer n)) ∧
    (encoder ≠ .text → encoder.encode? (.number Double.negativeZero) = some (List.replicate 32 0)) ∧
    ∀ (k : Numeral) (rest : List Script.Value), k.IsKept →
      (∀ n : ℤ, k.worth? = some (n : ℚ) →
        Capability.encode encoder (.number k :: rest) = Capability.encode encoder (.bigint n :: rest)) ∧
      ((¬ ∃ n : ℤ, k.worth? = some (n : ℚ) ∧ encoder.Holds n) →
        Capability.encode encoder (.number k :: rest) = Task.raise .error encoder.complaint) := by
  refine ⟨?accepted, fun n => encode?_number_of_whole encoder, ?zero, fun k rest kept => ⟨?same, ?refused⟩⟩
  case accepted =>
    rw [isSome_encode?_number]
    constructor
    · rintro ⟨n, worth, holds⟩
      have finite : x.isFinite = true := by rw [← Double.isSome_value?, worth, Option.isSome_some]
      exact ⟨finite, n, worth, holds⟩
    · exact And.right
  case zero =>
    intro numeric
    have worth : Double.value? Double.negativeZero = some ((0 : ℤ) : ℚ) := rfl
    rw [encode?_number_of_whole encoder worth]
    exact encode?_integer_zero numeric
  case same =>
    intro n worth
    rw [← Numeral.value?_toDouble kept] at worth
    rw [Script.Capability.encode_number, encode?_number_of_whole encoder worth,
      Script.Capability.encode_bigint]
  case refused =>
    intro worthless
    rw [← Numeral.value?_toDouble kept, ← isSome_encode?_number,
      Option.not_isSome_iff_eq_none] at worthless
    rw [Script.Capability.encode_number, worthless]

end Word256

end ScriptOracle
