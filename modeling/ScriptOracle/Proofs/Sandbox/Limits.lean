import ScriptOracle.Proofs.Except
import ScriptOracle.Proofs.Json.Given
import ScriptOracle.Sandbox.Submission

/-!
# Limits of submissions

The limits that a submission is accepted with are the numbers that it gives, whether they are written as
whole numbers or as doubles. There is one exception: the double `2 ^ 64` is one more than the greatest
limit there is, and is taken for it.
-/

namespace ScriptOracle.Sandbox

theorem exists_of_wholeNumber?_double {x : Float} {n : ℕ} (read : wholeNumber? (.double x) = some n) :
    ∃ m : ℕ, Double.value? x = some (m : ℚ) ∧ m ≤ maxWord + 1 ∧ n = min m maxWord := by
  rw [wholeNumber?] at read
  cases whole : Double.integer? x with
  | none =>
      rw [whole] at read
      cases read
  | some m =>
      rw [whole] at read
      obtain ⟨⟨least, greatest⟩, cut⟩ := Option.ite_none_right_eq_some.1 read
      obtain ⟨m, rfl⟩ := Int.eq_ofNat_of_zero_le least
      refine ⟨m, ?_, by omega, (Option.some.inj cut).symm⟩
      exact_mod_cast Double.integer?_eq_some_iff.1 whole

/-- A number that is read is the one that is written, or it is the greatest one and `2 ^ 64` is written. -/
theorem number?_of_wholeNumber? {value : Json} {n : ℕ} (read : wholeNumber? value = some n) :
    value.number? = some (n : ℚ) ∨ value.number? = some (2 ^ 64) ∧ n = maxWord := by
  cases value with
  | integer m =>
      obtain ⟨least, same⟩ := Option.ite_none_right_eq_some.1 read
      obtain ⟨m, rfl⟩ := Int.eq_ofNat_of_zero_le least
      cases same
      exact .inl rfl
  | double x =>
      obtain ⟨m, worth, greatest, rfl⟩ := exists_of_wholeNumber?_double read
      obtain within | beyond := Nat.le_or_eq_of_le_succ greatest
      · exact .inl (by rw [Json.number?, worth, Nat.min_eq_left within])
      · have last : m = 2 ^ 64 := beyond
        refine .inr ⟨?_, by rw [last]; rfl⟩
        rw [Json.number?, worth, last]
        norm_num
  | _ => cases read

/-- A field that is given holds the number that is read, or `2 ^ 64` where the greatest one is read. -/
theorem number?_of_numberField {input : Json} {name : String} {bound usual n : ℕ} {fault : InputFault}
    (done : numberField input name bound usual fault = .ok n) {value : Json}
    (found : input.get? name = some value) (given : ¬value.IsBlank) :
    n ≤ bound ∧ (value.number? = some (n : ℚ) ∨ value.number? = some (2 ^ 64) ∧ n = maxWord) := by
  rw [numberField, Json.given?_eq_some_iff.2 ⟨found, given⟩] at done
  dsimp only at done
  split at done
  next m read =>
    cases done
    obtain ⟨read, least⟩ := Option.filter_eq_some_iff.1 read
    exact ⟨of_decide_eq_true least, number?_of_wholeNumber? read⟩
  next => cases done

/-- Every part of a submission is read from its own field. -/
structure Submission.Reads (defaults : Defaults) (input : Json) (submission : Submission) : Prop where
  source : readSource input = .ok submission.request.source
  requestId : readRequestId input = .ok submission.requestId
  quota : numberField input "numAllowedQueries" ((1 <<< 32) - 1) defaults.quota .quota =
    .ok submission.request.quota
  args : readArgs input = .ok submission.request.args
  secrets : readSecrets input = .ok submission.request.secrets
  maxResponseBytes : numberField input "maxResponseBytes" maxWord defaults.maxResponseBytes
    .maxResponseBytes = .ok submission.maxResponseBytes

theorem Submission.reads_of_read {defaults : Defaults} {input : Json} {submission : Submission}
    (accepted : Submission.read defaults input = .ok submission) : Reads defaults input submission := by
  unfold Submission.read at accepted
  obtain ⟨source, ofSource, accepted⟩ := exists_of_bind_eq_ok accepted
  obtain ⟨requestId, ofRequestId, accepted⟩ := exists_of_bind_eq_ok accepted
  obtain ⟨quota, ofQuota, accepted⟩ := exists_of_bind_eq_ok accepted
  obtain ⟨args, ofArgs, accepted⟩ := exists_of_bind_eq_ok accepted
  obtain ⟨secrets, ofSecrets, accepted⟩ := exists_of_bind_eq_ok accepted
  obtain ⟨maximum, ofMaximum, accepted⟩ := exists_of_bind_eq_ok accepted
  cases accepted
  exact ⟨ofSource, ofRequestId, ofQuota, ofArgs, ofSecrets, ofMaximum⟩

/-- The limits of a submission that is accepted are those of its fields. -/
theorem Submission.numberFields_of_read {defaults : Defaults} {input : Json} {submission : Submission}
    (accepted : Submission.read defaults input = .ok submission) :
    numberField input "numAllowedQueries" ((1 <<< 32) - 1) defaults.quota .quota =
        .ok submission.request.quota ∧
      numberField input "maxResponseBytes" maxWord defaults.maxResponseBytes .maxResponseBytes =
        .ok submission.maxResponseBytes :=
  have reads := reads_of_read accepted
  ⟨reads.quota, reads.maxResponseBytes⟩

/-- A submission is accepted with the limits that it gives: with the very number of requests, and with the
very number of bytes unless that is `2 ^ 64`, which is taken for one less. -/
theorem limits_as_given {defaults : Defaults} {input : Json} {submission : Submission}
    (accepted : Submission.read defaults input = .ok submission) :
    (∀ value, input.get? "numAllowedQueries" = some value → ¬value.IsBlank →
      value.number? = some (submission.request.quota : ℚ)) ∧
    ∀ value, input.get? "maxResponseBytes" = some value → ¬value.IsBlank →
      (value.number? ≠ some (2 ^ 64) → value.number? = some (submission.maxResponseBytes : ℚ)) ∧
      (value.number? = some (2 ^ 64) → submission.maxResponseBytes = 2 ^ 64 - 1) := by
  obtain ⟨ofQuota, ofMaximum⟩ := Submission.numberFields_of_read accepted
  constructor
  · intro value found given
    obtain ⟨least, same | ⟨-, greatest⟩⟩ := number?_of_numberField ofQuota found given
    · exact same
    · rw [greatest] at least
      exact absurd least (by decide)
  · intro value found given
    obtain ⟨least, same | ⟨beyond, greatest⟩⟩ := number?_of_numberField ofMaximum found given
    · refine ⟨fun _ => same, fun beyond => ?_⟩
      have limit : submission.maxResponseBytes = 2 ^ 64 := by
        rw [same] at beyond
        exact_mod_cast Option.some.inj beyond
      rw [limit] at least
      exact absurd least (by decide)
    · exact ⟨fun other => absurd beyond other, fun _ => greatest⟩

/-- A submission with one limit written as a whole number and one as a double. -/
def limitedInput (maximum : Float) : Json :=
  .object [("source", .string ""), ("numAllowedQueries", .integer 5), ("maxResponseBytes", .double maximum)]

theorem read_limitedInput {maximum : Float} {n : ℕ} (whole : Double.integer? maximum = some (n : ℤ))
    (positive : 0 < n) (least : n ≤ maxWord + 1) (defaults : Defaults) :
    Submission.read defaults (limitedInput maximum) = .ok ⟨⟨"", [], none, 5⟩, min n maxWord, none⟩ := by
  have worth : Double.value? maximum = some (n : ℚ) := Double.integer?_eq_some_iff.1 whole
  have given : (limitedInput maximum).given? "maxResponseBytes" = some (.double maximum) := by
    refine Json.given?_eq_some_iff.2 ⟨rfl, ?_⟩
    simp [Json.IsBlank, Json.number?, worth, positive.ne']
  have bounded : (wholeNumber? (.double maximum)).filter (· ≤ maxWord) = some (min n maxWord) := by
    have range : (0 : ℤ) ≤ n ∧ (n : ℤ) ≤ maxWord + 1 := by omega
    simp only [wholeNumber?, whole, if_pos range, Int.toNat_natCast]
    exact Option.filter_some_pos (decide_eq_true (Nat.min_le_right _ _))
  have limit : numberField (limitedInput maximum) "maxResponseBytes" maxWord defaults.maxResponseBytes
      .maxResponseBytes = .ok (min n maxWord) := by
    rw [numberField, given]
    dsimp only
    rw [bounded]
  have front : Submission.read defaults (limitedInput maximum) = (do
      let maxResponseBytes ← numberField (limitedInput maximum) "maxResponseBytes" maxWord
        defaults.maxResponseBytes .maxResponseBytes
      pure ⟨⟨"", [], none, 5⟩, maxResponseBytes, none⟩) := rfl
  rw [front, limit]
  rfl

/-- A limit of 256 bytes, written as a double. -/
theorem limits_as_given_double :
    Submission.read ⟨100, 1⟩ (limitedInput (Float.ofBits 0x4070000000000000)) =
        .ok ⟨⟨"", [], none, 5⟩, 256, none⟩ ∧
      (Json.integer 5).number? = some 5 ∧
      (Json.double (Float.ofBits 0x4070000000000000)).number? = some 256 := by
  have whole : Double.integer? (Float.ofBits 0x4070000000000000) = some ((256 : ℕ) : ℤ) := by decide +kernel
  have accepted := read_limitedInput whole (by decide) (by decide) ⟨100, 1⟩
  have worth : (Json.double (Float.ofBits 0x4070000000000000)).number? = some 256 :=
    Double.integer?_eq_some_iff.1 whole
  obtain ⟨ofQuota, ofMaximum⟩ := limits_as_given accepted
  have below : (Json.double (Float.ofBits 0x4070000000000000)).number? ≠ some (2 ^ 64) := by
    rw [worth]
    norm_num
  refine ⟨accepted, ofQuota (.integer 5) rfl ?_, (ofMaximum (.double _) rfl ?_).1 below⟩
  · simp [Json.IsBlank, Json.number?]
  · simp [Json.IsBlank, worth]

/-- A limit of `2 ^ 64` bytes is accepted, as one of a byte less. -/
theorem limit_lowered :
    ¬∀ (defaults : Defaults) (input : Json) (submission : Submission),
      Submission.read defaults input = .ok submission →
      ∀ value, input.get? "maxResponseBytes" = some value → ¬value.IsBlank →
        value.number? = some (submission.maxResponseBytes : ℚ) := by
  intro kept
  have whole : Double.integer? (Float.ofBits 0x43F0000000000000) = some ((2 ^ 64 : ℕ) : ℤ) := by
    decide +kernel
  have worth : (Json.double (Float.ofBits 0x43F0000000000000)).number? = some ((2 ^ 64 : ℕ) : ℚ) :=
    Double.integer?_eq_some_iff.1 whole
  have same := kept ⟨100, 1⟩ _ _ (read_limitedInput whole (by decide) (by decide) _) _ rfl
    (by simp [Json.IsBlank, worth])
  rw [worth] at same
  have lowered : 2 ^ 64 = min (2 ^ 64) maxWord := by exact_mod_cast Option.some.inj same
  exact absurd lowered (by decide)

end ScriptOracle.Sandbox
