import ScriptOracle.Proofs.Gate.Answers

/-!
# What a failing answer tells

A script sees the headers and the data of an answer only if its status tells of success. Of any other answer
it is told the status, and neither the outcome nor the log nor the gate holds more of it: two transports that
fail a request with the same status cannot be told apart, whatever else they send. What a script sees of an
outcome has a fixed set of names.
-/

namespace ScriptOracle.Gate

/-- A transport answers a request with a status, and with any headers and body. -/
def Transport.AnswersWith (transport : Transport) (status : Nat) (sent : List Prepared)
    (request : Prepared) : Prop :=
  ∃ headers body, transport.send sent request = .ok ⟨status, headers, body⟩

/-- What stands in the object that a script gets for an outcome: these names in order, and no other. -/
def Outcome.Shows : Outcome → Fields Json → Prop
  | .answered _, fields => Fields.names fields = ["error", "status", "headers", "data"]
  | .failed _ _ none, fields => Fields.names fields = ["error", "name", "message"]
  | .failed _ _ (some status), fields =>
    Fields.names fields = ["error", "name", "message", "status", "response"] ∧
      Fields.get? fields "response" = some (.object [("status", .ofNat status)])

variable {first second transport : Transport} {gate left : Gate} {ask : Ask}

theorem isSuccess_iff {status : Nat} : isSuccess status = true ↔ 200 ≤ status ∧ status ≤ 299 := by
  rw [isSuccess, Bool.and_eq_true, decide_eq_true_iff, decide_eq_true_iff, Nat.lt_succ_iff]

/-! ## Failing answers -/

theorem Transport.AnswersWith.outcome {status : Nat} {sent : List Prepared} {request : Prepared}
    (answers : transport.AnswersWith status sent request) (failing : ¬(200 ≤ status ∧ status ≤ 299))
    (type : AnswerType) :
    Outcome.ofReply type (transport.send sent request) =
      .failed "HttpError" s!"Request failed with status code {status}" (some status) := by
  obtain ⟨headers, body, sent⟩ := answers
  rw [sent, Outcome.ofReply, if_neg (by rwa [isSuccess_iff])]

/-- Transports that fail a request alike leave gates that differ at most in whether the host gave up. -/
theorem perform_of_failing (gate : Gate) (call : Call) {status : Nat}
    (failing : ¬(200 ≤ status ∧ status ≤ 299))
    (alike : ∀ request, prepare gate.limits call = .ok request →
      first.AnswersWith status gate.sent request ∧ second.AnswersWith status gate.sent request) :
    gate.perform second call = ((gate.perform first call).1,
      { (gate.perform first call).2 with aborted := (gate.perform second call).2.aborted }) := by
  unfold perform carryOut
  cases gate.vet call with
  | error refusal => rfl
  | ok _ =>
      cases prepared : prepare gate.limits call with
      | error refusal => rfl
      | ok request =>
          obtain ⟨one, other⟩ := alike request prepared
          simp only [dispatch, one.outcome failing, other.outcome failing]
          rfl

/-- Whether the host has given up depends on the transport only through its interruptions. -/
theorem perform_aborted_congr {call : Call}
    (interrupted : ∀ request, prepare gate.limits call = .ok request →
      second.interrupts gate.sent request = first.interrupts gate.sent request) :
    (gate.perform second call).2.aborted = (gate.perform first call).2.aborted := by
  unfold perform carryOut
  cases gate.vet call with
  | error refusal => rfl
  | ok _ =>
      cases prepared : prepare gate.limits call with
      | error refusal => rfl
      | ok request => simp only [dispatch, record_aborted, interrupted request prepared]

/-! ## Answers of success -/

/-- A script is answered just when a request was handed over and the transport answered it with success. -/
theorem Served.isAnswered_iff {outcome : Outcome} (way : Served transport gate ask outcome left) :
    outcome.isAnswered = true ↔ ∃ request reply, left.sent = gate.sent ++ [request] ∧
      transport.send gate.sent request = .ok reply ∧ 200 ≤ reply.status ∧ reply.status ≤ 299 := by
  constructor
  · intro answered
    cases outcome with
    | failed => cases answered
    | answered answer =>
        obtain ⟨call, request, reply, _, more, _, sent, success, _⟩ := way.answered
        exact ⟨request, reply, more, sent, isSuccess_iff.1 success⟩
  · rintro ⟨request, reply, more, sent, success⟩
    cases way with
    | refused | turnedAway | unprepared =>
        exact absurd (List.self_eq_append_right.1 more) (List.cons_ne_nil _ _)
    | handedOver call last vetted prepared =>
        obtain rfl : last = request := List.singleton_inj.1 (List.append_cancel_left more)
        rw [sent, Outcome.ofReply, if_pos (isSuccess_iff.2 success)]
        rfl

/-! ## What an outcome shows -/

theorem Outcome.exists_shows (outcome : Outcome) :
    ∃ fields, outcome.toJson = .object fields ∧ outcome.Shows fields := by
  cases outcome with
  | answered answer => exact ⟨_, rfl, rfl⟩
  | failed name message status =>
      cases status with
      | none => exact ⟨_, rfl, rfl⟩
      | some status => exact ⟨_, rfl, rfl, rfl⟩

/-- A script learns nothing of a failing answer but its status. It is answered only with a status of success,
and what it sees of an outcome has always the same names. -/
theorem failing_answers_alike (gate : Gate) :
    (∀ (call : Call) (first second : Transport) (status : Nat), ¬(200 ≤ status ∧ status ≤ 299) →
      (∀ request, prepare gate.limits call = .ok request →
        first.AnswersWith status gate.sent request ∧ second.AnswersWith status gate.sent request) →
      let one := gate.perform first call
      let other := gate.perform second call
      other.1 = one.1 ∧ other.1.toJson = one.1.toJson ∧ other.2.log = one.2.log ∧
        other.2 = { one.2 with aborted := other.2.aborted } ∧
        ((∀ request, prepare gate.limits call = .ok request →
          second.interrupts gate.sent request = first.interrupts gate.sent request) →
            other.2 = one.2)) ∧
    (∀ (transport : Transport) (ask : Ask),
      (visit transport gate ask).outcome.isAnswered = true ↔
        ∃ request reply, (visit transport gate ask).left.sent = gate.sent ++ [request] ∧
          transport.send gate.sent request = .ok reply ∧ 200 ≤ reply.status ∧ reply.status ≤ 299) ∧
    ∀ outcome : Outcome, ∃ fields, outcome.toJson = .object fields ∧ outcome.Shows fields := by
  refine ⟨?_, fun transport ask => (served transport gate ask).isAnswered_iff, Outcome.exists_shows⟩
  intro call first second status failing alike one other
  have ⟨outcome, state⟩ : other.1 = one.1 ∧ other.2 = { one.2 with aborted := other.2.aborted } :=
    Prod.ext_iff.1 (perform_of_failing gate call failing alike)
  refine ⟨outcome, congrArg Outcome.toJson outcome, by rw [state], state, ?_⟩
  intro interrupted
  rw [state, perform_aborted_congr interrupted]

/-- Two transports that fail every request with 404, one with nothing else and one with a header and a body. -/
theorem failing_answers_alike_on_missing :
    let bare : Transport := ⟨fun _ _ => .ok ⟨404, [], []⟩, fun _ _ => false⟩
    let telling : Transport :=
      ⟨fun _ _ => .ok ⟨404, [("server", "inner")], Text.utf8 "secret"⟩, fun _ _ => false⟩
    let gate := fresh 1 .usual
    let call := Call.get "https://a.example/"
    (∀ request, prepare gate.limits call = .ok request →
      bare.AnswersWith 404 gate.sent request ∧ telling.AnswersWith 404 gate.sent request) ∧
    (gate.perform bare call).1.status? = some 404 ∧
    (gate.perform telling call).1 = (gate.perform bare call).1 ∧
    (gate.perform telling call).2 = (gate.perform bare call).2 := by
  intro bare telling gate call
  have alike : ∀ request, prepare gate.limits call = .ok request →
      bare.AnswersWith 404 gate.sent request ∧ telling.AnswersWith 404 gate.sent request :=
    fun _ _ => ⟨⟨_, _, rfl⟩, ⟨_, _, rfl⟩⟩
  obtain ⟨outcome, _, _, _, state⟩ :=
    (failing_answers_alike gate).1 call bare telling 404 (by decide) alike
  exact ⟨alike, by decide +kernel, outcome, state fun _ _ => rfl⟩

end ScriptOracle.Gate
