import ScriptOracle.Proofs.Gate.History

/-!
# What a gate takes from the transport

A gate takes the answer to each request that it hands over, and whether the host gave up meanwhile, and
nothing else. Transports that treat these requests alike cannot be told apart at the gate.
-/

namespace ScriptOracle.Gate

/-- Two transports treat requests that are handed over one after the other alike. -/
def Transport.AgreesOn (first second : Transport) (sent : List Prepared) : Prop :=
  ∀ earlier request, earlier ++ [request] <+: sent →
    second.send earlier request = first.send earlier request ∧
      second.interrupts earlier request = first.interrupts earlier request

variable {first second transport : Transport} {gate left : Gate}

theorem Transport.AgreesOn.mono {sent fewer : List Prepared} (agree : first.AgreesOn second sent)
    (part : fewer <+: sent) : first.AgreesOn second fewer :=
  fun earlier request handed => agree earlier request (handed.trans part)

/-! ## Requests are never taken back -/

theorem Served.sent_grows {ask : Ask} {outcome : Outcome}
    (way : Served transport gate ask outcome left) : gate.sent <+: left.sent := by
  cases way with
  | refused | turnedAway | unprepared => exact List.prefix_rfl
  | handedOver => exact List.prefix_append _ _

theorem sent_grows_after (transport : Transport) (gate : Gate) (events : List Event) :
    gate.sent <+: (gate.after transport events).sent := by
  induction events generalizing gate with
  | nil => exact List.prefix_rfl
  | cons event events ih =>
      cases event with
      | ask ask => exact (served transport gate ask).sent_grows.trans (ih _)
      | abort => exact ih gate.abort

/-! ## One call -/

theorem dispatch_congr {request : Prepared} {type : AnswerType}
    (agree : first.AgreesOn second (gate.dispatch first request type).2.sent) :
    gate.dispatch second request type = gate.dispatch first request type := by
  obtain ⟨answer, interrupted⟩ := agree gate.sent request List.prefix_rfl
  rw [dispatch, dispatch, answer, interrupted]

theorem perform_congr {call : Call} (agree : first.AgreesOn second (gate.perform first call).2.sent) :
    gate.perform second call = gate.perform first call := by
  unfold perform carryOut at *
  cases vetted : gate.vet call with
  | error refusal => rfl
  | ok _ =>
      simp only [vetted] at agree ⊢
      cases prepared : prepare gate.limits call with
      | error refusal => rfl
      | ok request =>
          simp only [prepared] at agree ⊢
          rw [dispatch_congr agree]

/-! ## Answers that are handed on -/

theorem ofReply_eq_answered {type : AnswerType} {result : Except Failure Reply} {answer : Answer}
    (made : Outcome.ofReply type result = .answered answer) :
    ∃ reply, result = .ok reply ∧ isSuccess reply.status = true ∧
      answer = ⟨reply.status, reply.headers, .read reply.body type⟩ := by
  cases result with
  | error failure => cases made
  | ok reply =>
      unfold Outcome.ofReply at made
      dsimp only at made
      split at made
      next success =>
        cases made
        exact ⟨reply, rfl, success, rfl⟩
      next => cases made

/-- A script is answered only with what the transport answered to a request of its own. -/
theorem Served.answered {ask : Ask} {answer : Answer}
    (way : Served transport gate ask (.answered answer) left) :
    ∃ call request reply, ask = .request call ∧ left.sent = gate.sent ++ [request] ∧
      prepare gate.limits call = .ok request ∧ transport.send gate.sent request = .ok reply ∧
      isSuccess reply.status = true ∧
      answer = ⟨reply.status, reply.headers, .read reply.body call.answerType⟩ := by
  generalize made : Outcome.answered answer = outcome at way
  cases way with
  | refused | turnedAway | unprepared => cases made
  | handedOver call request vetted prepared =>
      obtain ⟨reply, sent, success, same⟩ := ofReply_eq_answered made.symm
      exact ⟨call, request, reply, rfl, rfl, prepared, sent, success, same⟩

end ScriptOracle.Gate
