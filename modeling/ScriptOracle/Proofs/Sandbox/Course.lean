import ScriptOracle.Proofs.Sandbox.Audit

/-!
# The gate of a run

A run asks its gate something at some of its acts. The gate that it leaves behind has gone through the
events at these acts and nothing else, whatever comes of the run.
-/

namespace ScriptOracle.Sandbox

open Script
open Gate (Event)

def Transcript.acts (transcript : Transcript) : List Config := transcript.body ++ transcript.telling

theorem Transcript.acts_behind (transcript : Transcript) (trail : List Config) :
    (transcript.behind trail).acts = trail ++ transcript.acts :=
  List.append_assoc trail transcript.body transcript.telling

namespace Runner

def events (runner : Runner) (host : Host) (request : Request) : List Event :=
  trailEvents (engine runner.scriptLimits host) (runner.transcript host request).acts

variable {engine : Engine}

theorem gate_failed (machine : Machine) (heap : Heap) (halt : Halt) :
    (failed engine machine heap halt).1.gate =
      machine.gate.after engine.transport
        (trailEvents engine (failedTranscript engine machine heap halt).acts) := by
  cases halt with
  | limit limit => rfl
  | thrown value =>
      have told := gate_perform engine machine heap (Complaint.collect value)
      simp only [failed, Machine.complain, Machine.read]
      cases performed : machine.perform engine heap (Complaint.collect value) with
      | mk left ending =>
          rw [performed] at told
          cases ending with
          | crashed | exhausted => exact told
          | finished heap' result => cases result <;> exact told

theorem gate_accept (machine : Machine) (heap : Heap) (value : Value) :
    (accept engine machine heap value).1.gate =
      machine.gate.after engine.transport
        (trailEvents engine (acceptTranscript engine machine heap value).acts) := by
  have taken := gate_perform engine machine heap (Result.collect value)
  simp only [accept, acceptTranscript, Machine.read]
  cases performed : machine.perform engine heap (Result.collect value) with
  | mk left ending =>
      rw [performed] at taken
      cases ending with
      | crashed | exhausted => simpa [Transcript.acts] using taken
      | finished heap' result =>
          cases result with
          | ok flow => simpa [Transcript.acts] using taken
          | error halt =>
              simp only [Transcript.acts_behind, trailEvents_append, Gate.after_append, ← taken]
              exact gate_failed left heap' halt

theorem gate_settled (machine : Machine) (heap : Heap) (value : Value) :
    (settle engine machine heap value).1.gate =
      machine.gate.after engine.transport
        (trailEvents engine (settleTranscript engine machine heap value).acts) := by
  unfold settle settleTranscript
  cases heap.promiseState? value with
  | none => exact gate_accept machine heap value
  | some found =>
      obtain ⟨promise, state⟩ := found
      cases state with
      | fulfilled value => exact gate_accept machine heap value
      | rejected reason => exact gate_failed machine heap (.thrown reason)
      | pending waiting => exact gate_failed machine _ (.thrown _)

theorem gate_carryOut (machine : Machine) (heap : Heap) (program : Program) :
    (carryOut engine machine heap program).1.gate =
      machine.gate.after engine.transport
        (trailEvents engine (carryOutTranscript engine machine heap program).acts) := by
  have ran := gate_run engine machine 1 ((Eval.program program).toAct heap)
  simp only [carryOut, carryOutTranscript]
  cases performed : machine.run engine 1 ((Eval.program program).toAct heap) with
  | mk left ending =>
      rw [performed] at ran
      cases ending with
      | crashed | exhausted => simpa [Transcript.acts] using ran
      | finished heap' result =>
          cases result with
          | error halt =>
              simp only [Transcript.acts_behind, trailEvents_append, Gate.after_append, ← ran]
              exact gate_failed left heap' halt
          | ok flow =>
              have drained := gate_drainAll engine engine.budget left heap'
              simp only [Machine.drain, Machine.drainTrail]
              cases jobs : Machine.drainAll engine engine.budget left heap' with
              | mk last ending =>
                  rw [jobs] at drained
                  cases ending with
                  | crashed | exhausted =>
                      simpa [Transcript.acts, trailEvents_append, Gate.after_append, ← ran]
                        using drained
                  | finished heap'' result =>
                      simp only [Transcript.acts_behind, trailEvents_append, Gate.after_append,
                        ← ran, ← drained]
                      exact gate_settled last heap'' flow.lastValue

/-- The gate of a run, whatever comes of it. -/
theorem gate_attempt (runner : Runner) (host : Host) (request : Request) :
    (runner.attempt host request).2.1.gate =
      (Gate.fresh request.quota runner.gateLimits).after host.transport
        (runner.events host request) := by
  unfold attempt perform events transcript
  by_cases aborted : host.hasAborted
  · simp only [aborted, ↓reduceIte]
    rfl
  · simp only [aborted, Bool.false_eq_true, ↓reduceIte]
    cases Program.ofText (wrapped request.source) with
    | error fault => rfl
    | ok program => exact gate_carryOut _ _ program

/-! ## The quota of a run -/

/-- A run hands over no more requests than its quota, whatever comes of it. -/
theorem length_sent_evaluate_le (runner : Runner) (host : Host) (disk : Disk) (request : Request) :
    (runner.evaluate host disk request).1.sent.length ≤ request.quota := by
  show (runner.attempt host request).2.1.gate.sent.length ≤ request.quota
  rw [gate_attempt]
  exact Gate.length_sent_after_le _ _ _ _

/-- The log of a run tells of no more counted requests than its quota. -/
theorem dispatched_log_le (runner : Runner) (host : Host) (disk : Disk) (request : Request) :
    ∀ log ∈ (runner.evaluate host disk request).1.verdict.log?,
      log.countP Gate.LogEntry.dispatched ≤ request.quota := by
  intro log found
  have audited := audited_attempt runner host request log found
  rw [audited.log_eq]
  exact Gate.dispatched_after_le _ _ _ _

end Runner

end ScriptOracle.Sandbox
