import ScriptOracle.Proofs.Gate.Answers
import ScriptOracle.Proofs.Script.Trail

/-!
# A run is decided by the answers it gets

A machine looks at the transport only when a request is handed over. Over a transport that treats all
requests of a run alike the run is the same, act by act.
-/

namespace ScriptOracle.Script

open Gate (Event Transport)

def Engine.over (engine : Engine) (transport : Transport) : Engine :=
  { engine with transport := transport }

variable {engine : Engine} {other : Transport} {machine : Machine} {heap : Heap}

/-! ## Requests are never taken back -/

theorem sent_grows_of_gate {left : Machine} {events : List Event}
    (course : left.gate = machine.gate.after engine.transport events) :
    machine.gate.sent <+: left.gate.sent := by
  rw [course]
  exact Gate.sent_grows_after _ _ _

theorem sent_grows_steps (engine : Engine) (fuel : Nat) (machine : Machine) (act : Act) :
    machine.gate.sent <+: (Machine.steps engine fuel machine act).1.gate.sent :=
  sent_grows_of_gate (gate_steps engine fuel machine act)

theorem sent_grows_drainAll (engine : Engine) (fuel : Nat) (machine : Machine) (heap : Heap) :
    machine.gate.sent <+: (Machine.drainAll engine fuel machine heap).1.gate.sent :=
  sent_grows_of_gate (gate_drainAll engine fuel machine heap)

/-! ## Acts -/

theorem step_congr {act : Act}
    (agree : engine.transport.AgreesOn other (machine.step engine act).machine.gate.sent) :
    machine.step (engine.over other) act = machine.step engine act := by
  cases act with
  | request heap call after =>
      have same : (machine.nextGate engine).perform other call =
          (machine.nextGate engine).perform engine.transport call := Gate.perform_congr agree
      simp only [Machine.step]
      rw [show (engine.over other).transport = other from rfl,
        show machine.nextGate (engine.over other) = machine.nextGate engine from rfl, same]
  | _ => rfl

theorem steps_congr (fuel : Nat) {machine : Machine} {act : Act}
    (agree : engine.transport.AgreesOn other
      (Machine.steps engine fuel machine act).1.gate.sent) :
    Machine.steps (engine.over other) fuel machine act = Machine.steps engine fuel machine act := by
  induction fuel generalizing machine act with
  | zero => rfl
  | succ fuel ih =>
      have same : machine.step (engine.over other) act = machine.step engine act := by
        apply step_congr
        refine agree.mono ?_
        rw [Machine.steps]
        cases machine.step engine act with
        | next left next => exact sent_grows_steps engine fuel left next
        | done left ending => exact List.prefix_rfl
      rw [Machine.steps] at agree ⊢
      rw [Machine.steps, same]
      cases taken : machine.step engine act with
      | done left ending => rfl
      | next left next =>
          rw [taken] at agree
          exact ih agree

theorem run_congr {depth : Nat} {act : Act}
    (agree : engine.transport.AgreesOn other (machine.run engine depth act).1.gate.sent) :
    machine.run (engine.over other) depth act = machine.run engine depth act :=
  steps_congr engine.budget agree

theorem perform_congr {task : Task Value}
    (agree : engine.transport.AgreesOn other (machine.perform engine heap task).1.gate.sent) :
    machine.perform (engine.over other) heap task = machine.perform engine heap task :=
  run_congr agree

/-! ## Jobs -/

theorem work_congr {job : Job}
    (agree : engine.transport.AgreesOn other (machine.work engine heap job).1.gate.sent) :
    machine.work (engine.over other) heap job = machine.work engine heap job := by
  cases job with
  | settle | adopt => rfl
  | resume suspension result =>
      simp only [Machine.work, Machine.resume] at agree ⊢
      cases found : machine.suspended[suspension]? with
      | none => rfl
      | some waiting =>
          rw [found] at agree
          exact steps_congr engine.budget agree

theorem drainAll_congr (fuel : Nat) {machine : Machine} {heap : Heap}
    (agree : engine.transport.AgreesOn other
      (Machine.drainAll engine fuel machine heap).1.gate.sent) :
    Machine.drainAll (engine.over other) fuel machine heap =
      Machine.drainAll engine fuel machine heap := by
  induction fuel generalizing machine heap with
  | zero => rfl
  | succ fuel ih =>
      unfold Machine.drainAll at agree ⊢
      cases jobs : heap.jobs with
      | nil => rfl
      | cons job rest =>
          simp only [jobs] at agree ⊢
          have same : machine.work (engine.over other) { heap with jobs := rest } job =
              machine.work engine { heap with jobs := rest } job := by
            apply work_congr
            refine agree.mono ?_
            cases machine.work engine { heap with jobs := rest } job with
            | mk left ending =>
                cases ending with
                | crashed | exhausted => exact List.prefix_rfl
                | finished heap' result =>
                    cases result with
                    | error halt => exact List.prefix_rfl
                    | ok flow => exact sent_grows_drainAll engine fuel left heap'
          rw [same]
          cases done : machine.work engine { heap with jobs := rest } job with
          | mk left ending =>
              cases ending with
              | crashed | exhausted => rfl
              | finished heap' result =>
                  cases result with
                  | error halt => rfl
                  | ok flow =>
                      rw [done] at agree
                      exact ih agree

/-! ## What the host reads -/

theorem read_machine {α : Type} (task : Task Value) (view : Heap -> Value -> α) :
    (machine.read engine heap task view).1 = (machine.perform engine heap task).1 := by
  unfold Machine.read
  cases machine.perform engine heap task with
  | mk left ending =>
      cases ending with
      | crashed | exhausted => rfl
      | finished heap' result => cases result <;> rfl

theorem read_congr {α : Type} {task : Task Value} {view : Heap -> Value -> α}
    (agree : engine.transport.AgreesOn other (machine.read engine heap task view).1.gate.sent) :
    machine.read (engine.over other) heap task view = machine.read engine heap task view := by
  rw [read_machine] at agree
  rw [Machine.read, Machine.read, perform_congr agree]

theorem complain_congr {halt : Halt}
    (agree : engine.transport.AgreesOn other (machine.complain engine heap halt).1.gate.sent) :
    machine.complain (engine.over other) heap halt = machine.complain engine heap halt := by
  cases halt with
  | limit limit => rfl
  | thrown value => exact read_congr agree

end ScriptOracle.Script
