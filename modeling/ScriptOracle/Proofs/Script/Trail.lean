import ScriptOracle.Proofs.Gate.History
import ScriptOracle.Script.Result

/-!
# The trail of a run

A trail lists every act that a machine takes, each with the machine that took it. There is a trail for
each way in which the host sets a machine going: a run, a task of its own, a job, all jobs. The gate
changes only at the acts that ask something of it, so that the trail decides what became of the gate.
-/

namespace ScriptOracle.Script

open Gate (Ask Event)

structure Config where
  machine : Machine
  act : Act

def Act.asked? : Act -> Option Ask
  | .request _ made _ => some (.request made)
  | .refuse _ url method refusal _ => some (.refuse url method refusal)
  | _ => none

/-- What happens to the gate at an act. The host may give up just before the gate is asked. -/
def Config.events (engine : Engine) (config : Config) : List Event :=
  match config.act.asked? with
  | none => []
  | some ask =>
    if engine.abandons config.machine.gate.log then [.abort, .ask ask] else [.ask ask]

def Step.machine : Step -> Machine
  | .next machine _ => machine
  | .done machine _ => machine

namespace Machine

/-- The acts of `steps`. The trails below are those of the functions of their names. -/
def trail (engine : Engine) : Nat -> Machine -> Act -> List Config
  | 0, _, _ => []
  | fuel + 1, machine, act =>
    ⟨machine, act⟩ ::
      match machine.step engine act with
      | .next machine act => trail engine fuel machine act
      | .done _ _ => []

def runTrail (engine : Engine) (machine : Machine) (depth : Nat) (act : Act) : List Config :=
  trail engine engine.budget { machine with frames := [], depth := depth, rounds := 0 } act

def performTrail (engine : Engine) (machine : Machine) (heap : Heap) (task : Task Value) :
    List Config :=
  machine.runTrail engine 0 ((do let value ← task; pure (.give value) : Task Flow).toAct heap)

def resumeTrail (engine : Engine) (machine : Machine) (heap : Heap) (suspension : Nat)
    (result : Except Value Value) : List Config :=
  match machine.suspended[suspension]? with
  | none => []
  | some found =>
    trail engine engine.budget
      { machine with
        frames := found.loops ++ [.waiting found.promise none 0]
        depth := 1
        rounds := found.rounds }
      (found.after heap (thrownInto result))

def workTrail (engine : Engine) (machine : Machine) (heap : Heap) : Job -> List Config
  | .resume suspension result => machine.resumeTrail engine heap suspension result
  -- The other jobs settle promises, which runs nothing by itself.
  | _ => []

def drainAllTrail (engine : Engine) : Nat -> Machine -> Heap -> List Config
  | 0, _, _ => []
  | fuel + 1, machine, heap =>
    match heap.jobs with
    | [] => []
    | job :: jobs =>
      machine.workTrail engine { heap with jobs := jobs } job ++
        match machine.work engine { heap with jobs := jobs } job with
        | (machine, .finished heap (.ok _)) => drainAllTrail engine fuel machine heap
        | _ => []

def drainTrail (engine : Engine) (machine : Machine) (heap : Heap) : List Config :=
  drainAllTrail engine engine.budget machine heap

def complainTrail (engine : Engine) (machine : Machine) (heap : Heap) (halt : Halt) :
    List Config :=
  match halt with
  | .limit _ => []
  | .thrown value => machine.performTrail engine heap (Complaint.collect value)

end Machine

/-! ## The gate along a trail -/

def trailEvents (engine : Engine) (trail : List Config) : List Event :=
  trail.flatMap (Config.events engine)

theorem gate_toCaller (machine : Machine) (heap : Heap)
    (caller : Option (Heap -> Except Halt Value -> Act)) (result : Except Halt Value) :
    (machine.toCaller heap caller result).machine.gate = machine.gate := by
  cases caller with
  | some caller => rfl
  | none => cases result <;> rfl

theorem gate_settle (machine : Machine) (heap : Heap) (promise : Ref)
    (caller : Option (Heap -> Except Halt Value -> Act)) (result : Except Halt Flow) :
    (machine.settle heap promise caller result).machine.gate = machine.gate := by
  cases result with
  | ok flow => exact gate_toCaller machine _ caller _
  | error halt =>
      cases halt with
      | thrown reason => exact gate_toCaller machine _ caller _
      | limit limit => exact gate_toCaller machine heap caller _

theorem gate_finish (machine : Machine) (heap : Heap) (result : Except Halt Flow) :
    (machine.finish heap result).machine.gate = machine.gate := by
  unfold Machine.finish
  split
  · rfl
  · rfl
  · exact gate_settle _ heap _ _ result
  · split <;> rfl

theorem gate_callClosure (machine : Machine) (heap : Heap) (code : Code) (scope : Nat)
    (this : Value) (args : List Value) (after : Heap -> Except Halt Value -> Act) :
    (machine.callClosure heap code scope this args after).machine.gate = machine.gate := by
  unfold Machine.callClosure
  split <;> rfl

theorem gate_call (engine : Engine) (machine : Machine) (heap : Heap) (callee this : Value)
    (args : List Value) (after : Heap -> Except Halt Value -> Act) :
    (machine.call engine heap callee this args after).machine.gate = machine.gate := by
  unfold Machine.call
  split
  · rfl
  · split
    · rfl
    · split
      · rfl
      · exact gate_callClosure machine heap _ _ _ args after

theorem gate_create (engine : Engine) (machine : Machine) (heap : Heap) (callee : Value)
    (args : List Value) (after : Heap -> Except Halt Value -> Act) :
    (machine.create engine heap callee args after).machine.gate = machine.gate := by
  unfold Machine.create
  split
  · rfl
  · split
    · rfl
    · split
      · rfl
      · split
        · rfl
        · exact gate_callClosure machine _ _ _ _ args _

theorem gate_wait (machine : Machine) (heap : Heap) (value : Value)
    (after : Heap -> Except Halt Value -> Act) :
    (machine.wait heap value after).machine.gate = machine.gate := by
  unfold Machine.wait
  split
  · rfl
  · exact gate_toCaller _ _ _ _

/-- A step changes the gate by the events of its act. -/
theorem gate_step (engine : Engine) (machine : Machine) (act : Act) :
    (machine.step engine act).machine.gate =
      machine.gate.after engine.transport (Config.events engine ⟨machine, act⟩) := by
  cases act with
  | finish heap result => exact gate_finish machine heap result
  | call heap callee this args after => exact gate_call engine machine heap callee this args after
  | create heap callee args after => exact gate_create engine machine heap callee args after
  | wait heap value after => exact gate_wait machine heap value after
  | loop | print | pause | crash => rfl
  | count heap after =>
      change (machine.count engine heap after).machine.gate = machine.gate
      unfold Machine.count
      split <;> rfl
  | request heap call after =>
      simp only [Machine.step, Config.events, Act.asked?, Machine.nextGate, Step.machine]
      split <;> rfl
  | refuse heap url method refusal after =>
      simp only [Machine.step, Config.events, Act.asked?, Machine.nextGate, Step.machine]
      split <;> rfl

theorem trailEvents_cons (engine : Engine) (config : Config) (trail : List Config) :
    trailEvents engine (config :: trail) = config.events engine ++ trailEvents engine trail := rfl

theorem trailEvents_append (engine : Engine) (first second : List Config) :
    trailEvents engine (first ++ second) =
      trailEvents engine first ++ trailEvents engine second :=
  List.flatMap_append

theorem gate_steps (engine : Engine) (fuel : Nat) (machine : Machine) (act : Act) :
    (Machine.steps engine fuel machine act).1.gate =
      machine.gate.after engine.transport
        (trailEvents engine (Machine.trail engine fuel machine act)) := by
  induction fuel generalizing machine act with
  | zero => rfl
  | succ fuel ih =>
      have first := gate_step engine machine act
      cases taken : machine.step engine act with
      | next machine' act' =>
          rw [taken] at first
          simp only [Machine.steps, Machine.trail, taken, trailEvents_cons, Gate.after_append]
          rw [ih, ← first]
          rfl
      | done machine' ending =>
          rw [taken] at first
          simp only [Machine.steps, Machine.trail, taken, trailEvents_cons, Gate.after_append]
          exact first

theorem gate_run (engine : Engine) (machine : Machine) (depth : Nat) (act : Act) :
    (machine.run engine depth act).1.gate =
      machine.gate.after engine.transport
        (trailEvents engine (machine.runTrail engine depth act)) :=
  gate_steps engine engine.budget _ act

theorem gate_perform (engine : Engine) (machine : Machine) (heap : Heap) (task : Task Value) :
    (machine.perform engine heap task).1.gate =
      machine.gate.after engine.transport
        (trailEvents engine (machine.performTrail engine heap task)) :=
  gate_run engine machine 0 _

theorem gate_work (engine : Engine) (machine : Machine) (heap : Heap) (job : Job) :
    (machine.work engine heap job).1.gate =
      machine.gate.after engine.transport
        (trailEvents engine (machine.workTrail engine heap job)) := by
  cases job with
  | settle | adopt => rfl
  | resume suspension result =>
      simp only [Machine.work, Machine.workTrail, Machine.resume, Machine.resumeTrail]
      cases machine.suspended[suspension]? with
      | none => rfl
      | some found => exact gate_steps engine engine.budget _ _

theorem gate_drainAll (engine : Engine) (fuel : Nat) (machine : Machine) (heap : Heap) :
    (Machine.drainAll engine fuel machine heap).1.gate =
      machine.gate.after engine.transport
        (trailEvents engine (Machine.drainAllTrail engine fuel machine heap)) := by
  induction fuel generalizing machine heap with
  | zero => rfl
  | succ fuel ih =>
      unfold Machine.drainAll Machine.drainAllTrail
      cases left : heap.jobs with
      | nil => rfl
      | cons job jobs =>
          have worked := gate_work engine machine { heap with jobs := jobs } job
          dsimp only
          rw [trailEvents_append, Gate.after_append, ← worked]
          cases machine.work engine { heap with jobs := jobs } job with
          | mk machine' ending =>
              cases ending with
              | crashed | exhausted => rfl
              | finished heap result =>
                  cases result with
                  | error halt => rfl
                  | ok flow => exact ih machine' heap

end ScriptOracle.Script
