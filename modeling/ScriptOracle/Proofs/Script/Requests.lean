import ScriptOracle.Proofs.Script.Manner.Machine

/-!
# Every request of a script reaches the gate

A script makes a request by calling one native function. What such a call asks of the gate depends only
on its argument and the heap, and the gate is asked in the very next act; no other act asks it anything.
The invariant is that all that is under way or suspended leaves the gate alone.
-/

namespace ScriptOracle.Script

open Gate (Ask)

/-! ## What a call asks -/

namespace Capability

/-- What is asked of the gate for an argument that is no object with data. -/
def nothingAsked : Ask := .refuse "" "GET" (.invalidRequest "request must be an object")

def askOf (data : Json) : Ask :=
  match Gate.Call.read data with
  | .ok call => .request call
  | .error mismatch => .refuse (addressIn data) "GET" (.invalidRequest mismatch.message)

/-- What is asked of the gate for an argument. There is nothing if reading it breaks the host down. -/
def asked? (heap : Heap) (value : Value) : Option Ask :=
  match value with
  | .object _ =>
    if heap.isCallable value then some nothingAsked
    else
      match heap.data value with
      | .ok data => some (askOf data)
      | .error .breakdown => none
      | .error _ => some nothingAsked
  | _ => some nothingAsked

end Capability

def Act.ofAsk (heap : Heap) (after : Heap -> Gate.Outcome -> Act) : Ask -> Act
  | .request made => .request heap made after
  | .refuse url method refusal => .refuse heap url method refusal after

/-- What a call of the function that sends requests asks of the gate, at an act that is such a call and
not one too many. -/
def Config.requested? (engine : Engine) (config : Config) : Option Ask :=
  match config.act with
  | .call heap callee _ args _ =>
    match heap.function? callee with
    | some (.native .makeRequest) =>
      if engine.depth ≤ config.machine.depth then none
      else Capability.asked? heap (argument args 0)
    | _ => none
  | _ => none

def requests (engine : Engine) (trail : List Config) : List Ask :=
  trail.filterMap (Config.requested? engine)

def asks (trail : List Config) : List Ask := trail.filterMap fun config => config.act.asked?

/-! ## One step -/

def Manner.quiet : Manner := ⟨False, fun _ => True⟩

variable {engine : Engine} {machine : Machine} {ends : Ends}

/-- An object that is no function is read as data, and a script does not see that it has none. -/
theorem requestData_object {heap : Heap} {ref : Ref} (plain : ¬ heap.isCallable (.object ref))
    (after : Heap -> Except Halt (Option Json) -> Act) :
    ∃ next : Heap -> Except Halt Json -> Act,
      Capability.requestData (.object ref) heap after = toData (.object ref) heap next ∧
      (∀ heap data, next heap (.ok data) = after heap (.ok (some data))) ∧
      ∀ heap halt, next heap (.error halt) = after heap (.ok none) := by
  refine ⟨?next, ?reads, ?found, ?missing⟩
  case reads =>
    change (if heap.isCallable (.object ref) then (pure none : Task (Option Json)) else _)
      heap after = _
    rw [if_neg plain]
    rfl
  case found => exact fun _ _ => rfl
  case missing => exact fun _ _ => rfl

/-- What becomes of the argument of a request: it is read, unless reading it breaks the host down. -/
theorem requestData_asks (heap : Heap) (value : Value)
    (after : Heap -> Except Halt (Option Json) -> Act) :
    match Capability.asked? heap value with
    | none => Capability.requestData value heap after = .crash heap value ∧
        heap.data value = .error .breakdown
    | some ask => ∃ heap' data, Capability.requestData value heap after = after heap' (.ok data) ∧
        ∀ heap behind, Capability.send data heap behind =
          Act.ofAsk heap (fun heap outcome => behind heap (.ok outcome)) ask := by
  cases value with
  | object ref =>
      by_cases callable : heap.isCallable (.object ref)
      · have skipped : Capability.requestData (.object ref) heap after = after heap (.ok none) := by
          change (if heap.isCallable (.object ref) then (pure none : Task (Option Json)) else _)
            heap after = _
          rw [if_pos callable]
          rfl
        simp only [Capability.asked?, callable, ↓reduceIte]
        exact ⟨heap, none, skipped, fun _ _ => rfl⟩
      · obtain ⟨next, reads, found, missing⟩ := requestData_object callable after
        have converted := reads.trans (toData_eq heap (.object ref) next)
        simp only [Capability.asked?, callable, Bool.false_eq_true, ↓reduceIte]
        cases data : heap.data (.object ref) with
        | ok content =>
            rw [data] at converted
            refine ⟨heap, some content, converted.trans (found heap content), fun heap behind => ?_⟩
            simp only [Capability.send, Capability.askOf]
            cases Gate.Call.read content <;> rfl
        | error obstacle =>
            rw [data] at converted
            cases obstacle with
            | breakdown => exact ⟨converted, rfl⟩
            | bigint | symbol => exact ⟨_, none, converted.trans (missing _ _), fun _ _ => rfl⟩
  | _ => exact ⟨heap, none, rfl, fun _ _ => rfl⟩

/-- The function that sends requests asks the gate at once. -/
theorem makeRequest_asks (heap : Heap) (args : List Value)
    (after : Heap -> Except Halt Value -> Act) :
    match Capability.asked? heap (argument args 0) with
    | none => Capability.makeRequest args heap after = .crash heap (argument args 0) ∧
        heap.data (argument args 0) = .error .breakdown
    | some ask => ∃ heap', Capability.makeRequest args heap after =
        Act.ofAsk heap' (fun heap outcome => Capability.outcomeValue outcome heap after) ask := by
  have reads (next : Heap -> Except Halt (Option Json) -> Act) :=
    requestData_asks heap (argument args 0) next
  cases asked : Capability.asked? heap (argument args 0) with
  | none =>
      simp only [asked] at reads
      exact ⟨(reads _).1, (reads fun _ _ => .finish heap (.ok .leave)).2⟩
  | some ask =>
      simp only [asked] at reads
      obtain ⟨heap', data, read, sends⟩ := reads _
      exact ⟨heap', read.trans (sends heap' _)⟩

/-- Asking the gate is followed by something quiet. -/
theorem quiet_step_ofAsk (engine : Engine) (still : machine.Keeps .quiet ends) (heap : Heap)
    {after : Heap -> Gate.Outcome -> Act}
    (behind : ∀ heap outcome, (after heap outcome).Keeps .quiet (ends.above machine.frames))
    (ask : Ask) : (machine.step engine (Act.ofAsk heap after ask)).Keeps .quiet ends := by
  cases ask with
  | request | refuse => exact ⟨⟨still.frames, still.suspended⟩, behind _ _⟩

theorem asked?_ofAsk (heap : Heap) (after : Heap -> Gate.Outcome -> Act) (ask : Ask) :
    (Act.ofAsk heap after ask).asked? = some ask := by
  cases ask <;> rfl

theorem requested?_ofAsk (heap : Heap) (after : Heap -> Gate.Outcome -> Act) (ask : Ask) :
    Config.requested? engine ⟨machine, Act.ofAsk heap after ask⟩ = none := by
  cases ask <;> rfl

theorem asked?_of_quiet {act : Act} (quiet : act.Keeps .quiet ends) : act.asked? = none := by
  cases quiet with
  | request allowed behind | refuse allowed behind => exact absurd allowed id
  | _ => rfl

/-- A call is followed by something quiet, unless it is a request: then it is followed by asking the gate
just that. -/
theorem step_of_call (still : machine.Keeps .quiet ends) (heap : Heap) (callee this : Value)
    (args : List Value) {after : Heap -> Except Halt Value -> Act}
    (behind : Returns .quiet ends machine.frames after) :
    match Config.requested? engine ⟨machine, .call heap callee this args after⟩ with
    | none => (machine.call engine heap callee this args after).Keeps .quiet ends
    | some ask => ∃ heap' after', machine.call engine heap callee this args after =
        .next machine (Act.ofAsk heap' after' ask) ∧
        ∀ heap outcome, (after' heap outcome).Keeps .quiet (ends.above machine.frames) := by
  by_cases sends : heap.function? callee = some (.native .makeRequest) ∧
      ¬engine.depth ≤ machine.depth
  · obtain ⟨found, shallow⟩ := sends
    have asks := makeRequest_asks heap args after
    simp only [Config.requested?, Machine.call, found, shallow, ↓reduceIte]
    cases asked : Capability.asked? heap (argument args 0) with
    | none =>
        simp only [asked] at asks
        have breaks : Native.makeRequest.call this args heap after =
            .crash heap (argument args 0) := asks.1
        refine ⟨still, ?_⟩
        rw [breaks]
        exact .crash trivial asks.2
    | some ask =>
        simp only [asked] at asks
        obtain ⟨heap', same⟩ := asks
        refine ⟨heap', _, congrArg (Step.next machine) same, fun heap outcome => ?_⟩
        exact Capability.keeps_outcomeValue outcome _ heap after behind
  · have silent : Config.requested? engine ⟨machine, .call heap callee this args after⟩ = none := by
      simp only [Config.requested?]
      split
      next found =>
        split
        next => rfl
        next shallow => exact absurd ⟨found, shallow⟩ sends
      next => rfl
    rw [silent]
    refine keeps_called still heap callee this behind fun native found shallow =>
      ⟨fun same => sends ⟨?_, shallow⟩, fun _ _ => trivial⟩
    rw [found, same]

/-- A quiet act is followed by something quiet, unless it is a request: then it is followed by asking
the gate just that. -/
theorem step_of_quiet (engine : Engine) {act : Act} (still : machine.Keeps .quiet ends)
    (quiet : act.Keeps .quiet (ends.above machine.frames)) :
    match Config.requested? engine ⟨machine, act⟩ with
    | none => (machine.step engine act).Keeps .quiet ends
    | some ask => ∃ heap after, machine.step engine act = .next machine (Act.ofAsk heap after ask) ∧
        ∀ heap outcome, (after heap outcome).Keeps .quiet (ends.above machine.frames) := by
  cases quiet with
  | finish ended => exact keeps_finish still _ ended
  | create behind => exact keeps_made still _ _ _ behind
  | loop inside behind => exact ⟨⟨⟨⟨inside, behind⟩, still.frames⟩, still.suspended⟩, inside _ _ _⟩
  | count behind => exact keeps_counted still _ behind
  | wait behind => exact keeps_waited still _ _ behind
  | request allowed behind | refuse allowed behind => exact absurd allowed id
  | print behind => exact ⟨⟨still.frames, still.suspended⟩, behind _⟩
  | pause behind => exact ⟨still, behind _⟩
  | crash allowed broken => exact ⟨still.suspended, trivial⟩
  | call behind => exact step_of_call still _ _ _ _ behind

/-! ## Runs -/

theorem requests_append (first second : List Config) :
    requests engine (first ++ second) = requests engine first ++ requests engine second :=
  List.filterMap_append

theorem asks_append (first second : List Config) :
    asks (first ++ second) = asks first ++ asks second :=
  List.filterMap_append

theorem asks_cons (config : Config) (trail : List Config) :
    asks (config :: trail) = config.act.asked?.toList ++ asks trail := by
  cases asked : config.act.asked? <;> simp [asks, asked]

theorem requests_cons (config : Config) (trail : List Config) :
    requests engine (config :: trail) =
      (config.requested? engine).toList ++ requests engine trail := by
  cases requested : config.requested? engine <;> simp [requests, requested]

/-- The machine stays quiet, and if all came to an end, every request was put to the gate, in order, and
nothing else was. -/
def Answered (engine : Engine) (trail : List Config) (left : Machine × Ending) : Prop :=
  left.1.Resumes .quiet ∧
    ∀ heap result, left.2 = .finished heap result -> asks trail = requests engine trail

theorem answered_of_exhausted {trail : List Config} (still : machine.Resumes .quiet) :
    Answered engine trail (machine, .exhausted) :=
  ⟨still, fun _ _ impossible => by cases impossible⟩

theorem answered_nil (still : machine.Resumes .quiet) (ending : Ending) :
    Answered engine [] (machine, ending) :=
  ⟨still, fun _ _ _ => rfl⟩

/-- Acts at which as much is requested as asked do not matter. -/
theorem answered_append {first rest : List Config} {left : Machine × Ending}
    (same : asks first = requests engine first) (answered : Answered engine rest left) :
    Answered engine (first ++ rest) left := by
  refine ⟨answered.1, fun heap result finished => ?_⟩
  rw [asks_append, requests_append, same, answered.2 heap result finished]

theorem answered_steps (fuel : Nat) {machine : Machine} {act : Act}
    (still : machine.Keeps .quiet ends) (quiet : act.Keeps .quiet (ends.above machine.frames)) :
    Answered engine (Machine.trail engine fuel machine act)
      (Machine.steps engine fuel machine act) := by
  -- A request takes two steps, so that the induction is on all smaller budgets.
  induction fuel using Nat.strongRecOn generalizing machine act with
  | ind fuel ih =>
      cases fuel with
      | zero => exact answered_of_exhausted still.suspended
      | succ fuel =>
          have step := step_of_quiet engine still quiet
          have silent := asked?_of_quiet quiet
          simp only [Machine.steps, Machine.trail]
          cases requested : Config.requested? engine ⟨machine, act⟩ with
          | none =>
              have same : asks [⟨machine, act⟩] = requests engine [⟨machine, act⟩] := by
                rw [asks_cons, requests_cons, silent, requested]
                rfl
              simp only [requested] at step
              cases taken : machine.step engine act with
              | done left ending =>
                  rw [taken] at step
                  exact answered_append same (answered_nil step.1 ending)
              | next left next =>
                  rw [taken] at step
                  exact answered_append same (ih fuel (Nat.lt_succ_self _) step.1 step.2)
          | some ask =>
              simp only [requested] at step
              obtain ⟨heap, after, taken, behind⟩ := step
              simp only [taken]
              cases fuel with
              | zero => exact answered_of_exhausted still.suspended
              | succ fuel =>
                  have next := quiet_step_ofAsk engine still heap behind ask
                  have same : asks [⟨machine, act⟩, ⟨machine, Act.ofAsk heap after ask⟩] =
                      requests engine [⟨machine, act⟩, ⟨machine, Act.ofAsk heap after ask⟩] := by
                    rw [asks_cons, asks_cons, requests_cons, requests_cons, silent, requested,
                      asked?_ofAsk, requested?_ofAsk]
                    rfl
                  simp only [Machine.steps, Machine.trail]
                  cases asking : machine.step engine (Act.ofAsk heap after ask) with
                  | done left ending =>
                      rw [asking] at next
                      exact answered_append same (answered_nil next.1 ending)
                  | next left act =>
                      rw [asking] at next
                      exact answered_append same (ih fuel (by omega) next.1 next.2)

theorem answered_run (engine : Engine) (still : machine.Resumes .quiet) (depth : Nat) {act : Act}
    (quiet : act.Keeps .quiet ends) :
    Answered engine (machine.runTrail engine depth act) (machine.run engine depth act) :=
  answered_steps engine.budget ⟨trivial, still⟩ quiet

theorem answered_perform (engine : Engine) (still : machine.Resumes .quiet) (heap : Heap)
    {task : Task Value} (quiet : task.Keeps .quiet) :
    Answered engine (machine.performTrail engine heap task) (machine.perform engine heap task) :=
  answered_run engine still 0
    (Task.keeps_toAct (Task.keeps_bind quiet fun _ => Task.keeps_pure _) heap)

theorem answered_work (engine : Engine) (still : machine.Resumes .quiet) (heap : Heap) (job : Job) :
    Answered engine (machine.workTrail engine heap job) (machine.work engine heap job) := by
  cases job with
  | settle | adopt => exact answered_nil still _
  | resume suspension result =>
      simp only [Machine.work, Machine.workTrail, Machine.resume, Machine.resumeTrail]
      cases found : machine.suspended[suspension]? with
      | none => exact answered_nil still _
      | some waiting =>
          have quiet := still waiting (Array.mem_of_getElem? found)
          refine answered_steps engine.budget ⟨framesKeep_append_waiting quiet.loops, still⟩ ?_
          rw [Ends.any_above]
          exact quiet.behind _ _

theorem answered_drainAll (engine : Engine) (fuel : Nat) {machine : Machine}
    (still : machine.Resumes .quiet) (heap : Heap) :
    Answered engine (Machine.drainAllTrail engine fuel machine heap)
      (Machine.drainAll engine fuel machine heap) := by
  induction fuel generalizing machine heap with
  | zero => exact answered_of_exhausted still
  | succ fuel ih =>
      unfold Machine.drainAll Machine.drainAllTrail
      cases heap.jobs with
      | nil => exact answered_nil still _
      | cons job jobs =>
          have worked := answered_work engine still { heap with jobs := jobs } job
          dsimp only
          cases done : machine.work engine { heap with jobs := jobs } job with
          | mk left ending =>
              rw [done] at worked
              cases ending with
              | crashed => exact ⟨worked.1, fun _ _ impossible => by cases impossible⟩
              | exhausted => exact answered_of_exhausted worked.1
              | finished heap result =>
                  have same := worked.2 heap result rfl
                  cases result with
                  | error halt => exact answered_append same (answered_nil worked.1 _)
                  | ok flow => exact answered_append same (ih worked.1 heap)

end ScriptOracle.Script
