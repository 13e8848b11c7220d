import ScriptOracle.Proofs.Gate.Accounts
import ScriptOracle.Proofs.Script.Requests
import ScriptOracle.Sandbox.Runner

/-!
# The audit of a run

The report on a run carries the log of the gate. It is taken when the run has ended, and a script that
throws is heard once more after that: the host asks the thrown value for its name, its message and its
stack, and the script may answer by getters and functions of its own. The log is complete unless these
make requests; what they request is sent and counted all the same.
-/

namespace ScriptOracle.Sandbox

open Script
open Gate (Ask LogEntry)

def Verdict.log? : Verdict -> Option (List LogEntry)
  | .succeeded _ log => some log
  | .failed fault => fault.log?
  | _ => none

/-- The acts of a run: those until it ended, and those of a thrown value that tells about itself. -/
structure Transcript where
  body : List Config
  telling : List Config

def Transcript.behind (transcript : Transcript) (trail : List Config) : Transcript :=
  ⟨trail ++ transcript.body, transcript.telling⟩

namespace Runner

def failedTranscript (engine : Engine) (machine : Machine) (heap : Heap) (halt : Halt) :
    Transcript :=
  ⟨[], machine.complainTrail engine heap halt⟩

def acceptTranscript (engine : Engine) (machine : Machine) (heap : Heap) (value : Value) :
    Transcript :=
  let trail := machine.performTrail engine heap (Result.collect value)
  match machine.read engine heap (Result.collect value) Result.ofValue with
  | (machine, .halted heap halt) => (failedTranscript engine machine heap halt).behind trail
  | _ => ⟨trail, []⟩

def settleTranscript (engine : Engine) (machine : Machine) (heap : Heap) (value : Value) :
    Transcript :=
  match heap.promiseState? value with
  | none => acceptTranscript engine machine heap value
  | some (_, .fulfilled value) => acceptTranscript engine machine heap value
  | some (_, .rejected reason) => failedTranscript engine machine heap (.thrown reason)
  | some (_, .pending _) =>
    let (heap, error) := heap.allocError .error "script did not settle"
    failedTranscript engine machine heap (.thrown error)

def carryOutTranscript (engine : Engine) (machine : Machine) (heap : Heap) (program : Program) :
    Transcript :=
  let trail := machine.runTrail engine 1 ((Eval.program program).toAct heap)
  match machine.run engine 1 ((Eval.program program).toAct heap) with
  | (machine, .finished heap (.ok flow)) =>
    let jobs := machine.drainTrail engine heap
    match machine.drain engine heap with
    | (machine, .finished heap _) =>
      (settleTranscript engine machine heap flow.lastValue).behind (trail ++ jobs)
    | _ => ⟨trail ++ jobs, []⟩
  | (machine, .finished heap (.error halt)) =>
    (failedTranscript engine machine heap halt).behind trail
  | _ => ⟨trail, []⟩

/-- The acts of `attempt`. The transcripts above are those of its parts, by their names. -/
def transcript (runner : Runner) (host : Host) (request : Request) : Transcript :=
  if host.hasAborted then ⟨[], []⟩
  else
    match Program.ofText (wrapped request.source) with
    | .error _ => ⟨[], []⟩
    | .ok program =>
      carryOutTranscript (engine runner.scriptLimits host)
        (Machine.start (.fresh request.quota runner.gateLimits))
        (Capability.install Heap.start (runner.bindings request)) program

end Runner

/-! ## The gate and the log -/

/-- What is known of a run that started with a gate and comes with a log: all requests were put to the
gate, and the log is that of the gate when the body of the run was over. Only a failure is told of. -/
structure Audited (engine : Engine) (gate : Gate) (transcript : Transcript) (run : Runner.Run)
    (log : List LogEntry) : Prop where
  body : asks transcript.body = requests engine transcript.body
  telling : asks transcript.telling = requests engine transcript.telling
  silent : run.2.isSuccess -> transcript.telling = []
  log_eq : log = (gate.after engine.transport (trailEvents engine transcript.body)).log
  gate_eq : run.1.gate = (gate.after engine.transport (trailEvents engine transcript.body)).after
    engine.transport (trailEvents engine transcript.telling)

variable {engine : Engine} {gate : Gate} {machine : Machine} {transcript : Transcript}
  {run : Runner.Run} {log : List LogEntry}

/-- A run and all that came before it. -/
theorem Audited.behind (audited : Audited engine gate transcript run log) {start : Gate}
    {trail : List Config} (answered : asks trail = requests engine trail)
    (before : gate = start.after engine.transport (trailEvents engine trail)) :
    Audited engine start (transcript.behind trail) run log := by
  have joined : start.after engine.transport (trailEvents engine (trail ++ transcript.body)) =
      gate.after engine.transport (trailEvents engine transcript.body) := by
    rw [trailEvents_append, Gate.after_append, before]
  constructor
  · rw [Transcript.behind, asks_append, requests_append, answered, audited.body]
  · exact audited.telling
  · exact audited.silent
  · rw [Transcript.behind, joined]
    exact audited.log_eq
  · rw [Transcript.behind, joined]
    exact audited.gate_eq

/-- A run that ends with its body. -/
theorem audited_of_body {trail : List Config} (answered : asks trail = requests engine trail)
    (ended : run.1.gate = gate.after engine.transport (trailEvents engine trail)) :
    Audited engine gate ⟨trail, []⟩ run run.1.gate.log :=
  ⟨answered, rfl, fun _ => rfl, by rw [ended], ended⟩

namespace Runner

theorem audited_failed (still : machine.Resumes .quiet) (heap : Heap) (halt : Halt) :
    ∀ log ∈ (failed engine machine heap halt).2.log?,
      Audited engine machine.gate (failedTranscript engine machine heap halt)
        (failed engine machine heap halt) log := by
  intro log found
  cases halt with
  | limit limit =>
      cases found
      exact audited_of_body rfl rfl
  | thrown value =>
      have answered := answered_perform engine still heap (Complaint.sure_collect value).keeps
      have gate := gate_perform engine machine heap (Complaint.collect value)
      simp only [failed, Machine.complain, Machine.read] at found ⊢
      cases told : machine.perform engine heap (Complaint.collect value) with
      | mk left ending =>
          rw [told] at answered gate
          simp only [told] at found ⊢
          cases ending with
          | crashed => cases found
          | exhausted => cases found
          | finished heap' result =>
              cases result with
              | error halt => cases found
              | ok flow =>
                  cases found
                  exact ⟨rfl, answered.2 heap' (.ok flow) rfl, (fun impossible => nomatch impossible),
                    rfl, gate⟩

theorem audited_accept (still : machine.Resumes .quiet) (heap : Heap) (value : Value) :
    ∀ log ∈ (accept engine machine heap value).2.log?,
      Audited engine machine.gate (acceptTranscript engine machine heap value)
        (accept engine machine heap value) log := by
  intro log found
  have answered := answered_perform engine still heap (Result.keeps_collect value trivial)
  have gate := gate_perform engine machine heap (Result.collect value)
  simp only [accept, acceptTranscript, Machine.read] at found ⊢
  cases taken : machine.perform engine heap (Result.collect value) with
  | mk left ending =>
      rw [taken] at answered gate
      simp only [taken] at found ⊢
      cases ending with
      | crashed => cases found
      | exhausted => cases found
      | finished heap' result =>
          have same := answered.2 heap' result rfl
          cases result with
          | error halt => exact (audited_failed answered.1 heap' halt log found).behind same gate
          | ok flow =>
              cases found
              exact audited_of_body same gate

theorem audited_settle (still : machine.Resumes .quiet) (heap : Heap) (value : Value) :
    ∀ log ∈ (settle engine machine heap value).2.log?,
      Audited engine machine.gate (settleTranscript engine machine heap value)
        (settle engine machine heap value) log := by
  unfold settle settleTranscript
  cases heap.promiseState? value with
  | none => exact audited_accept still heap value
  | some found =>
      obtain ⟨promise, state⟩ := found
      cases state with
      | fulfilled value => exact audited_accept still heap value
      | rejected reason => exact audited_failed still heap (.thrown reason)
      | pending waiting => exact audited_failed still _ (.thrown _)

theorem audited_carryOut (still : machine.Resumes .quiet) (heap : Heap) (program : Program) :
    ∀ log ∈ (carryOut engine machine heap program).2.log?,
      Audited engine machine.gate (carryOutTranscript engine machine heap program)
        (carryOut engine machine heap program) log := by
  intro log found
  have answered := answered_run engine still 1 (Task.keeps_toAct (Eval.keeps_program program) heap)
  have gate := gate_run engine machine 1 ((Eval.program program).toAct heap)
  simp only [carryOut, carryOutTranscript] at found ⊢
  cases ran : machine.run engine 1 ((Eval.program program).toAct heap) with
  | mk left ending =>
      rw [ran] at answered gate
      simp only [ran] at found ⊢
      cases ending with
      | crashed => cases found
      | exhausted => cases found
      | finished heap' result =>
          have same := answered.2 heap' result rfl
          cases result with
          | error halt => exact (audited_failed answered.1 heap' halt log found).behind same gate
          | ok flow =>
              have drained := answered_drainAll engine engine.budget answered.1 heap'
              have drainedGate := gate_drainAll engine engine.budget left heap'
              simp only [Machine.drain, Machine.drainTrail] at found ⊢
              cases jobs : Machine.drainAll engine engine.budget left heap' with
              | mk last ending =>
                  rw [jobs] at drained drainedGate
                  simp only [jobs] at found ⊢
                  cases ending with
                  | crashed => cases found
                  | exhausted => cases found
                  | finished heap'' result =>
                      have rest := drained.2 heap'' result rfl
                      have settled := audited_settle drained.1 heap'' flow.lastValue log found
                      refine settled.behind ?_ ?_
                      · rw [asks_append, requests_append, same, rest]
                      · rw [trailEvents_append, Gate.after_append, ← gate]
                        exact drainedGate

/-- What is known of every run that comes with a log. -/
theorem audited_attempt (runner : Runner) (host : Host) (request : Request) :
    ∀ log ∈ (runner.attempt host request).2.2.log?,
      Audited (Runner.engine runner.scriptLimits host) (.fresh request.quota runner.gateLimits)
        (runner.transcript host request) (runner.attempt host request).2 log := by
  intro log found
  unfold attempt perform transcript at *
  by_cases aborted : host.hasAborted
  · simp only [aborted, ↓reduceIte] at found ⊢
    cases found
    exact audited_of_body rfl rfl
  · simp only [aborted, Bool.false_eq_true, ↓reduceIte] at found ⊢
    cases read : Program.ofText (wrapped request.source) with
    | error fault =>
        simp only [read] at found
        cases found
    | ok program =>
        simp only [read] at found ⊢
        exact audited_carryOut (resumes_start _) _ program log found

end Runner

/-! ## Completeness -/

theorem asks_eq_events (trail : List Config) :
    asks trail = (trailEvents engine trail).filterMap Gate.Event.ask? := by
  induction trail with
  | nil => rfl
  | cons config trail ih =>
      rw [asks_cons, trailEvents_cons, List.filterMap_append, ← ih, Config.events]
      cases config.act.asked? with
      | none => rfl
      | some ask =>
          dsimp only
          split <;> rfl

/-- The log of the gate is complete, and the log of the run is the part of it that tells of the body. -/
theorem Audited.complete {quota : Nat} {limits : Gate.Limits}
    (audited : Audited engine (.fresh quota limits) transcript run log) :
    ∃ missing, run.1.gate.log = log ++ missing ∧
      missing.length = (requests engine transcript.telling).length ∧
      Gate.Complete limits
        (requests engine transcript.body ++ requests engine transcript.telling)
        (log ++ missing) run.1.gate.sent := by
  have whole := Gate.complete_after engine.transport quota limits
    (trailEvents engine transcript.body ++ trailEvents engine transcript.telling)
  have part := Gate.complete_after engine.transport quota limits
    (trailEvents engine transcript.body)
  rw [Gate.after_append, ← audited.gate_eq, List.filterMap_append, ← asks_eq_events,
    ← asks_eq_events, audited.body, audited.telling] at whole
  rw [← audited.log_eq, ← asks_eq_events, audited.body] at part
  have grown := Gate.log_after engine.transport
    ((Gate.fresh quota limits).after engine.transport (trailEvents engine transcript.body))
    (trailEvents engine transcript.telling)
  rw [← audited.gate_eq, ← audited.log_eq] at grown
  refine ⟨_, grown, ?_, grown ▸ whole⟩
  have all := congrArg List.length whole.entries
  have told := congrArg List.length part.entries
  simp only [grown, List.length_map, List.length_append] at all told ⊢
  omega

/-- The log of a run that succeeds is complete. The log of a run that fails is complete exactly when the
thrown value makes no request as it tells about itself; otherwise just these requests are missing. -/
theorem log_complete_iff (runner : Runner) (host : Host) (disk : Disk) (request : Request) :
    let report := (runner.evaluate host disk request).1
    let transcript := runner.transcript host request
    let engine := Runner.engine runner.scriptLimits host
    let made := requests engine transcript.body
    let told := requests engine transcript.telling
    (∀ result log, report.verdict = .succeeded result log ->
      Gate.Complete runner.gateLimits (made ++ told) log report.sent) ∧
    (∀ complaint log, report.verdict = .failed (.runtime complaint log) ->
      (Gate.Complete runner.gateLimits (made ++ told) log report.sent ↔ told = []) ∧
      ∃ missing, missing.length = told.length ∧
        Gate.Complete runner.gateLimits (made ++ told) (log ++ missing) report.sent) := by
  intro report transcript engine made told
  have audited := Runner.audited_attempt runner host request
  have whole : ∀ log ∈ report.verdict.log?, ∃ missing, missing.length = told.length ∧
      Gate.Complete runner.gateLimits (made ++ told) (log ++ missing) report.sent := by
    intro log found
    obtain ⟨missing, _, length, complete⟩ := (audited log found).complete
    exact ⟨missing, length, complete⟩
  constructor
  · intro result log verdict
    have found : log ∈ report.verdict.log? := by
      rw [verdict]
      rfl
    have silent : told = [] := by
      have success : report.verdict.isSuccess := by
        rw [verdict]
        rfl
      exact congrArg (requests engine) ((audited log found).silent success)
    obtain ⟨missing, length, complete⟩ := whole log found
    rw [silent] at length
    rwa [List.eq_nil_of_length_eq_zero length, List.append_nil] at complete
  · intro complaint log verdict
    have found : log ∈ report.verdict.log? := by
      rw [verdict]
      rfl
    obtain ⟨missing, length, complete⟩ := whole log found
    -- A log that is complete without the missing entries is as long as with them.
    refine ⟨⟨fun claimed => ?_, fun silent => ?_⟩, missing, length, complete⟩
    · have all := congrArg List.length complete.entries
      have part := congrArg List.length claimed.entries
      simp only [List.length_map, List.length_append] at all part
      have empty : told.length = 0 := by omega
      exact List.eq_nil_of_length_eq_zero empty
    · rw [silent] at length
      rwa [List.eq_nil_of_length_eq_zero length, List.append_nil] at complete

/-- A script that throws an object whose name makes a request when it is asked for. -/
def tellingRequest : Request where
  source := "function f() \x7b Functions.makeHttpRequest(\x7b url: 'https://a.b/' \x7d); return 'X'; \x7d "
    ++ "throw \x7b name: \x7b toString: f \x7d \x7d;"
  args := []
  secrets := none
  quota := 1

/-- The log of this run is empty, though a request was sent: whatever was made, it is incomplete. -/
theorem log_incomplete :
    let runner := Runner.start ⟨["scratch"], true⟩
    let host := Host.patient (.fixed (.ok (.ofJson 200 (.object []))) [])
    let report := (runner.evaluate host .blank tellingRequest).1
    report.verdict.log? = some [] ∧ report.sent.map (·.url) = ["https://a.b/"] ∧
      ∀ made, ¬ Gate.Complete runner.gateLimits made [] report.sent := by
  intro runner host report
  have ran : report.verdict.log? = some [] ∧ report.sent.map (·.url) = ["https://a.b/"] := by
    decide +kernel
  refine ⟨ran.1, ran.2, fun made complete => ?_⟩
  have none := congrArg List.length complete.handed
  have one := congrArg List.length ran.2
  rw [List.zip_nil_right, List.length_map] at none
  rw [List.length_map] at one
  rw [one] at none
  exact absurd none (by decide)

end ScriptOracle.Sandbox
