import ScriptOracle.Proofs.Sandbox.Abort
import ScriptOracle.Proofs.Script.Answers

/-!
# Runs that follow one another

A runner keeps its limits and its scratch directory from run to run and nothing that a script can see. What
earlier runs sent only matters through the transport: a runner of the same make that has never run before
reports the same, wherever its files are, if its transport treats the requests of the run alike.
-/

namespace ScriptOracle.Gate

/-- The transport as it is once requests have been handed to it. -/
def Transport.since (transport : Transport) (earlier : List Prepared) : Transport where
  send run request := transport.send (earlier ++ run) request
  interrupts run request := transport.interrupts (earlier ++ run) request

end ScriptOracle.Gate

namespace ScriptOracle.Sandbox

open Script
open Gate (LogEntry Prepared Transport)

/-! ## The answers decide a run -/

namespace Runner

variable {engine : Engine} {other : Transport} {machine : Machine} {heap : Heap}

theorem failed_machine (engine : Engine) (machine : Machine) (heap : Heap) (halt : Halt) :
    (failed engine machine heap halt).1 = (machine.complain engine heap halt).1 := by
  unfold failed
  cases machine.complain engine heap halt with
  | mk left told => cases told <;> rfl

theorem failed_congr {halt : Halt}
    (agree : engine.transport.AgreesOn other (failed engine machine heap halt).1.gate.sent) :
    failed (engine.over other) machine heap halt = failed engine machine heap halt := by
  rw [failed_machine] at agree
  rw [failed, failed, complain_congr agree]

theorem sent_grows_failed (engine : Engine) (machine : Machine) (heap : Heap) (halt : Halt) :
    machine.gate.sent <+: (failed engine machine heap halt).1.gate.sent :=
  sent_grows_of_gate (gate_failed machine heap halt)

theorem accept_congr {value : Value}
    (agree : engine.transport.AgreesOn other (accept engine machine heap value).1.gate.sent) :
    accept (engine.over other) machine heap value = accept engine machine heap value := by
  have same : machine.read (engine.over other) heap (Result.collect value) Result.ofValue =
      machine.read engine heap (Result.collect value) Result.ofValue := by
    apply read_congr
    refine agree.mono ?_
    unfold accept
    cases machine.read engine heap (Result.collect value) Result.ofValue with
    | mk left taken =>
        cases taken with
        | value | crashed | exhausted => exact List.prefix_rfl
        | halted heap' halt => exact sent_grows_failed engine left heap' halt
  unfold accept at agree ⊢
  rw [same]
  cases taken : machine.read engine heap (Result.collect value) Result.ofValue with
  | mk left taking =>
      cases taking with
      | value | crashed | exhausted => rfl
      | halted heap' halt =>
          rw [taken] at agree
          exact failed_congr agree

theorem settle_congr {value : Value}
    (agree : engine.transport.AgreesOn other (settle engine machine heap value).1.gate.sent) :
    settle (engine.over other) machine heap value = settle engine machine heap value := by
  unfold settle at agree ⊢
  cases found : heap.promiseState? value with
  | none =>
      rw [found] at agree
      exact accept_congr agree
  | some pair =>
      obtain ⟨promise, state⟩ := pair
      rw [found] at agree
      cases state with
      | fulfilled value => exact accept_congr agree
      | rejected reason => exact failed_congr agree
      | pending waiting => exact failed_congr agree

theorem sent_grows_settle (engine : Engine) (machine : Machine) (heap : Heap) (value : Value) :
    machine.gate.sent <+: (settle engine machine heap value).1.gate.sent :=
  sent_grows_of_gate (gate_settled machine heap value)

def finish (engine : Engine) (machine : Machine) (heap : Heap) (value : Value) : Run :=
  match machine.drain engine heap with
  | (machine, .finished heap _) => settle engine machine heap value
  | (machine, .crashed) => (machine, .crashed)
  | (machine, .exhausted) => (machine, .exhausted)

theorem sent_grows_drain_finish (engine : Engine) (machine : Machine) (heap : Heap) (value : Value) :
    (machine.drain engine heap).1.gate.sent <+: (finish engine machine heap value).1.gate.sent := by
  unfold finish
  cases machine.drain engine heap with
  | mk left ending =>
      cases ending with
      | crashed | exhausted => exact List.prefix_rfl
      | finished heap' result => exact sent_grows_settle engine left heap' value

theorem finish_congr {value : Value}
    (agree : engine.transport.AgreesOn other (finish engine machine heap value).1.gate.sent) :
    finish (engine.over other) machine heap value = finish engine machine heap value := by
  have same : machine.drain (engine.over other) heap = machine.drain engine heap :=
    drainAll_congr engine.budget (agree.mono (sent_grows_drain_finish engine machine heap value))
  unfold finish at agree ⊢
  rw [same]
  cases drained : machine.drain engine heap with
  | mk left ending =>
      cases ending with
      | crashed | exhausted => rfl
      | finished heap' result =>
          rw [drained] at agree
          exact settle_congr agree

theorem sent_grows_finish (engine : Engine) (machine : Machine) (heap : Heap) (value : Value) :
    machine.gate.sent <+: (finish engine machine heap value).1.gate.sent :=
  (sent_grows_drainAll engine engine.budget machine heap).trans
    (sent_grows_drain_finish engine machine heap value)

theorem carryOut_eq (engine : Engine) (machine : Machine) (heap : Heap) (program : Program) :
    carryOut engine machine heap program =
      match machine.run engine 1 ((Eval.program program).toAct heap) with
      | (machine, .finished heap (.ok flow)) => finish engine machine heap flow.lastValue
      | (machine, .finished heap (.error halt)) => failed engine machine heap halt
      | (machine, .crashed) => (machine, .crashed)
      | (machine, .exhausted) => (machine, .exhausted) := rfl

theorem carryOut_congr {program : Program}
    (agree : engine.transport.AgreesOn other (carryOut engine machine heap program).1.gate.sent) :
    carryOut (engine.over other) machine heap program = carryOut engine machine heap program := by
  have same : machine.run (engine.over other) 1 ((Eval.program program).toAct heap) =
      machine.run engine 1 ((Eval.program program).toAct heap) := by
    apply run_congr
    refine agree.mono ?_
    rw [carryOut_eq]
    cases machine.run engine 1 ((Eval.program program).toAct heap) with
    | mk left ending =>
        cases ending with
        | crashed | exhausted => exact List.prefix_rfl
        | finished heap' result =>
            cases result with
            | error halt => exact sent_grows_failed engine left heap' halt
            | ok flow => exact sent_grows_finish engine left heap' flow.lastValue
  rw [carryOut_eq] at agree
  rw [carryOut_eq, carryOut_eq, same]
  cases ran : machine.run engine 1 ((Eval.program program).toAct heap) with
  | mk left ending =>
      rw [ran] at agree
      cases ending with
      | crashed | exhausted => rfl
      | finished heap' result =>
          cases result with
          | error halt => exact failed_congr agree
          | ok flow => exact finish_congr agree

/-- What two runners have in common if they were set up alike. Their directories and what has come of
them so far may differ. -/
structure Alike (first second : Runner) : Prop where
  gateLimits : second.gateLimits = first.gateLimits
  scriptLimits : second.scriptLimits = first.scriptLimits
  logging : second.logging = first.logging

theorem Alike.rfl {runner : Runner} : runner.Alike runner := by constructor <;> rfl

theorem Alike.symm {first second : Runner} (alike : first.Alike second) : second.Alike first :=
  ⟨alike.gateLimits.symm, alike.scriptLimits.symm, alike.logging.symm⟩

theorem Alike.trans {first second third : Runner} (one : first.Alike second)
    (two : second.Alike third) : first.Alike third :=
  ⟨two.gateLimits.trans one.gateLimits, two.scriptLimits.trans one.scriptLimits,
    two.logging.trans one.logging⟩

variable {runner fresh : Runner} {host : Host} {request : Request}

theorem attempt_congr (alike : runner.Alike fresh)
    (agree : host.transport.AgreesOn other (runner.attempt host request).2.1.gate.sent) :
    fresh.attempt { host with transport := other } request = runner.attempt host request := by
  unfold attempt perform bindings at agree ⊢
  rw [alike.gateLimits, alike.scriptLimits, alike.logging]
  by_cases aborted : host.hasAborted
  · simp only [aborted, ↓reduceIte]
  · simp only [aborted, Bool.false_eq_true, ↓reduceIte] at agree ⊢
    cases read : Program.ofText (wrapped request.source) with
    | error fault => rfl
    | ok program =>
        rw [read] at agree
        exact congrArg (Prod.mk [RunState.running]) (carryOut_congr agree)

/-- The directory and the files have no part in what is reported. -/
theorem report_congr (alike : runner.Alike fresh) (disk : Disk)
    (agree : host.transport.AgreesOn other (runner.evaluate host disk request).1.sent)
    (files : Disk) :
    (fresh.evaluate { host with transport := other } files request).1 =
      (runner.evaluate host disk request).1 := by
  have same := attempt_congr alike agree
  unfold evaluate
  rw [same]

theorem alike_evaluate (runner : Runner) (host : Host) (disk : Disk) (request : Request) :
    runner.Alike (runner.evaluate host disk request).2.1 := by
  constructor <;> rfl

/-! ## What a run goes through -/

end Runner

/-- A run whose text was found to be no program. -/
def Verdict.isUnread : Verdict -> Bool
  | .failed (.compile _) => true
  | _ => false

namespace Runner

variable {engine : Engine}

theorem isUnread_failed (machine : Machine) (heap : Heap) (halt : Halt) :
    (failed engine machine heap halt).2.isUnread = false := by
  unfold failed
  cases machine.complain engine heap halt with
  | mk left told => cases told <;> rfl

theorem isUnread_accept (machine : Machine) (heap : Heap) (value : Value) :
    (accept engine machine heap value).2.isUnread = false := by
  unfold accept
  cases machine.read engine heap (Result.collect value) Result.ofValue with
  | mk left taken =>
      cases taken with
      | value | crashed | exhausted => rfl
      | halted heap' halt => exact isUnread_failed left heap' halt

theorem isUnread_settle (machine : Machine) (heap : Heap) (value : Value) :
    (settle engine machine heap value).2.isUnread = false := by
  unfold settle
  cases heap.promiseState? value with
  | none => exact isUnread_accept machine heap value
  | some found =>
      obtain ⟨promise, state⟩ := found
      cases state with
      | fulfilled value => exact isUnread_accept machine heap value
      | rejected reason => exact isUnread_failed machine heap (.thrown reason)
      | pending waiting => exact isUnread_failed machine _ (.thrown _)

theorem isUnread_finish (machine : Machine) (heap : Heap) (value : Value) :
    (finish engine machine heap value).2.isUnread = false := by
  unfold finish
  cases machine.drain engine heap with
  | mk left ending =>
      cases ending with
      | crashed | exhausted => rfl
      | finished heap' result => exact isUnread_settle left heap' value

theorem isUnread_carryOut (machine : Machine) (heap : Heap) (program : Program) :
    (carryOut engine machine heap program).2.isUnread = false := by
  rw [carryOut_eq]
  cases machine.run engine 1 ((Eval.program program).toAct heap) with
  | mk left ending =>
      cases ending with
      | crashed | exhausted => rfl
      | finished heap' result =>
          cases result with
          | error halt => exact isUnread_failed left heap' halt
          | ok flow => exact isUnread_finish left heap' flow.lastValue

/-- How a run can go. It fails before its script starts and has sent nothing, or its text was read and it
passes through the running state. -/
inductive Course (run : List RunState × Run) : Prop where
  | stopped (states : run.1 = []) (fails : run.2.2.isSuccess = false)
      (silent : run.2.1.gate.sent = [])
  | ran (states : run.1 = [.running]) (read : run.2.2.isUnread = false)

theorem course_attempt (runner : Runner) (host : Host) (request : Request) :
    Course (runner.attempt host request) := by
  unfold attempt perform
  by_cases aborted : host.hasAborted
  · simp only [aborted, ↓reduceIte]
    exact .stopped rfl rfl rfl
  · simp only [aborted, Bool.false_eq_true, ↓reduceIte]
    cases Program.ofText (wrapped request.source) with
    | error fault => exact .stopped rfl rfl rfl
    | ok program => exact .ran rfl (isUnread_carryOut _ _ program)

/-- A runner that is set up like another one and has not run yet. -/
def anew (runner : Runner) (scratch : Scratch) : Runner :=
  { Runner.start scratch with
    gateLimits := runner.gateLimits
    scriptLimits := runner.scriptLimits
    logging := runner.logging }

theorem alike_anew (runner : Runner) (scratch : Scratch) : runner.Alike (runner.anew scratch) := by
  constructor <;> rfl

end Runner

/-! ## Runs that follow one another -/

/-- A run that is wanted of a runner. -/
structure Turn where
  request : Request
  /-- Whether the host has given up before the run starts. -/
  hasAborted : Bool
  /-- Whether the host gives up before the next request, given what was attempted. -/
  abandons : List LogEntry -> Bool
  /-- What others do to the files before the run. -/
  tamper : Disk -> Disk

def Turn.host (turn : Turn) (transport : Transport) : Host :=
  ⟨transport, turn.hasAborted, turn.abandons⟩

/-- A runner with the files around it and the requests of all its runs. -/
structure Bench where
  runner : Runner
  disk : Disk
  sent : List Prepared

namespace Bench

/-- One run. The transport has seen the requests of the runs before it. -/
def take (transport : Transport) (bench : Bench) (turn : Turn) : Report × Bench :=
  let (report, runner, disk) := bench.runner.evaluate (turn.host (transport.since bench.sent))
    (turn.tamper bench.disk) turn.request
  (report, ⟨runner, disk, bench.sent ++ report.sent⟩)

def after (transport : Transport) (bench : Bench) : List Turn -> Bench
  | [] => bench
  | turn :: turns => after transport (bench.take transport turn).2 turns

variable {transport : Transport} {bench : Bench}

theorem alike_take (turn : Turn) : bench.runner.Alike (bench.take transport turn).2.runner :=
  Runner.alike_evaluate _ _ (turn.tamper bench.disk) _

theorem alike_after (turns : List Turn) :
    bench.runner.Alike (bench.after transport turns).runner := by
  induction turns generalizing bench with
  | nil => exact .rfl
  | cons turn turns ih => exact (alike_take turn).trans ih

end Bench

def ways : List (List RunState) :=
  [[.preparing, .failed, .idle],
    [.preparing, .running, .failed, .idle],
    [.preparing, .running, .succeeded, .idle]]

/-- A run that returns, with a result or an error, goes one of the ways. -/
theorem Runner.Course.mem_ways {run : List RunState × Runner.Run} (course : Course run)
    (returns : run.2.2.outcome?.isSome) :
    .preparing :: run.1 ++ run.2.2.lastStates ∈ ways := by
  obtain ⟨states, machine, verdict⟩ := run
  cases verdict with
  | crashed | exhausted => cases returns
  | succeeded result log =>
      cases course with
      | stopped _ fails _ => cases fails
      | ran passed _ =>
          obtain rfl : states = [.running] := passed
          exact .tail _ (.tail _ (.head _))
  | failed fault =>
      cases course with
      | stopped passed _ _ =>
          obtain rfl : states = [] := passed
          exact .head _
      | ran passed _ =>
          obtain rfl : states = [.running] := passed
          exact .tail _ (.head _)

/-- Whatever came before, a run goes as it would go on a runner that has never run before and whose
transport treats the requests of the run alike. Once a run has returned, with a result or an error, the
runner is idle and knows which it was. -/
theorem isolated (transport : Transport) (runner : Runner) (disk : Disk) (earlier : List Turn)
    (turn : Turn) :
    let bench := Bench.after transport ⟨runner, disk, []⟩ earlier
    let report := (bench.take transport turn).1
    let left := (bench.take transport turn).2.runner
    (∀ (other : Transport) (scratch : Scratch) (files : Disk),
      (transport.since bench.sent).AgreesOn other report.sent →
        ((runner.anew scratch).evaluate (turn.host other) files turn.request).1 = report) ∧
    (∀ complaint, report.verdict = .failed (.compile complaint) → report.sent = []) ∧
    (turn.hasAborted = true → report.verdict = .failed .abandoned ∧ report.sent = []) ∧
    ((∃ result log, report.verdict = .succeeded result log) ∨
        (∃ fault, report.verdict = .failed fault) →
      left.state = .idle ∧
      (left.lastOutcome = some .succeeded ↔ ∃ result log, report.verdict = .succeeded result log) ∧
      (left.lastOutcome = some .succeeded ∨ left.lastOutcome = some .failed) ∧
      report.states ∈ ways) := by
  intro bench report left
  let host := turn.host (transport.since bench.sent)
  have course := Runner.course_attempt bench.runner host turn.request
  refine ⟨?same, ?unread, ?abandoned, ?returned⟩
  case same =>
    intro other scratch files agree
    have alike : bench.runner.Alike (runner.anew scratch) :=
      (Bench.alike_after earlier).symm.trans (runner.alike_anew scratch)
    exact Runner.report_congr alike (turn.tamper bench.disk) agree files
  case unread =>
    intro complaint verdict
    cases course with
    | stopped _ _ silent => exact silent
    | ran _ read =>
        have unread : report.verdict.isUnread = true := by rw [verdict]; rfl
        exact absurd (read.symm.trans unread) Bool.noConfusion
  case abandoned =>
    intro aborted
    have nothing := abandoned_of_hasAborted (show host.hasAborted = true from aborted)
      bench.runner (turn.tamper bench.disk) turn.request
    exact ⟨nothing.verdict, nothing.sent⟩
  case returned =>
    intro returns
    have told : report.verdict.outcome?.isSome := by
      rcases returns with ⟨result, log, verdict⟩ | ⟨fault, verdict⟩ <;> rw [verdict] <;> rfl
    have way : report.states ∈ ways := course.mem_ways told
    have idle : left.state = .idle := (by decide : ∀ way ∈ ways, way.getLastD .idle = .idle) _ way
    have outcome : left.lastOutcome = report.verdict.outcome?.or bench.runner.lastOutcome := rfl
    rcases returns with ⟨result, log, verdict⟩ | ⟨fault, verdict⟩ <;>
      rw [verdict] at outcome ⊢
    · exact ⟨idle, ⟨fun _ => ⟨result, log, rfl⟩, fun _ => outcome⟩, .inl outcome, way⟩
    · refine ⟨idle, ⟨fun success => ?_, nofun⟩, .inr outcome, way⟩
      rw [outcome] at success
      cases success

/-- A transport that answers with the number of the request. -/
def numbering : Transport where
  send earlier _ := .ok (.ofJson (200 + earlier.length) (.object []))
  interrupts _ _ := false

def Turn.ofScript (source : String) (hasAborted : Bool) : Turn :=
  ⟨⟨source, [], none, 1⟩, hasAborted, fun _ => false, id⟩

/-- A script that sends a request and prints the status of the answer. -/
def printStatus : String :=
  "const answer = await Functions.makeHttpRequest(\x7b url: 'https://a.b/' \x7d);" ++
    " console.log(answer.status);"

def talkative : Runner := { Runner.start ⟨["scratch"], true⟩ with logging := true }

/-- A run that sends a request, one that is abandoned, and one that throws after its request. -/
def mixedTurns : List Turn :=
  [.ofScript printStatus false, .ofScript printStatus true,
    .ofScript (printStatus ++ " throw 'enough';") false]

/-- A transport that expects two requests to have been sent before, and knows nothing of what follows. -/
def thirdOnly : Transport where
  send _ _ := .ok (.ofJson 202 (.object []))
  interrupts earlier _ := !earlier.isEmpty

/-- It is right about a run that sends one request after two others. -/
theorem agreesOn_thirdOnly {earlier sent : List Prepared} (two : earlier.length = 2)
    (sole : sent.length = 1) : (numbering.since earlier).AgreesOn thirdOnly sent := by
  intro before request handed
  have short := handed.length_le
  rw [List.length_append, List.length_singleton, sole] at short
  obtain rfl : before = [] := List.eq_nil_of_length_eq_zero (by omega)
  refine ⟨?_, rfl⟩
  simp only [thirdOnly, numbering, Transport.since, List.append_nil, two]

theorem Verdict.exists_of_isSuccess {verdict : Verdict} (success : verdict.isSuccess) :
    ∃ result log, verdict = .succeeded result log := by
  cases verdict with
  | succeeded result log => exact ⟨result, log, rfl⟩
  | failed | crashed | exhausted => cases success

/-- The next run prints what it would print over a transport that knows nothing of the two requests that
were sent before. -/
theorem isolated_third_request :
    let bench := Bench.after numbering ⟨talkative, .blank, []⟩ mixedTurns
    let report := (bench.take numbering (.ofScript printStatus false)).1
    let left := (bench.take numbering (.ofScript printStatus false)).2.runner
    bench.sent.length = 2 ∧ report.lines = ["202"] ∧
      left.state = .idle ∧ left.lastOutcome = some .succeeded ∧ report.states ∈ ways ∧
      (numbering.since bench.sent).AgreesOn thirdOnly report.sent ∧
      ((talkative.anew ⟨["elsewhere"], false⟩).evaluate
        ((Turn.ofScript printStatus false).host thirdOnly) .blank
        (Turn.ofScript printStatus false).request).1 = report := by
  have ran : (Bench.after numbering ⟨talkative, .blank, []⟩ mixedTurns).sent.length = 2 ∧
      ((Bench.after numbering ⟨talkative, .blank, []⟩ mixedTurns).take numbering
        (.ofScript printStatus false)).1.sent.length = 1 ∧
      ((Bench.after numbering ⟨talkative, .blank, []⟩ mixedTurns).take numbering
        (.ofScript printStatus false)).1.lines = ["202"] ∧
      ((Bench.after numbering ⟨talkative, .blank, []⟩ mixedTurns).take numbering
        (.ofScript printStatus false)).1.verdict.isSuccess := by decide +kernel
  obtain ⟨two, sole, printed, success⟩ := ran
  have transfer := isolated numbering talkative .blank mixedTurns (.ofScript printStatus false)
  dsimp only at transfer ⊢
  obtain ⟨same, -, -, returned⟩ := transfer
  have accepted := Verdict.exists_of_isSuccess success
  obtain ⟨idle, outcome, -, way⟩ := returned (.inl accepted)
  have agree := agreesOn_thirdOnly two sole
  exact ⟨two, printed, idle, outcome.2 accepted, way, agree,
    same thirdOnly ⟨["elsewhere"], false⟩ .blank agree⟩

/-- A script can name what it throws as the host names a run that it gave up on, and has a request sent
before that. Of two runners with the same limits the one that shows the console asks an object that is
printed for its text, which may send a request too. And a run that breaks the host down leaves the runner
in the midst of it. -/
theorem aborted_name_forged :
    let runner := Runner.start ⟨["scratch"], true⟩
    let run (runner : Runner) (source : String) :=
      runner.evaluate (.patient numbering) .blank (Turn.ofScript source false).request
    let forged := (run runner
      "Functions.makeHttpRequest(\x7b url: 'https://a.b/' \x7d); throw \x7b name: 'AbortedError' \x7d;").1
    let shown := "function f() \x7b Functions.makeHttpRequest(\x7b url: 'https://a.b/' \x7d); return 'x'; \x7d"
      ++ " console.log(\x7b a: 1n, toString: f \x7d);"
    let broken := run runner "return [undefined];"
    ((forged.verdict.fault?.map fun fault => (fault.kind, fault.complaint.name)) =
        some ("RuntimeError", "AbortedError") ∧
      forged.sent.map (·.url) = ["https://a.b/"]) ∧
    ((run runner shown).1.sent.map (·.url) = [] ∧
      (run { runner with logging := true } shown).1.sent.map (·.url) = ["https://a.b/"]) ∧
    broken.1.states = [.preparing, .running] ∧ broken.2.1.state = .running ∧
      broken.2.1.lastOutcome = none := by
  decide +kernel

end ScriptOracle.Sandbox
