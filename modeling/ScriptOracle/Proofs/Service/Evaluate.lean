import Mathlib.Tactic.SplitIfs
import ScriptOracle.Proofs.Except
import ScriptOracle.Proofs.Sandbox.Course
import ScriptOracle.Proofs.Sandbox.Grammar
import ScriptOracle.Proofs.Sandbox.Isolation
import ScriptOracle.Proofs.Sandbox.Response
import ScriptOracle.Proofs.Service.Inquiry

/-!
# What comes of a submission

A submission that is not in order is answered at once and changes nothing. Any other is run, and as long as
the service does not stop waiting, it runs as it would with nobody watching. The answer tells how the run
ended: by its bytes, by what is wrong with its result, or by its failure, and each time with the log of the
run, if it has one.
-/

namespace ScriptOracle

def Sandbox.Verdict.bytes? : Sandbox.Verdict -> Option Bytes
  | .succeeded (.bytes bytes) _ => some bytes
  | _ => none

namespace Service

open Sandbox (Submission Verdict Report)

/-! ## Submissions at the door -/

/-- A data value is submitted to be run: announced as one, not too long, and read as such. -/
structure Inquiry.Submits (inquiry : Inquiry) (body : Json) : Prop where
  method : inquiry.method = "POST"
  path : inquiry.path = "/v1/evaluate"
  announced : ∃ type media, inquiry.contentType = some type ∧ isReadable type = true ∧
    type.startsWith "application/json" = true ∧ MediaType.read? type = some media ∧
    media.isJson = true
  size : inquiry.body.length ≤ maxBodyBytes
  read : Json.readFirst inquiry.body = .ok body

variable {around : Surroundings} {state : State} {inquiry : Inquiry} {body : Json}
  {submission : Submission}

theorem Inquiry.Submits.posts (submits : inquiry.Submits body) :
    inquiry.Posts "/v1/evaluate" body :=
  { submits with }

theorem Inquiry.Submits.respond_of_error (submits : inquiry.Submits body) {fault : Sandbox.InputFault}
    (failed : Submission.read state.settings.defaults body = .error fault) :
    respond around state inquiry =
      (.ofProblem ⟨400, "invalid_input", fault.message, none, none, none⟩, state) := by
  rw [submits.posts.respond_evaluate, evaluate, failed]
  rfl

theorem Inquiry.Submits.respond_of_ok (submits : inquiry.Submits body)
    (done : Submission.read state.settings.defaults body = .ok submission) :
    respond around state inquiry = run around state submission := by
  rw [submits.posts.respond_evaluate, evaluate, done]

/-! ## Submissions that are in order -/

def markText : Json -> String
  | .string text => text
  | mark => mark.compact

theorem eq_markText_of_marks {value : Json} {mark : Option String} (marks : Submission.Marks value mark) :
    mark = some (markText value) := by
  cases marks <;> rfl

theorem requestId_of_read {defaults : Sandbox.Defaults}
    (done : Submission.read defaults body = .ok submission) :
    submission.requestId = (body.given? "requestId").map markText := by
  have marked := ((Submission.read_eq_ok_iff defaults body submission).1 done).requestId
  cases given : body.given? "requestId" with
  | none => exact (Json.gives_of_none given).1 marked
  | some value => exact eq_markText_of_marks ((Json.gives_of_some given).1 marked)

/-! ## Runs in time -/

namespace State

def report (state : State) (around : Surroundings) (submission : Submission) : Report :=
  (state.runner.evaluate (.patient around.transport) state.disk submission.request).1

/-- When its run is over. It waits until the directory is free, and each request takes its time. -/
def finish (state : State) (around : Surroundings) (submission : Submission) : Nat :=
  max state.now state.free + (state.report around submission).sent.length * around.paceMs

/-- Whether the run is over before the watchdog and before the service stops waiting. -/
def IsInTime (state : State) (around : Surroundings) (submission : Submission) : Prop :=
  state.finish around submission ≤ state.now + min state.settings.timeoutMs patienceMs

end State

/-- A host that would give up behind a deadline treats the requests of a run that is over before it as any
other host. -/
theorem agreesOn_hostUntil {start : Nat} {deadline : Option Nat} {sent : List Gate.Prepared}
    (inTime : ∀ limit ∈ deadline, start + sent.length * around.paceMs ≤ limit) :
    around.transport.AgreesOn (hostUntil around start deadline).transport sent := by
  intro earlier request handed
  refine ⟨rfl, ?_⟩
  have count : (earlier.length + 1) * around.paceMs ≤ sent.length * around.paceMs := by
    have length := handed.length_le
    rw [List.length_append, List.length_singleton] at length
    exact Nat.mul_le_mul_right _ length
  cases deadline with
  | none => exact Bool.or_false _
  | some limit =>
      have early : ¬ limit < start + (earlier.length + 1) * around.paceMs := by
        have within := inTime limit rfl
        omega
      simp only [hostUntil, Sandbox.Host.patient, early, decide_false, Bool.or_false]

/-- A run that is over in time goes as if nobody watched it. -/
theorem run_eq (inTime : state.IsInTime around submission) :
    run around state submission =
      (answerTo submission (state.report around submission).verdict,
        { state with
          disk := state.scratch.release (state.scratch.lease state.disk)
          now := state.finish around submission
          free := state.finish around submission
          sent := state.sent ++ (state.report around submission).sent }) := by
  have started : ¬ state.now + min state.settings.timeoutMs patienceMs < max state.now state.free :=
    Nat.not_lt.2 (Nat.le_trans (Nat.le_add_right _ _) inTime)
  have ended : ¬ state.now + min state.settings.timeoutMs patienceMs < state.finish around submission :=
    Nat.not_lt.2 inTime
  have same : ∀ deadline : Option Nat,
      (∀ limit ∈ deadline, limit = state.now + min state.settings.timeoutMs patienceMs) ->
      (state.runner.evaluate (hostUntil around (max state.now state.free) deadline) state.disk
        submission.request).1 = state.report around submission := by
    intro deadline known
    have alike : state.runner.Alike state.runner := by constructor <;> rfl
    have agree : around.transport.AgreesOn
        (hostUntil around (max state.now state.free) deadline).transport
        (state.report around submission).sent := by
      apply agreesOn_hostUntil
      intro limit member
      rw [known limit member]
      exact inTime
    exact Sandbox.Runner.report_congr alike state.disk agree state.disk
  have watched := same (if state.settings.timeoutMs ≤ patienceMs then
    some (state.now + min state.settings.timeoutMs patienceMs) else none) (by
      intro limit member
      split at member
      · exact (Option.some.inj member).symm
      · cases member)
  unfold run
  rw [if_neg fun both => started both.2]
  simp only [watched]
  rw [State.finish] at ended
  rw [if_neg ended]
  rfl

/-! ## Answers -/

theorem status_answerTo (verdict : Verdict) : (answerTo submission verdict).status ≠ 400 := by
  cases verdict with
  | succeeded result log =>
      rw [answerTo]
      split <;> exact Nat.ne_of_beq_eq_false rfl
  | failed fault | crashed | exhausted => exact Nat.ne_of_beq_eq_false rfl

/-- The service finds nothing wrong with a submission that was run, whatever comes of the run. -/
theorem status_run (around : Surroundings) (state : State) (submission : Submission) :
    (run around state submission).1.status ≠ 400 := by
  unfold run
  dsimp only
  split_ifs
  any_goals exact status_answerTo _
  -- what is left are the answers to a run that took too long
  all_goals exact Nat.ne_of_beq_eq_false rfl

theorem outputBytes_eq_error {result : Script.Result} {log : List Gate.LogEntry} {maximum : Nat}
    (long : ∀ bytes ∈ Verdict.bytes? (.succeeded result log), maximum < bytes.length) :
    ∃ fault, Sandbox.outputBytes result maximum = .error fault := by
  cases result with
  | bytes bytes =>
      have tooLong := Nat.not_le.2 (long bytes rfl)
      exact ⟨.tooLong maximum, by rw [Sandbox.outputBytes_bytes, if_neg tooLong]⟩
  | undefined | null | bool | number | bigint | text | data => exact ⟨.notBytes, rfl⟩

theorem answerTo_bytes {bytes : Bytes} {log : List Gate.LogEntry}
    (fits : bytes.length ≤ submission.maxResponseBytes) :
    answerTo submission (.succeeded (.bytes bytes) log) =
      ⟨200, some (.object ([("result", .string (Sandbox.responseText bytes)),
        ("requestLog", Gate.logJson log)]
          ++ (submission.requestId.map fun id => ("requestId", Json.string id)).toList))⟩ := by
  have passed := Sandbox.outputBytes_bytes_ok_iff.2 ⟨rfl, fits⟩
  simp only [answerTo, passed]
  rfl

theorem answerTo_unusable {result : Script.Result} {log : List Gate.LogEntry} {fault : Sandbox.InputFault}
    (unusable : Sandbox.outputBytes result submission.maxResponseBytes = .error fault) :
    answerTo submission (.succeeded result log) =
      .ofProblem ⟨422, "invalid_output", fault.message, none, none, some log⟩ := by
  simp only [answerTo, unusable]
  rfl

/-- Success is told exactly for bytes that are not too many. -/
theorem status_answerTo_eq_iff (verdict : Verdict) :
    (answerTo submission verdict).status = 200 ↔
      ∃ bytes ∈ verdict.bytes?, bytes.length ≤ submission.maxResponseBytes := by
  cases verdict with
  | succeeded result log =>
      by_cases fits : ∃ bytes ∈ Verdict.bytes? (.succeeded result log),
          bytes.length ≤ submission.maxResponseBytes
      · obtain ⟨bytes, found, short⟩ := fits
        cases result with
        | bytes content =>
            obtain rfl := Option.some.inj found
            rw [answerTo_bytes short]
            exact iff_of_true rfl ⟨content, rfl, short⟩
        | undefined | null | bool | number | bigint | text | data => cases found
      · have long : ∀ bytes ∈ Verdict.bytes? (.succeeded result log),
            submission.maxResponseBytes < bytes.length :=
          fun bytes found => Nat.not_le.1 fun short => fits ⟨bytes, found, short⟩
        obtain ⟨fault, unusable⟩ := outputBytes_eq_error long
        rw [answerTo_unusable unusable]
        exact iff_of_false (Nat.ne_of_beq_eq_false rfl) fits
  | failed | crashed | exhausted =>
      exact iff_of_false (Nat.ne_of_beq_eq_false rfl) fun ⟨_, found, _⟩ => nomatch found

/-- A run that came to an end is told of as a success or as a failure of the submission. -/
theorem status_answerTo_cases {verdict : Verdict} (sound : verdict ≠ .crashed)
    (finished : verdict ≠ .exhausted) :
    (answerTo submission verdict).status = 200 ∨ (answerTo submission verdict).status = 422 := by
  cases verdict with
  | succeeded result log =>
      rw [answerTo]
      split
      · exact .inr rfl
      · exact .inl rfl
  | failed fault => exact .inr rfl
  | crashed => exact absurd rfl sound
  | exhausted => exact absurd rfl finished

theorem get?_append_field (name other : String) (text : Option String) (rest : List (String × Json))
    (differs : other ≠ name) :
    Fields.get? (Problem.field? other text ++ rest) name = Fields.get? rest name := by
  cases text with
  | none => rfl
  | some text => simp [Problem.field?, Fields.get?, differs]

theorem get?_requestLog (log : Option (List Gate.LogEntry)) :
    Fields.get? (log.map fun log => ("requestLog", Gate.logJson log)).toList "requestLog" =
      log.map Gate.logJson := by
  cases log with
  | none => rfl
  | some log => simp [Fields.get?]

/-- The log that an answer tells of is that of the problem. -/
theorem Problem.get?_toJson (problem : Problem) :
    problem.toJson.get? "requestLog" = problem.log.map Gate.logJson := by
  have name : ("name" : String) ≠ "requestLog" := by decide
  have details : ("details" : String) ≠ "requestLog" := by decide
  rw [Problem.toJson, Json.get?, List.append_assoc, List.append_assoc]
  simp only [List.cons_append, List.nil_append, Fields.get?]
  rw [if_neg (by decide), if_neg (by decide), get?_append_field _ _ _ _ name,
    get?_append_field _ _ _ _ details, get?_requestLog]

/-- However a run ends, its log is in the answer. -/
theorem get?_answerTo (verdict : Verdict) :
    (answerTo submission verdict).body.bind (·.get? "requestLog") = verdict.log?.map Gate.logJson := by
  cases verdict with
  | succeeded result log =>
      rw [answerTo]
      split
      · exact Problem.get?_toJson _
      · simp [Answer.success, Json.get?, Fields.get?, Verdict.log?]
  | failed fault => exact Problem.get?_toJson _
  | crashed | exhausted => exact Problem.get?_toJson _

/-! ## From the inquiry to the answer -/

/-- What the service answers to a data value that is submitted to be run. It answers 400 exactly if the
value is not in order, and then nothing has happened. Otherwise, as long as the run is over in time, it is
the run with nobody watching, and its requests are those that were sent. The answer is 200 exactly for bytes
that are not too many, told with the log and with the mark if one was given; and 422 for any other run that comes
to an end: for a result that is no such bytes and for a script that failed the log comes along, for one that
could not be read there is none. -/
theorem submission_answered (around : Surroundings) (state : State) {inquiry : Inquiry} {body : Json}
    (submits : inquiry.Submits body) :
    let answered := respond around state inquiry
    let read := Submission.read state.settings.defaults body
    (answered.1.status = 400 ↔ ∃ fault, read = .error fault) ∧
    (∀ fault, read = .error fault ->
      answered = (.ofProblem ⟨400, "invalid_input", fault.message, none, none, none⟩, state)) ∧
    ∀ submission, read = .ok submission -> state.IsInTime around submission ->
      let report := state.report around submission
      answered.2.sent = state.sent ++ report.sent ∧
      (∀ log ∈ report.verdict.log?,
        log.countP Gate.LogEntry.dispatched ≤ submission.request.quota) ∧
      answered.1.body.bind (·.get? "requestLog") = report.verdict.log?.map Gate.logJson ∧
      submission.requestId = (body.given? "requestId").map markText ∧
      (answered.1.status = 200 ↔
        ∃ bytes ∈ report.verdict.bytes?, bytes.length ≤ submission.maxResponseBytes) ∧
      (report.verdict ≠ .crashed -> report.verdict ≠ .exhausted ->
        answered.1.status = 200 ∨ answered.1.status = 422) ∧
      (∀ bytes log, report.verdict = .succeeded (.bytes bytes) log ->
        bytes.length ≤ submission.maxResponseBytes ->
          answered.1 = ⟨200, some (.object ([("result", .string (Sandbox.responseText bytes)),
            ("requestLog", Gate.logJson log)]
              ++ (submission.requestId.map fun id => ("requestId", Json.string id)).toList))⟩) ∧
      (∀ result log fault, report.verdict = .succeeded result log ->
        Sandbox.outputBytes result submission.maxResponseBytes = .error fault ->
          answered.1 = .ofProblem ⟨422, "invalid_output", fault.message, none, none, some log⟩) ∧
      (∀ complaint, report.verdict = .failed (.compile complaint) ->
        answered.1 = .ofProblem ⟨422, "CompileError", complaint.message, some complaint.name,
          some complaint.details, none⟩) ∧
      (∀ complaint log, report.verdict = .failed (.runtime complaint log) ->
        answered.1 = .ofProblem ⟨422, "RuntimeError", complaint.message, some complaint.name,
          some complaint.details, some log⟩) := by
  intro answered read
  refine ⟨?_, fun fault failed => submits.respond_of_error failed, ?_⟩
  · cases reading : read with
    | error fault =>
        rw [show answered = _ from submits.respond_of_error reading]
        exact iff_of_true rfl ⟨fault, rfl⟩
    | ok submission =>
        rw [show answered = _ from submits.respond_of_ok reading]
        exact iff_of_false (status_run around state submission) nofun
  · intro submission done inTime report
    have whole : answered = _ := (submits.respond_of_ok done).trans (run_eq inTime)
    have answer : answered.1 = answerTo submission report.verdict := by rw [whole]
    refine ⟨by rw [whole], ?_, ?_, requestId_of_read done, ?_, ?_, ?_, ?_, ?_, ?_⟩
    · exact Sandbox.Runner.dispatched_log_le _ _ _ _
    · rw [answer]
      exact get?_answerTo _
    · rw [answer]
      exact status_answerTo_eq_iff _
    · intro sound finished
      rw [answer]
      exact status_answerTo_cases sound finished
    · intro bytes log ended fits
      rw [answer, ended]
      exact answerTo_bytes fits
    · intro result log fault ended unusable
      rw [answer, ended]
      exact answerTo_unusable unusable
    · intro complaint ended
      rw [answer, ended]
      rfl
    · intro complaint log ended
      rw [answer, ended]
      rfl

/-- Surroundings in which each request of a script takes so long and gets an empty object. -/
def Surroundings.obliging (paceMs : Nat) : Surroundings where
  transport := .fixed (.ok (.ofJson 200 (.object []))) []
  paceMs := paceMs
  servers := ⟨fun _ _ _ => .timedOut⟩
  draw := ⟨⟨1, by decide, by decide⟩, List.replicate 16 0, rfl⟩

def Inquiry.evaluating (type text : String) : Inquiry :=
  ⟨"POST", "/v1/evaluate", some type, Text.utf8 text⟩

/-- A script that makes the one request it is allowed and returns bytes. -/
def countedSource : String :=
  "Functions.makeHttpRequest(\x7burl:'https://a.b/'\x7d); return Functions.encodeUint256(1);"

def countedBody : Json :=
  .object [("source", .string countedSource), ("numAllowedQueries", .integer 1), ("requestId", .integer 7)]

/-- It is answered by the bytes, and its request was sent. -/
theorem submission_answered_counted :
    let around := Surroundings.obliging 100
    let state := State.start .usual .blank
    let inquiry := Inquiry.evaluating "application/json" countedBody.compact
    let submission : Submission := ⟨⟨countedSource, [], none, 1⟩, 256, some "7"⟩
    inquiry.Submits countedBody ∧
      Submission.read state.settings.defaults countedBody = .ok submission ∧
      state.IsInTime around submission ∧
      (respond around state inquiry).1.status = 200 ∧
      (respond around state inquiry).2.sent.length = 1 := by
  intro around state inquiry submission
  have submits : inquiry.Submits countedBody :=
    { method := rfl
      path := by decide +kernel
      announced := ⟨_, ⟨"application".toList, "json".toList, none⟩, rfl, by decide +kernel⟩
      size := by decide +kernel
      read := eq_ok_of_toOption (by decide +kernel) }
  have inOrder : Submission.read state.settings.defaults countedBody = .ok submission := by cbv
  have ran : (state.report around submission).sent.length = 1 ∧
      (state.report around submission).verdict.bytes?.any (fun bytes => bytes.length ≤ 256) = true := by
    decide +kernel
  have inTime : state.IsInTime around submission := by
    rw [State.IsInTime, State.finish, ran.1]
    decide +kernel
  obtain ⟨-, -, answer⟩ := submission_answered around state submits
  obtain ⟨sent, -, -, -, status, -⟩ := answer submission inOrder inTime
  obtain ⟨bytes, found, short⟩ := (Option.any_eq_true _ _).1 ran.2
  refine ⟨submits, inOrder, inTime, status.2 ⟨bytes, found, of_decide_eq_true short⟩, ?_⟩
  rw [sent, List.length_append, ran.1]
  rfl

/-- Three more answers: a body of a type that only ends in that of data values is turned away, one with a
number that is too great is not read, and a run that is over before the watchdog may be too late for the
service all the same. -/
theorem submission_unanswered :
    let state := State.start { Settings.usual with timeoutMs := 60000 } .blank
    let offType := Inquiry.evaluating "application/vnd.api+json" "\x7b\"source\":\"return 1;\"\x7d"
    let tooGreat := Inquiry.evaluating "application/json" "\x7b\"source\":\"return 1;\",\"n\":1e400\x7d"
    let slow := Inquiry.evaluating "application/json"
      "\x7b\"source\":\"Functions.makeHttpRequest(\x7burl:'https://a.b/'\x7d)\"\x7d"
    (MediaType.read? "application/vnd.api+json").any (·.isJson) = true ∧
      (respond (.obliging 100) state offType).1.status = 415 ∧
      (respond (.obliging 100) state tooGreat).1.status = 400 ∧
      (respond (.obliging 100) state tooGreat).1.body.isNone = true ∧
      (respond (.obliging 31000) state slow).1.status = 408 ∧
      (respond (.obliging 31000) state slow).2.free ≤ state.settings.timeoutMs := by
  decide +kernel

end Service

end ScriptOracle
