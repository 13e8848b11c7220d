import ScriptOracle.Gate.Basic
import ScriptOracle.Proofs.Except

/-!
# What happens to a gate

A gate is asked to carry out a call or only to note one that never became a request, and between any
two of these the host may give up on the run. `visits` lists what a sequence of such events does at the
gate, and `after` is the gate that it leaves. `Served` names the four ways an ask can go.
-/

namespace ScriptOracle.Gate

inductive Ask where
  | request (call : Call)
  /-- Something that is not a request at all. -/
  | refuse (url method : String) (refusal : Refusal)

namespace Ask

def url : Ask -> String
  | .request call => call.url
  | .refuse url _ _ => url

def method : Ask -> String
  | .request call => call.method
  | .refuse _ method _ => method

end Ask

inductive Event where
  | ask (ask : Ask)
  | abort

def Event.ask? : Event -> Option Ask
  | .ask made => some made
  | .abort => none

def serve (transport : Transport) (gate : Gate) : Ask -> Outcome × Gate
  | .request call => gate.perform transport call
  | .refuse url method refusal => gate.reject url method refusal

/-- An ask with its outcome, between the gate it met and the gate it left. -/
structure Visit where
  ask : Ask
  met : Gate
  outcome : Outcome
  left : Gate

def visit (transport : Transport) (gate : Gate) (ask : Ask) : Visit :=
  ⟨ask, gate, (serve transport gate ask).1, (serve transport gate ask).2⟩

/-- Whether a visit was counted against the quota. -/
def Visit.isCounted (visit : Visit) : Bool := decide (visit.met.used < visit.left.used)

def Visit.entry (visit : Visit) : LogEntry where
  url := visit.ask.url
  method := Text.upperCase visit.ask.method
  dispatched := visit.isCounted
  status := visit.outcome.status?
  error := visit.outcome.errorName?

/-- The visits of a run of events, in order. -/
def visits (transport : Transport) (gate : Gate) : List Event -> List Visit
  | [] => []
  | .ask ask :: events =>
    visit transport gate ask :: visits transport (visit transport gate ask).left events
  | .abort :: events => visits transport gate.abort events

def after (transport : Transport) (gate : Gate) : List Event -> Gate
  | [] => gate
  | .ask ask :: events => after transport (visit transport gate ask).left events
  | .abort :: events => after transport gate.abort events

variable {transport : Transport} {gate left : Gate} {ask : Ask} {outcome : Outcome}

/-! ## Records -/

@[simp] theorem record_quota (url method : String) (dispatched : Bool) :
    (gate.record url method dispatched outcome).quota = gate.quota := rfl

@[simp] theorem record_limits (url method : String) (dispatched : Bool) :
    (gate.record url method dispatched outcome).limits = gate.limits := rfl

@[simp] theorem record_used (url method : String) (dispatched : Bool) :
    (gate.record url method dispatched outcome).used = gate.used := rfl

@[simp] theorem record_aborted (url method : String) (dispatched : Bool) :
    (gate.record url method dispatched outcome).aborted = gate.aborted := rfl

@[simp] theorem record_sent (url method : String) (dispatched : Bool) :
    (gate.record url method dispatched outcome).sent = gate.sent := rfl

@[simp] theorem record_log (url method : String) (dispatched : Bool) :
    (gate.record url method dispatched outcome).log = gate.log ++
      [⟨url, Text.upperCase method, dispatched, outcome.status?, outcome.errorName?⟩] := rfl

/-! ## The checks -/

/-- The checks before the quota that a call fails, in the order in which they are made. -/
def objections (limits : Limits) (aborted : Bool) (call : Call) : List Refusal :=
  (if aborted then [.aborted] else [])
    ++ (if limits.maxTimeoutMs < call.timeoutMs then
        [.timeoutTooLarge call.timeoutMs limits.maxTimeoutMs]
      else [])
    ++ (if limits.maxUrlLength < Text.byteCount call.url then
        [.urlTooLong (Text.byteCount call.url) limits.maxUrlLength]
      else [])

/-- Vetting reports the first objection, and the quota only when there is none. -/
theorem vet_eq (gate : Gate) (call : Call) :
    gate.vet call =
      match objections gate.limits gate.aborted call with
      | refusal :: _ => .error refusal
      | [] => if gate.used < gate.quota then .ok () else .error (.quotaExceeded gate.quota) := by
  have spare : gate.remaining = 0 ↔ ¬ gate.used < gate.quota := by
    rw [remaining]
    omega
  unfold vet preflight objections
  by_cases aborted : gate.aborted
  · simp only [aborted, ↓reduceIte]
    rfl
  · by_cases slow : gate.limits.maxTimeoutMs < call.timeoutMs
    · simp only [aborted, slow, ↓reduceIte]
      rfl
    · by_cases long : gate.limits.maxUrlLength < Text.byteCount call.url
      · simp only [aborted, slow, long, ↓reduceIte]
        rfl
      · by_cases room : gate.used < gate.quota
        · simp only [aborted, slow, long, spare, room, not_true_eq_false, ↓reduceIte]
          rfl
        · simp only [aborted, slow, long, spare, room, not_false_eq_true, ↓reduceIte]
          rfl

theorem vet_eq_ok_iff {gate : Gate} {call : Call} :
    gate.vet call = .ok () ↔
      objections gate.limits gate.aborted call = [] ∧ gate.used < gate.quota := by
  rw [vet_eq]
  cases objections gate.limits gate.aborted call with
  | nil => by_cases room : gate.used < gate.quota <;> simp [room]
  | cons refusal rest => simp

/-- What a request is prepared from. -/
theorem prepare_eq_ok {limits : Limits} {call : Call} {request : Prepared}
    (prepared : prepare limits call = .ok request) :
    checkBody limits call.bodyBytes? = .ok () ∧ ∃ url, call.address = .ok url ∧
      request = ⟨Text.upperCase call.method, url.text, call.headers, call.bodyBytes?, call.timeoutMs,
        limits.maxResponseBytes⟩ := by
  obtain ⟨⟨⟩, checked, located⟩ := exists_of_bind_eq_ok prepared
  obtain ⟨url, found, built⟩ := exists_of_bind_eq_ok located
  exact ⟨checked, url, found, (Except.ok.inj built).symm⟩

/-! ## The ways out -/

/-- The ways an ask can go at a gate: refused before it counts, or counted and then either never
prepared or handed to the transport. -/
inductive Served (transport : Transport) (gate : Gate) : Ask -> Outcome -> Gate -> Prop
  | refused (url method : String) (refusal : Refusal) :
      Served transport gate (.refuse url method refusal) (.ofRefusal refusal)
        (gate.record url method false (.ofRefusal refusal))
  | turnedAway (call : Call) (refusal : Refusal) (vetted : gate.vet call = .error refusal) :
      Served transport gate (.request call) (.ofRefusal refusal)
        (gate.record call.url call.method false (.ofRefusal refusal))
  | unprepared (call : Call) (refusal : Refusal) (vetted : gate.vet call = .ok ())
      (prepared : prepare gate.limits call = .error refusal) :
      Served transport gate (.request call) (.ofRefusal refusal)
        (record { gate with used := gate.used + 1 } call.url call.method true (.ofRefusal refusal))
  | handedOver (call : Call) (request : Prepared) (vetted : gate.vet call = .ok ())
      (prepared : prepare gate.limits call = .ok request) :
      Served transport gate (.request call)
        (.ofReply call.answerType (transport.send gate.sent request))
        (record
          { gate with
            used := gate.used + 1
            aborted := gate.aborted || transport.interrupts gate.sent request
            sent := gate.sent ++ [request] }
          call.url call.method true (.ofReply call.answerType (transport.send gate.sent request)))

theorem served (transport : Transport) (gate : Gate) (ask : Ask) :
    Served transport gate ask (visit transport gate ask).outcome
      (visit transport gate ask).left := by
  cases ask with
  | refuse url method refusal => exact .refused url method refusal
  | request call =>
      simp only [visit, serve, perform]
      cases vetted : gate.vet call with
      | error refusal => exact .turnedAway call refusal vetted
      | ok _ =>
          cases prepared : prepare gate.limits call with
          | error refusal =>
              simp only [carryOut, prepared]
              exact .unprepared call refusal vetted prepared
          | ok request =>
              simp only [carryOut, prepared, dispatch]
              exact .handedOver call request vetted prepared

theorem Served.quota_eq (way : Served transport gate ask outcome left) :
    left.quota = gate.quota := by
  cases way <;> rfl

theorem Served.limits_eq (way : Served transport gate ask outcome left) :
    left.limits = gate.limits := by
  cases way <;> rfl

theorem Served.log_eq (way : Served transport gate ask outcome left) :
    left.log = gate.log ++ [Visit.entry ⟨ask, gate, outcome, left⟩] := by
  cases way with
  | refused | turnedAway => simp [Visit.entry, Visit.isCounted, Ask.url, Ask.method]
  | unprepared | handedOver => simp [Visit.entry, Visit.isCounted, Ask.url, Ask.method]

/-! ## Runs -/

@[simp] theorem visit_ask (transport : Transport) (gate : Gate) (ask : Ask) :
    (visit transport gate ask).ask = ask := rfl

@[simp] theorem visit_met (transport : Transport) (gate : Gate) (ask : Ask) :
    (visit transport gate ask).met = gate := rfl

/-- A run and then another are one run. -/
theorem after_append (transport : Transport) (gate : Gate) (first second : List Event) :
    after transport gate (first ++ second) =
      after transport (after transport gate first) second := by
  induction first generalizing gate with
  | nil => rfl
  | cons event first ih =>
      cases event with
      | ask ask => simp [after, ih]
      | abort => simp [after, ih]

/-- There is one visit for every ask. -/
theorem map_ask_visits (transport : Transport) (gate : Gate) (events : List Event) :
    (visits transport gate events).map Visit.ask = events.filterMap Event.ask? := by
  induction events generalizing gate with
  | nil => rfl
  | cons event events ih =>
      cases event with
      | ask ask => simp [visits, Event.ask?, ih]
      | abort => exact ih gate.abort

theorem limits_after (transport : Transport) (gate : Gate) (events : List Event) :
    (after transport gate events).limits = gate.limits := by
  induction events generalizing gate with
  | nil => rfl
  | cons event events ih =>
      cases event with
      | ask ask => exact (ih _).trans (served transport gate ask).limits_eq
      | abort => exact ih _

theorem quota_after (transport : Transport) (gate : Gate) (events : List Event) :
    (after transport gate events).quota = gate.quota := by
  induction events generalizing gate with
  | nil => rfl
  | cons event events ih =>
      cases event with
      | ask ask => exact (ih _).trans (served transport gate ask).quota_eq
      | abort => exact ih _

/-- The log grows by the entry of each visit. -/
theorem log_after (transport : Transport) (gate : Gate) (events : List Event) :
    (after transport gate events).log =
      gate.log ++ (visits transport gate events).map Visit.entry := by
  induction events generalizing gate with
  | nil => simp [after, visits]
  | cons event events ih =>
      cases event with
      | abort => exact ih gate.abort
      | ask ask =>
          have step := (served transport gate ask).log_eq
          rw [after, visits, ih, step, List.append_assoc]
          rfl

/-- A visit is paid to the gate that the events before it have left. -/
theorem getElem_visits (gate : Gate) {events : List Event} {i : Nat}
    (inside : i < (visits transport gate events).length) :
    ∃ earlier ask rest, events = earlier ++ .ask ask :: rest ∧
      visits transport gate earlier = (visits transport gate events).take i ∧
      (visits transport gate events)[i] =
        visit transport (after transport gate earlier) ask := by
  induction events generalizing gate i with
  | nil => simp [visits] at inside
  | cons event events ih =>
      cases event with
      | abort =>
          obtain ⟨earlier, ask, rest, split, visited, found⟩ := ih gate.abort inside
          exact ⟨.abort :: earlier, ask, rest, by rw [split, List.cons_append], visited, found⟩
      | ask first =>
          cases i with
          | zero => exact ⟨[], first, events, rfl, rfl, rfl⟩
          | succ i =>
              have within : i < (visits transport (visit transport gate first).left events).length :=
                Nat.lt_of_succ_lt_succ inside
              obtain ⟨earlier, ask, rest, split, visited, found⟩ := ih _ within
              refine ⟨.ask first :: earlier, ask, rest, by rw [split, List.cons_append], ?_, found⟩
              simp [visits, visited]

end ScriptOracle.Gate
