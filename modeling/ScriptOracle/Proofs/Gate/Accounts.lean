import ScriptOracle.Proofs.Gate.History

/-!
# The accounts of a gate

A gate keeps three books: the number of requests it counted, the log and the requests that it handed
over. `Balanced` says how they belong together, every visit keeps it, and so it holds of a gate at every
point of a run. The log and the transport agree because no answer of the network goes by a name that is
used for a request that could not be prepared.
-/

namespace ScriptOracle.Gate

/-- Whether the log says that a request was handed to the transport: it counted, and did not fail
under one of the names for a request that could not be prepared. -/
def LogEntry.wasSent (entry : LogEntry) : Bool :=
  entry.dispatched && entry.error != some "BodyTooLarge" && entry.error != some "InvalidRequest"

def Ask.prepared? (limits : Limits) : Ask -> Option Prepared
  | .request call => (prepare limits call).toOption
  | .refuse _ _ _ => none

/-- The count of a gate agrees with its quota and its log. -/
structure Balanced (gate : Gate) : Prop where
  within : gate.used ≤ gate.quota
  counted : gate.used = gate.log.countP LogEntry.dispatched

variable {transport : Transport} {gate left : Gate} {ask : Ask} {outcome : Outcome}

/-! ## Names -/

theorem name_of_checkBody {limits : Limits} {body : Option Bytes} {refusal : Refusal}
    (checked : checkBody limits body = .error refusal) : refusal.name = "BodyTooLarge" := by
  cases body with
  | none => cases checked
  | some bytes =>
      simp only [checkBody] at checked
      split at checked
      · cases checked
        rfl
      · cases checked

theorem name_of_address {call : Call} {refusal : Refusal}
    (found : call.address = .error refusal) : refusal.name = "InvalidRequest" := by
  simp only [Call.address] at found
  split at found
  · cases found
    rfl
  · split at found
    · cases found
    · cases found
      rfl

/-- A request that cannot be prepared fails under one of two names. -/
theorem name_of_prepare {limits : Limits} {call : Call} {refusal : Refusal}
    (prepared : prepare limits call = .error refusal) :
    refusal.name = "BodyTooLarge" ∨ refusal.name = "InvalidRequest" := by
  rcases or_of_bind_eq_error prepared with checked | ⟨_, _, located⟩
  · exact .inl (name_of_checkBody checked)
  · rcases or_of_bind_eq_error located with found | ⟨_, _, built⟩
    · exact .inr (name_of_address found)
    · cases built

/-- No answer of the network goes by one of these names. -/
theorem errorName?_ofReply (type : AnswerType) (reply : Except Failure Reply) :
    (Outcome.ofReply type reply).errorName? ≠ some "BodyTooLarge" ∧
      (Outcome.ofReply type reply).errorName? ≠ some "InvalidRequest" := by
  cases reply with
  | error failure =>
      rw [Outcome.ofReply, Outcome.ofFailure, Outcome.errorName?]
      cases failure <;> simp [Failure.name]
  | ok reply =>
      rw [Outcome.ofReply]
      split <;> simp [Outcome.errorName?]

/-! ## One visit -/

theorem Served.within (way : Served transport gate ask outcome left)
    (within : gate.used ≤ gate.quota) : left.used ≤ left.quota := by
  cases way with
  | refused | turnedAway => exact within
  | unprepared _ _ vetted | handedOver _ _ vetted => exact (vet_eq_ok_iff.mp vetted).2

/-- A visit that counts meets a gate with quota to spare. -/
theorem Served.spare (way : Served transport gate ask outcome left)
    (counted : gate.used < left.used) :
    gate.used < gate.quota ∧ left.used = gate.used + 1 := by
  cases way with
  | refused | turnedAway => exact absurd counted (Nat.lt_irrefl _)
  | unprepared _ _ vetted | handedOver _ _ vetted => exact ⟨(vet_eq_ok_iff.mp vetted).2, rfl⟩

theorem Served.balanced (way : Served transport gate ask outcome left)
    (balanced : gate.Balanced) : left.Balanced := by
  refine ⟨way.within balanced.within, ?_⟩
  have counted := balanced.counted
  cases way with
  | refused | turnedAway => simpa using counted
  | unprepared | handedOver => simpa using counted

/-- A visit hands over the request of its ask when its entry says so, and otherwise nothing. -/
theorem Served.handed (way : Served transport gate ask outcome left) :
    left.sent.map some = gate.sent.map some ++
      if (Visit.entry ⟨ask, gate, outcome, left⟩).wasSent then [ask.prepared? gate.limits]
      else [] := by
  cases way with
  | refused | turnedAway => simp [Visit.entry, Visit.isCounted, LogEntry.wasSent]
  | unprepared call refusal vetted prepared =>
      rcases name_of_prepare prepared with named | named
      · simp [Visit.entry, LogEntry.wasSent, Outcome.ofRefusal, Outcome.errorName?, named]
      · simp [Visit.entry, LogEntry.wasSent, Outcome.ofRefusal, Outcome.errorName?, named]
  | handedOver call request vetted prepared =>
      -- No failure on the network has a name that would hide the request from the books.
      have named := errorName?_ofReply call.answerType (transport.send gate.sent request)
      simp [Visit.entry, Visit.isCounted, LogEntry.wasSent, named.1, named.2, Ask.prepared?,
        prepared, Except.toOption]

/-! ## Runs -/

theorem balanced_fresh (quota : Nat) (limits : Limits) : (fresh quota limits).Balanced :=
  ⟨Nat.zero_le _, rfl⟩

theorem Balanced.abort (balanced : gate.Balanced) : gate.abort.Balanced :=
  ⟨balanced.within, balanced.counted⟩

theorem Balanced.after (balanced : gate.Balanced) (transport : Transport) (events : List Event) :
    (gate.after transport events).Balanced := by
  induction events generalizing gate with
  | nil => exact balanced
  | cons event events ih =>
      cases event with
      | ask ask => exact ih ((served transport gate ask).balanced balanced)
      | abort => exact ih balanced.abort

/-- What a run hands over, in order: the request of each visit whose entry says so. -/
theorem sent_after (transport : Transport) (gate : Gate) (events : List Event) :
    (gate.after transport events).sent.map some = gate.sent.map some ++
      ((gate.visits transport events).filter (·.entry.wasSent)).map
        (·.ask.prepared? gate.limits) := by
  induction events generalizing gate with
  | nil => simp [Gate.after, visits]
  | cons event events ih =>
      cases event with
      | abort => exact ih gate.abort
      | ask ask =>
          have way := served transport gate ask
          have handed : (visit transport gate ask).left.sent.map some = gate.sent.map some ++
              if (visit transport gate ask).entry.wasSent then [ask.prepared? gate.limits]
              else [] := way.handed
          rw [Gate.after, visits, ih, handed, way.limits_eq, List.filter_cons]
          split <;> simp

theorem length_sent_after (transport : Transport) (quota : Nat) (limits : Limits)
    (events : List Event) :
    ((fresh quota limits).after transport events).sent.length =
      ((fresh quota limits).after transport events).log.countP LogEntry.wasSent := by
  have handed := congrArg List.length (sent_after transport (fresh quota limits) events)
  have log := log_after transport (fresh quota limits) events
  rw [List.length_map, List.length_append, List.length_map, List.length_map,
    ← List.countP_eq_length_filter] at handed
  rw [handed, log, List.countP_append, List.countP_map]
  rfl

/-- A log never tells of more counted requests than the quota allows. -/
theorem dispatched_after_le (transport : Transport) (quota : Nat) (limits : Limits)
    (events : List Event) :
    ((fresh quota limits).after transport events).log.countP LogEntry.dispatched ≤ quota := by
  have balanced := (balanced_fresh quota limits).after transport events
  have within := balanced.within
  rw [balanced.counted, quota_after] at within
  exact within

theorem LogEntry.dispatched_of_wasSent {entry : LogEntry} (sent : entry.wasSent = true) :
    entry.dispatched = true := by
  rw [wasSent, Bool.and_eq_true, Bool.and_eq_true] at sent
  exact sent.1.1

theorem length_sent_after_le (transport : Transport) (quota : Nat) (limits : Limits)
    (events : List Event) :
    ((fresh quota limits).after transport events).sent.length ≤ quota := by
  rw [length_sent_after]
  exact Nat.le_trans (List.countP_mono_left fun _ _ sent => LogEntry.dispatched_of_wasSent sent)
    (dispatched_after_le transport quota limits events)

theorem spare_of_counted {events : List Event} {paid : Visit}
    (member : paid ∈ visits transport gate events) (counted : paid.isCounted) :
    paid.met.used < gate.quota ∧ paid.left.used = paid.met.used + 1 := by
  obtain ⟨i, inside, rfl⟩ := List.getElem_of_mem member
  obtain ⟨earlier, ask, rest, _, _, found⟩ := getElem_visits _ inside
  rw [found] at counted ⊢
  rw [← quota_after transport gate earlier]
  exact (served transport (gate.after transport earlier) ask).spare (of_decide_eq_true counted)

/-- A log tells of all that was made and of all that was handed over: it has an entry for everything that
was asked, in order, and what was handed over are the requests of the entries that say so. -/
structure Complete (limits : Limits) (made : List Ask) (log : List LogEntry)
    (sent : List Prepared) : Prop where
  entries : log.map (fun entry => (entry.url, entry.method)) =
    made.map fun ask => (ask.url, Text.upperCase ask.method)
  handed : sent.map some =
    ((made.zip log).filter (·.2.wasSent)).map (·.1.prepared? limits)

theorem complete_after (transport : Transport) (quota : Nat) (limits : Limits)
    (events : List Event) :
    Complete limits (events.filterMap Event.ask?)
      ((fresh quota limits).after transport events).log
      ((fresh quota limits).after transport events).sent := by
  have made := map_ask_visits transport (fresh quota limits) events
  have log := log_after transport (fresh quota limits) events
  have sent := sent_after transport (fresh quota limits) events
  rw [← made, log]
  constructor
  · rw [show (fresh quota limits).log = [] from rfl, List.nil_append, List.map_map, List.map_map]
    rfl
  · rw [sent, show (fresh quota limits).log = [] from rfl, List.nil_append, List.zip_map',
      List.filter_map, List.map_map]
    rfl

/-- The books of a gate at any point of any run. -/
theorem accounts_agree (transport : Transport) (quota : Nat) (limits : Limits)
    (events : List Event) :
    let gate := (fresh quota limits).after transport events
    let paid := (fresh quota limits).visits transport events
    gate.used ≤ quota ∧
    (∀ visit ∈ paid, visit.isCounted →
      visit.met.used < quota ∧ visit.left.used = visit.met.used + 1) ∧
    gate.used = gate.log.countP LogEntry.dispatched ∧
    paid.map Visit.ask = events.filterMap Event.ask? ∧
    gate.log = paid.map (fun visit => {
      url := visit.ask.url
      method := Text.upperCase visit.ask.method
      dispatched := visit.isCounted
      status := visit.outcome.status?
      error := visit.outcome.errorName? }) ∧
    gate.sent.length = gate.log.countP LogEntry.wasSent := by
  intro gate paid
  have balanced := (balanced_fresh quota limits).after transport events
  have within : gate.used ≤ gate.quota := balanced.within
  rw [quota_after] at within
  exact ⟨within, fun visit member counted => spare_of_counted member counted, balanced.counted,
    map_ask_visits _ _ _, log_after transport (fresh quota limits) events,
    length_sent_after transport quota limits events⟩

end ScriptOracle.Gate
