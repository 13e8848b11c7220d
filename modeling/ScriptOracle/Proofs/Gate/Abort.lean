import ScriptOracle.Proofs.Gate.Quota

/-!
# After the host has given up

A call looks once whether the host has given up, and it does so before anything else. From then on every
call is turned away: it leaves one entry in the log and nothing else. The host may give up at any moment,
also while a call that has looked is still on its way to the transport. `Desk` takes such a call apart, with
the host in between, and `sent_after_abort` says that no other request is handed over any more.
-/

namespace ScriptOracle.Gate

variable {transport : Transport} {gate : Gate}

/-! ## Calls that come later -/

def LogEntry.ofAborted (call : Call) : LogEntry :=
  ⟨call.url, Text.upperCase call.method, false, none, some "RunAborted"⟩

theorem vet_of_aborted (aborted : gate.aborted = true) (call : Call) :
    gate.vet call = .error .aborted := by
  rw [vet_eq, objections, if_pos aborted]
  rfl

theorem perform_of_aborted (transport : Transport) (aborted : gate.aborted = true) (call : Call) :
    gate.perform transport call =
      (.ofRefusal .aborted, { gate with log := gate.log ++ [.ofAborted call] }) := by
  rw [perform, vet_of_aborted aborted]
  rfl

theorem Served.still_aborted {ask : Ask} {outcome : Outcome} {left : Gate}
    (way : Served transport gate ask outcome left) (aborted : gate.aborted = true) :
    left.aborted = true := by
  cases way with
  | refused | turnedAway | unprepared => exact aborted
  | handedOver => simp [aborted]

/-- A host that has given up does not come back. -/
theorem still_aborted_after (transport : Transport) (events : List Event)
    (aborted : gate.aborted = true) : (gate.after transport events).aborted = true := by
  induction events generalizing gate with
  | nil => exact aborted
  | cons event events ih =>
      cases event with
      | ask ask => exact ih ((served transport gate ask).still_aborted aborted)
      | abort => exact ih rfl

/-- Whenever the host has given up in the course of events, between two of them or while a request was under
way, a call that comes later is turned away. -/
theorem perform_after_abort (transport : Transport) (quota : Nat) (limits : Limits)
    (earlier later : List Event)
    (raised : .abort ∈ earlier ∨
      transport.Interrupted ((fresh quota limits).after transport earlier).sent)
    (call : Call) :
    let met := (fresh quota limits).after transport (earlier ++ later)
    met.perform transport call =
      (.ofRefusal .aborted, { met with log := met.log ++ [.ofAborted call] }) := by
  intro met
  have known := aborted_after transport (fresh quota limits) False earlier
    (by simp [fresh, not_interrupted_nil])
  rw [false_or] at known
  have aborted : met.aborted = true := by
    rw [show met = _ from after_append transport _ earlier later]
    exact still_aborted_after transport later (known.mpr raised)
  exact perform_of_aborted transport aborted call

/-! ## Calls on their way -/

/-- How far the call at a gate has come. -/
inductive Stage where
  /-- There is none. -/
  | idle
  /-- It has seen that the host had not given up. -/
  | passed (call : Call)
  /-- It was counted, and is about to be handed over. -/
  | ready (call : Call) (request : Prepared)

/-- A gate with the call that is on its way. A gate takes one call at a time. -/
structure Desk where
  gate : Gate
  stage : Stage

/-- What can happen next at a gate. -/
inductive Move where
  | start (ask : Ask)
  /-- The call on its way goes on. -/
  | proceed
  | abort

def Move.ask? : Move -> Option Ask
  | .start ask => some ask
  | _ => none

def marked (gate : Gate) (raised : Bool) : Gate := { gate with aborted := raised }

theorem marked_self (gate : Gate) : gate.marked gate.aborted = gate := rfl

@[simp] theorem marked_limits (gate : Gate) (raised : Bool) :
    (gate.marked raised).limits = gate.limits := rfl

@[simp] theorem marked_marked (gate : Gate) (first second : Bool) :
    (gate.marked first).marked second = gate.marked second := rfl

namespace Desk

/-- Something is asked of a gate. A call looks whether the host has given up, and no further. -/
def enter (gate : Gate) : Ask -> Desk
  | .refuse url method refusal => ⟨(gate.reject url method refusal).2, .idle⟩
  | .request call =>
    if gate.aborted then ⟨(gate.reject call.url call.method .aborted).2, .idle⟩
    else ⟨gate, .passed call⟩

/-- The checks of a call that do not look at the host, and what follows if it passes them. -/
def screen (gate : Gate) (call : Call) : Desk :=
  match (gate.marked false).vet call with
  | .error refusal => ⟨(gate.reject call.url call.method refusal).2, .idle⟩
  | .ok () =>
    let counted := { gate with used := gate.used + 1 }
    match prepare gate.limits call with
    | .error refusal => ⟨counted.record call.url call.method true (.ofRefusal refusal), .idle⟩
    | .ok request => ⟨counted, .ready call request⟩

def handOver (transport : Transport) (gate : Gate) (call : Call) (request : Prepared) : Desk :=
  let result := gate.dispatch transport request call.answerType
  ⟨result.2.record call.url call.method true result.1, .idle⟩

/-- The next thing happens, if it can happen now. -/
def step? (transport : Transport) (desk : Desk) : Move -> Option Desk
  | .abort => some ⟨desk.gate.abort, desk.stage⟩
  | .start ask =>
    match desk.stage with
    | .idle => some (enter desk.gate ask)
    | _ => none
  | .proceed =>
    match desk.stage with
    | .idle => none
    | .passed call => some (screen desk.gate call)
    | .ready call request => some (handOver transport desk.gate call request)

def run? (transport : Transport) (desk : Desk) : List Move -> Option Desk
  | [] => some desk
  | move :: moves => (desk.step? transport move).bind fun next => next.run? transport moves

end Desk

def Stage.call? : Stage -> Option Call
  | .idle => none
  | .passed call => some call
  | .ready call _ => some call

/-- The request that the call on its way may still hand over. -/
def Stage.pending (limits : Limits) : Stage -> List Prepared
  | .idle => []
  | .passed call => (prepare limits call).toOption.toList
  | .ready _ request => [request]

theorem Stage.length_pending (limits : Limits) (stage : Stage) :
    (stage.pending limits).length ≤ 1 := by
  cases stage with
  | idle => exact Nat.zero_le _
  | ready call request => exact Nat.le_refl _
  | passed call =>
      rw [pending]
      cases (prepare limits call).toOption <;> simp

namespace Desk

variable {desk : Desk}

/-- What becomes of a call that has seen that the host had not given up. -/
inductive Screened (gate : Gate) (call : Call) : Desk -> Prop
  | turnedAway (refusal : Refusal) (vetted : (gate.marked false).vet call = .error refusal) :
      Screened gate call ⟨gate.record call.url call.method false (.ofRefusal refusal), .idle⟩
  | unprepared (refusal : Refusal) (vetted : (gate.marked false).vet call = .ok ())
      (prepared : prepare gate.limits call = .error refusal) :
      Screened gate call
        ⟨record { gate with used := gate.used + 1 } call.url call.method true (.ofRefusal refusal),
          .idle⟩
  | counted (request : Prepared) (vetted : (gate.marked false).vet call = .ok ())
      (prepared : prepare gate.limits call = .ok request) :
      Screened gate call ⟨{ gate with used := gate.used + 1 }, .ready call request⟩

theorem screened (gate : Gate) (call : Call) : Screened gate call (screen gate call) := by
  unfold screen
  cases vetted : (gate.marked false).vet call with
  | error refusal => exact .turnedAway refusal vetted
  | ok _ =>
      cases prepared : prepare gate.limits call with
      | error refusal => exact .unprepared refusal vetted prepared
      | ok request => exact .counted request vetted prepared

/-! ### The request that is still handed over -/

/-- What a desk does when the host has given up: nothing but what is pending is handed over. -/
structure Winding (before later : Desk) : Prop where
  aborted : later.gate.aborted = true
  limits : later.gate.limits = before.gate.limits
  kept : before.gate.sent <+: later.gate.sent
  bounded : later.gate.sent ++ later.stage.pending later.gate.limits <+:
    before.gate.sent ++ before.stage.pending before.gate.limits

theorem Winding.refl (aborted : desk.gate.aborted = true) : Winding desk desk :=
  ⟨aborted, rfl, List.prefix_rfl, List.prefix_rfl⟩

theorem Winding.trans {middle later : Desk} (first : Winding desk middle)
    (second : Winding middle later) : Winding desk later :=
  ⟨second.aborted, second.limits.trans first.limits, first.kept.trans second.kept,
    second.bounded.trans first.bounded⟩

theorem Screened.winding {call : Call} {next : Desk} (way : Screened gate call next)
    (aborted : gate.aborted = true) : Winding ⟨gate, .passed call⟩ next := by
  cases way with
  | turnedAway | unprepared =>
      exact ⟨aborted, rfl, List.prefix_rfl, by simp [Stage.pending]⟩
  | counted request vetted prepared =>
      exact ⟨aborted, rfl, List.prefix_rfl, by simp [Stage.pending, prepared, Except.toOption]⟩

theorem winding_enter (aborted : gate.aborted = true) (ask : Ask) :
    Winding ⟨gate, .idle⟩ (enter gate ask) := by
  cases ask with
  | refuse url method refusal => exact ⟨aborted, rfl, List.prefix_rfl, List.prefix_rfl⟩
  | request call =>
      rw [enter, if_pos aborted]
      exact ⟨aborted, rfl, List.prefix_rfl, List.prefix_rfl⟩

theorem winding_handOver (transport : Transport) (aborted : gate.aborted = true) (call : Call)
    (request : Prepared) :
    Winding ⟨gate, .ready call request⟩ (handOver transport gate call request) := by
  refine ⟨?_, rfl, List.prefix_append _ _, ?_⟩
  · simp [handOver, dispatch, aborted]
  · simp [handOver, dispatch, Stage.pending]

theorem winding_step {next : Desk} {move : Move} (aborted : desk.gate.aborted = true)
    (taken : desk.step? transport move = some next) : Winding desk next := by
  obtain ⟨gate, stage⟩ := desk
  cases move with
  | abort =>
      cases taken
      exact ⟨rfl, rfl, List.prefix_rfl, List.prefix_rfl⟩
  | start ask =>
      cases stage with
      | passed | ready => cases taken
      | idle =>
          cases taken
          exact winding_enter aborted ask
  | proceed =>
      cases stage with
      | idle => cases taken
      | passed call =>
          cases taken
          exact (screened gate call).winding aborted
      | ready call request =>
          cases taken
          exact winding_handOver transport aborted call request

theorem winding_run {final : Desk} {moves : List Move} (aborted : desk.gate.aborted = true)
    (ran : desk.run? transport moves = some final) : Winding desk final := by
  induction moves generalizing desk with
  | nil =>
      cases ran
      exact .refl aborted
  | cons move moves ih =>
      obtain ⟨next, taken, rest⟩ := Option.bind_eq_some_iff.mp ran
      have first := winding_step aborted taken
      exact first.trans (ih first.aborted rest)

/-! ### Calls that are not taken apart -/

def since (raised : Bool) : List Event := if raised then [.abort] else []

/-- A desk that has come about at a gate: what was asked before the call on its way, and that this call
found that the host had not given up. -/
inductive Reached (transport : Transport) (gate : Gate) : List Ask -> Desk -> Prop
  | idle (events : List Event) :
      Reached transport gate (events.filterMap Event.ask?) ⟨gate.after transport events, .idle⟩
  | passed (events : List Event) (call : Call) (raised : Bool)
      (free : (gate.after transport events).aborted = false) :
      Reached transport gate (events.filterMap Event.ask? ++ [.request call])
        ⟨(gate.after transport events).marked raised, .passed call⟩
  | ready (events : List Event) (call : Call) (request : Prepared) (raised : Bool)
      (free : (gate.after transport events).aborted = false)
      (vetted : (gate.after transport events).vet call = .ok ())
      (prepared : prepare gate.limits call = .ok request) :
      Reached transport gate (events.filterMap Event.ask? ++ [.request call])
        ⟨{ (gate.after transport events).marked raised with
            used := (gate.after transport events).used + 1 }, .ready call request⟩

theorem Reached.ofEvents {asks : List Ask} {left : Gate} (events : List Event)
    (same : left = gate.after transport events) (asked : asks = events.filterMap Event.ask?) :
    Reached transport gate asks ⟨left, .idle⟩ := by
  rw [same, asked]
  exact .idle events

/-- A call comes to its end. If the host gave up while it was on its way, it might as well have done so
right after. -/
theorem Reached.ofCall {events : List Event} {call : Call} {left : Gate} (raised : Bool)
    (same : left = (visit transport (gate.after transport events) (.request call)).left.marked
      ((visit transport (gate.after transport events) (.request call)).left.aborted || raised)) :
    Reached transport gate (events.filterMap Event.ask? ++ [.request call]) ⟨left, .idle⟩ := by
  refine .ofEvents (events ++ Event.ask (.request call) :: since raised) ?_ ?_
  · rw [same, after_append]
    cases raised with
    | true => simp [since, after, abort, marked]
    | false => simp [since, after, marked_self]
  · cases raised <;> simp [since, Event.ask?]

theorem reached_abort {asks : List Ask} (reached : Reached transport gate asks desk) :
    Reached transport gate asks ⟨desk.gate.abort, desk.stage⟩ := by
  cases reached with
  | idle events =>
      refine .ofEvents (events ++ [.abort]) ?_ ?_
      · rw [after_append]
        rfl
      · simp [Event.ask?]
  | passed events call raised free => exact .passed events call true free
  | ready events call request raised free vetted prepared =>
      exact .ready events call request true free vetted prepared

theorem reached_enter (events : List Event) (ask : Ask) :
    Reached transport gate (events.filterMap Event.ask? ++ [ask])
      (enter (gate.after transport events) ask) := by
  have asked : events.filterMap Event.ask? ++ [ask] =
      (events ++ [Event.ask ask]).filterMap Event.ask? := by simp [Event.ask?]
  have taken := after_append transport gate events [.ask ask]
  cases ask with
  | refuse url method refusal => exact .ofEvents _ taken.symm asked
  | request call =>
      rw [enter]
      split
      case isTrue aborted =>
        refine .ofEvents _ ?_ asked
        rw [taken, after, after, visit, serve, perform_of_aborted transport aborted]
        rfl
      case isFalse free =>
        have found : Reached transport gate _
            ⟨(gate.after transport events).marked (gate.after transport events).aborted, _⟩ :=
          .passed events call _ (Bool.eq_false_iff.mpr free)
        rwa [marked_self] at found

theorem reached_screen {events : List Event} {call : Call} (raised : Bool)
    (free : (gate.after transport events).aborted = false) :
    Reached transport gate (events.filterMap Event.ask? ++ [.request call])
      (screen ((gate.after transport events).marked raised) call) := by
  have limits := limits_after transport gate events
  have way := screened ((gate.after transport events).marked raised) call
  -- The mark that the host sets meanwhile is not looked at.
  have unseen : (gate.after transport events).marked false = gate.after transport events := by
    rw [← free, marked_self]
  generalize screen ((gate.after transport events).marked raised) call = next at way
  cases way with
  | turnedAway refusal vetted =>
      rw [marked_marked, unseen] at vetted
      refine .ofCall raised ?_
      simp [visit, serve, perform, reject, record, marked, vetted, free]
  | unprepared refusal vetted prepared =>
      rw [marked_marked, unseen] at vetted
      rw [marked_limits] at prepared
      refine .ofCall raised ?_
      simp [visit, serve, perform, carryOut, record, marked, vetted, prepared, free]
  | counted request vetted prepared =>
      rw [marked_marked, unseen] at vetted
      rw [marked_limits, limits] at prepared
      exact .ready events call request raised free vetted prepared

theorem reached_handOver {events : List Event} {call : Call} {request : Prepared} (raised : Bool)
    (free : (gate.after transport events).aborted = false)
    (vetted : (gate.after transport events).vet call = .ok ())
    (prepared : prepare gate.limits call = .ok request) :
    Reached transport gate (events.filterMap Event.ask? ++ [.request call])
      (handOver transport { (gate.after transport events).marked raised with
        used := (gate.after transport events).used + 1 } call request) := by
  rw [← limits_after transport gate events] at prepared
  refine .ofCall raised ?_
  simp [visit, serve, perform, carryOut, dispatch, record, marked, vetted, prepared, free,
    Bool.or_comm]

theorem reached_step {asks : List Ask} {next : Desk} {move : Move}
    (reached : Reached transport gate asks desk) (taken : desk.step? transport move = some next) :
    Reached transport gate (asks ++ move.ask?.toList) next := by
  cases move with
  | abort =>
      cases taken
      simpa [Move.ask?] using reached_abort reached
  | start ask =>
      cases reached with
      | passed | ready => cases taken
      | idle events =>
          cases taken
          exact reached_enter events ask
  | proceed =>
      simp only [Move.ask?, Option.toList_none, List.append_nil]
      cases reached with
      | idle events => cases taken
      | passed events call raised free =>
          cases taken
          exact reached_screen raised free
      | ready events call request raised free vetted prepared =>
          cases taken
          exact reached_handOver raised free vetted prepared

theorem reached_run {asks : List Ask} {final : Desk} {moves : List Move}
    (reached : Reached transport gate asks desk) (ran : desk.run? transport moves = some final) :
    Reached transport gate (asks ++ moves.filterMap Move.ask?) final := by
  induction moves generalizing asks desk with
  | nil =>
      cases ran
      simpa using reached
  | cons move moves ih =>
      obtain ⟨next, taken, rest⟩ := Option.bind_eq_some_iff.mp ran
      have later := ih (reached_step reached taken) rest
      cases asked : move.ask? <;> simpa [asked] using later

/-- When no call is on its way, all is as if calls had never been taken apart. -/
theorem undivided_of_run {moves : List Move} {final : Desk}
    (ran : run? transport ⟨gate, .idle⟩ moves = some final) (idle : final.stage = .idle) :
    ∃ events, events.filterMap Event.ask? = moves.filterMap Move.ask? ∧
      final.gate = gate.after transport events := by
  have reached := reached_run (.idle []) ran
  rw [show ([] : List Event).filterMap Event.ask? = [] from rfl, List.nil_append] at reached
  generalize moves.filterMap Move.ask? = asks at reached
  cases reached with
  | idle events => exact ⟨events, rfl, rfl⟩
  | passed | ready => cases idle

/-- A call that nothing comes in between of does what a call does. -/
theorem run_undivided (transport : Transport) (gate : Gate) (ask : Ask) :
    ∃ count, run? transport ⟨gate, .idle⟩ (.start ask :: List.replicate count .proceed) =
      some ⟨(serve transport gate ask).2, .idle⟩ := by
  cases ask with
  | refuse url method refusal => exact ⟨0, rfl⟩
  | request call =>
      cases raised : gate.aborted with
      | true =>
          refine ⟨0, ?_⟩
          simp [run?, step?, enter, raised, serve, perform_of_aborted transport raised, reject,
            record, LogEntry.ofAborted, Outcome.ofRefusal, Outcome.status?, Outcome.errorName?,
            Refusal.name]
      | false =>
          have unseen : gate.marked false = gate := by rw [← raised, marked_self]
          cases vetted : gate.vet call with
          | error refusal =>
              refine ⟨1, ?_⟩
              simp [run?, step?, enter, raised, screen, unseen, vetted, serve, perform]
          | ok _ =>
              cases prepared : prepare gate.limits call with
              | error refusal =>
                  refine ⟨1, ?_⟩
                  simp [run?, step?, enter, raised, screen, unseen, vetted, prepared, serve, perform,
                    carryOut]
              | ok request =>
                  refine ⟨2, ?_⟩
                  simp [run?, step?, enter, raised, screen, unseen, vetted, prepared, serve, perform,
                    carryOut, handOver, List.replicate]

/-! ### The check of the call on its way -/

theorem call?_step {next : Desk} {move : Move} {call : Call}
    (taken : desk.step? transport move = some next) (found : next.stage.call? = some call) :
    desk.stage.call? = some call ∨
      move = .start (.request call) ∧ desk.stage = .idle ∧ desk.gate.aborted = false := by
  obtain ⟨gate, stage⟩ := desk
  cases move with
  | abort =>
      cases taken
      exact Or.inl found
  | start ask =>
      cases stage with
      | passed | ready => cases taken
      | idle =>
          cases taken
          cases ask with
          | refuse url method refusal => cases found
          | request made =>
              cases raised : gate.aborted with
              | true =>
                  simp only [enter, raised, ↓reduceIte] at found
                  cases found
              | false =>
                  simp only [enter, raised, Bool.false_eq_true, ↓reduceIte] at found
                  cases found
                  exact Or.inr ⟨rfl, rfl, rfl⟩
  | proceed =>
      cases stage with
      | idle => cases taken
      | passed made =>
          cases taken
          have way := screened gate made
          generalize screen gate made = next at way found
          cases way with
          | turnedAway | unprepared => cases found
          | counted => exact Or.inl found
      | ready made request =>
          cases taken
          cases found

/-- The call on its way has looked at the host, and found that it had not given up. -/
theorem checked_of_run {moves : List Move} {final : Desk} {call : Call}
    (ran : desk.run? transport moves = some final) (found : final.stage.call? = some call) :
    desk.stage.call? = some call ∨
      ∃ earlier between met, moves = earlier ++ .start (.request call) :: between ∧
        desk.run? transport earlier = some met ∧ met.gate.aborted = false := by
  induction moves generalizing desk with
  | nil =>
      cases ran
      exact Or.inl found
  | cons move moves ih =>
      obtain ⟨next, taken, rest⟩ := Option.bind_eq_some_iff.mp ran
      rcases ih rest with before | ⟨earlier, between, met, split, reached, free⟩
      · rcases call?_step taken before with already | ⟨rfl, idle, free⟩
        · exact Or.inl already
        · exact Or.inr ⟨[], moves, desk, rfl, rfl, free⟩
      · refine Or.inr ⟨move :: earlier, between, met, by rw [split, List.cons_append], ?_, free⟩
        rw [run?, taken]
        exact reached

theorem Reached.prepared_of_pending {asks : List Ask} {request : Prepared}
    (reached : Reached transport gate asks desk)
    (pending : request ∈ desk.stage.pending desk.gate.limits) :
    ∃ call, desk.stage.call? = some call ∧ prepare gate.limits call = .ok request := by
  cases reached with
  | idle events => cases pending
  | passed events call raised free =>
      refine ⟨call, rfl, ?_⟩
      simp only [Stage.pending, marked_limits, limits_after, Option.mem_toList] at pending
      cases prepared : prepare gate.limits call with
      | error refusal =>
          rw [prepared] at pending
          cases pending
      | ok found =>
          rw [prepared] at pending
          cases pending
          rfl
  | ready events call found raised free vetted prepared =>
      rw [Stage.pending, List.mem_singleton] at pending
      exact ⟨call, rfl, by rw [prepared, pending]⟩

/-- From the moment at which the host gives up, whatever call is on its way then, at most one more request is
handed over, and that is one of a call that had looked before. -/
theorem sent_after_abort {before later : List Move} {met final : Desk}
    (first : run? transport ⟨gate, .idle⟩ before = some met) (raised : met.gate.aborted = true)
    (second : met.run? transport later = some final) :
    ∃ more, final.gate.sent = met.gate.sent ++ more ∧ more.length ≤ 1 ∧
      ∀ request ∈ more, ∃ earlier call between found,
        before = earlier ++ .start (.request call) :: between ∧
        run? transport ⟨gate, .idle⟩ earlier = some found ∧ found.gate.aborted = false ∧
        prepare gate.limits call = .ok request := by
  have winding := winding_run raised second
  obtain ⟨more, grown⟩ := winding.kept
  have within : more <+: met.stage.pending met.gate.limits := by
    have bounded := (List.prefix_append _ _).trans winding.bounded
    rwa [← grown, List.prefix_append_right_inj] at bounded
  refine ⟨more, grown.symm, Nat.le_trans within.length_le (Stage.length_pending _ _), ?_⟩
  intro request member
  have reached := reached_run (.idle []) first
  obtain ⟨call, found, prepared⟩ := reached.prepared_of_pending (within.subset member)
  rcases checked_of_run first found with none | ⟨earlier, between, seen, split, ran, free⟩
  · cases none
  · exact ⟨earlier, call, between, seen, split, ran, free, prepared⟩

end Desk

end ScriptOracle.Gate
