import ScriptOracle.Proofs.Gate.History

/-!
# The quota

A request that meets no objection before the quota is eligible, whatever becomes of it afterwards. The
quota goes to the eligible requests in the order in which they come: the first ones count, all later ones
are told that it is used up, and nothing else counts. The invariant is that the gate has counted as many
requests as were eligible so far, up to the quota.
-/

namespace ScriptOracle.Gate

/-- Whether a visit is a request that passes every check before the quota. -/
def Visit.isEligible (visit : Visit) : Bool :=
  match visit.ask with
  | .request call => (objections visit.met.limits visit.met.aborted call).isEmpty
  | .refuse _ _ _ => false

def eligible (visits : List Visit) : Nat := visits.countP Visit.isEligible

variable {transport : Transport} {gate left : Gate} {ask : Ask} {outcome : Outcome}

/-- The host gave up while one of the requests was under way. -/
def Transport.Interrupted (transport : Transport) (sent : List Prepared) : Prop :=
  ∃ earlier request, earlier ++ [request] <+: sent ∧ transport.interrupts earlier request = true

/-! ## Giving up -/

theorem not_interrupted_nil (transport : Transport) : ¬ transport.Interrupted [] := by
  rintro ⟨earlier, request, handed, _⟩
  simp at handed

theorem interrupted_concat {sent : List Prepared} {request : Prepared} :
    transport.Interrupted (sent ++ [request]) ↔
      transport.Interrupted sent ∨ transport.interrupts sent request = true := by
  constructor
  · rintro ⟨earlier, last, handed, stopped⟩
    rcases List.prefix_concat_iff.mp handed with whole | before
    · obtain ⟨rfl, rfl⟩ := List.append_inj' whole rfl |>.imp id List.singleton_inj.mp
      exact Or.inr stopped
    · exact Or.inl ⟨earlier, last, before, stopped⟩
  · rintro (⟨earlier, last, before, stopped⟩ | stopped)
    · exact ⟨earlier, last, before.trans (List.prefix_append _ _), stopped⟩
    · exact ⟨sent, request, List.prefix_rfl, stopped⟩

theorem Served.aborted_iff {before : Prop} (way : Served transport gate ask outcome left)
    (known : gate.aborted = true ↔ before ∨ transport.Interrupted gate.sent) :
    left.aborted = true ↔ before ∨ transport.Interrupted left.sent := by
  cases way with
  | refused | turnedAway | unprepared => exact known
  | handedOver call request vetted prepared =>
      simp only [record_aborted, record_sent, Bool.or_eq_true]
      rw [known, interrupted_concat, or_assoc]

/-- A gate is aborted exactly when the host has given up, between two asks or during one. -/
theorem aborted_after (transport : Transport) (gate : Gate) (before : Prop) (events : List Event)
    (known : gate.aborted = true ↔ before ∨ transport.Interrupted gate.sent) :
    (gate.after transport events).aborted = true ↔
      (before ∨ .abort ∈ events) ∨ transport.Interrupted (gate.after transport events).sent := by
  induction events generalizing gate before with
  | nil => simpa [after] using known
  | cons event events ih =>
      cases event with
      | ask ask =>
          rw [after, ih _ _ ((served transport gate ask).aborted_iff known)]
          simp
      | abort =>
          have raised : gate.abort.aborted = true ↔
              True ∨ transport.Interrupted gate.abort.sent := by simp [abort]
          rw [after, ih _ _ raised]
          simp

/-! ## One visit -/

theorem isEligible_request {call : Call} :
    Visit.isEligible ⟨.request call, gate, outcome, left⟩ = true ↔
      objections gate.limits gate.aborted call = [] := by
  rw [Visit.isEligible, List.isEmpty_iff]

/-- What was counted after a visit. -/
theorem Served.used_eq (way : Served transport gate ask outcome left) :
    left.used =
      if Visit.isEligible ⟨ask, gate, outcome, left⟩ ∧ gate.used < gate.quota then gate.used + 1
      else gate.used := by
  cases way with
  | refused url method refusal => simp [Visit.isEligible]
  | turnedAway call refusal vetted =>
      have refused : ¬ (objections gate.limits gate.aborted call = [] ∧
          gate.used < gate.quota) := by
        rw [← vet_eq_ok_iff, vetted]
        intro impossible
        cases impossible
      rw [if_neg (by rwa [isEligible_request])]
      rfl
  | unprepared call refusal vetted | handedOver call request vetted =>
      have admitted := vet_eq_ok_iff.mp vetted
      rw [if_pos ⟨isEligible_request.mpr admitted.1, admitted.2⟩]
      rfl

theorem Served.counted_iff (way : Served transport gate ask outcome left) :
    gate.used < left.used ↔
      Visit.isEligible ⟨ask, gate, outcome, left⟩ ∧ gate.used < gate.quota := by
  have used := way.used_eq
  split at used
  case isTrue counted => exact ⟨fun _ => counted, fun _ => by omega⟩
  case isFalse other => exact ⟨fun more => by omega, fun counted => absurd counted other⟩

/-- An eligible request that comes too late is told so, and nothing is sent. -/
theorem Served.exceeded (way : Served transport gate ask outcome left)
    (passes : Visit.isEligible ⟨ask, gate, outcome, left⟩) (spent : gate.quota ≤ gate.used) :
    outcome = .ofRefusal (.quotaExceeded gate.quota) ∧ left.sent = gate.sent := by
  cases way with
  | refused url method refusal => simp [Visit.isEligible] at passes
  | turnedAway call refusal vetted =>
      rw [vet_eq, isEligible_request.mp passes] at vetted
      simp only [if_neg (Nat.not_lt.mpr spent), Except.error.injEq] at vetted
      rw [vetted]
      exact ⟨rfl, rfl⟩
  | unprepared call refusal vetted | handedOver call request vetted =>
      exact absurd (vet_eq_ok_iff.mp vetted).2 (Nat.not_lt.mpr spent)

/-- Any other request is told the first objection, and nothing is sent. -/
theorem Served.objected {call : Call} (way : Served transport gate (.request call) outcome left)
    (fails : ¬ Visit.isEligible ⟨.request call, gate, outcome, left⟩) :
    (∃ refusal, (objections gate.limits gate.aborted call).head? = some refusal ∧
      outcome = .ofRefusal refusal) ∧ left.sent = gate.sent := by
  rw [isEligible_request] at fails
  cases way with
  | turnedAway _ refusal vetted =>
      obtain ⟨first, rest, found⟩ := List.exists_cons_of_ne_nil fails
      rw [vet_eq, found] at vetted
      cases vetted
      exact ⟨⟨refusal, by rw [found, List.head?_cons], rfl⟩, rfl⟩
  | unprepared _ refusal vetted | handedOver _ request vetted =>
      exact absurd (vet_eq_ok_iff.mp vetted).1 fails

/-! ## Runs -/

@[simp] theorem eligible_nil : eligible [] = 0 := rfl

theorem eligible_cons (visit : Visit) (visits : List Visit) :
    eligible (visit :: visits) = eligible visits + if visit.isEligible then 1 else 0 :=
  List.countP_cons

/-- A gate has counted the eligible requests, up to its quota. -/
theorem used_after (transport : Transport) (gate : Gate) (within : gate.used ≤ gate.quota)
    (events : List Event) :
    (gate.after transport events).used =
      min gate.quota (gate.used + eligible (gate.visits transport events)) := by
  -- Every visit leaves another gate, so that the count it starts from is not fixed.
  induction events generalizing gate with
  | nil =>
      rw [after, visits, eligible_nil]
      omega
  | cons event events ih =>
      cases event with
      | abort => exact ih gate.abort within
      | ask ask =>
          have way := served transport gate ask
          have used := way.used_eq
          have quota := way.quota_eq
          have still : (visit transport gate ask).left.used ≤
              (visit transport gate ask).left.quota := by
            split at used <;> omega
          rw [after, visits, ih _ still, eligible_cons, quota]
          by_cases passes : (visit transport gate ask).isEligible
          · rw [if_pos passes]
            by_cases spare : gate.used < gate.quota
            · rw [if_pos ⟨passes, spare⟩] at used
              omega
            · rw [if_neg (fun both => spare both.2)] at used
              omega
          · rw [if_neg passes]
            rw [if_neg (fun both => passes both.1)] at used
            omega

theorem used_fresh_after (transport : Transport) (quota : Nat) (limits : Limits)
    (events : List Event) :
    ((fresh quota limits).after transport events).used =
      min quota (eligible ((fresh quota limits).visits transport events)) := by
  have used := used_after transport (fresh quota limits) (Nat.zero_le _) events
  rwa [show (fresh quota limits).used = 0 from rfl, Nat.zero_add] at used

/-- What the gate that a visit meets knows of the run before it. -/
theorem met_at {quota : Nat} {limits : Limits} {events : List Event} {i : Nat}
    (inside : i < ((fresh quota limits).visits transport events).length) :
    let paid := (fresh quota limits).visits transport events
    Served transport paid[i].met paid[i].ask paid[i].outcome paid[i].left ∧
    paid[i].met.quota = quota ∧ paid[i].met.limits = limits ∧
    paid[i].met.used = min quota (eligible (paid.take i)) ∧
    ∃ earlier rest, events = earlier ++ .ask paid[i].ask :: rest ∧
      (earlier.filterMap Event.ask?).length = i ∧
      (paid[i].met.aborted = true ↔
        .abort ∈ earlier ∨ transport.Interrupted paid[i].met.sent) := by
  intro paid
  obtain ⟨earlier, ask, rest, split, visited, found⟩ := getElem_visits _ inside
  have used := used_fresh_after transport quota limits earlier
  have numbered := congrArg List.length (map_ask_visits transport (fresh quota limits) earlier)
  rw [visited] at used numbered
  rw [List.length_map, List.length_take, Nat.min_eq_left (Nat.le_of_lt inside)] at numbered
  have stopped := aborted_after transport (fresh quota limits) False earlier
    (by simp [fresh, not_interrupted_nil])
  rw [false_or] at stopped
  have same : paid[i] = visit transport ((fresh quota limits).after transport earlier) ask := found
  rw [same]
  exact ⟨served _ _ _, quota_after _ _ _, limits_after _ _ _, used, earlier, rest, split,
    numbered.symm, stopped⟩

/-- Which requests of a run count, and what the others are told. -/
theorem quota_law (transport : Transport) (quota : Nat) (limits : Limits) (events : List Event) :
    let gate := (fresh quota limits).after transport events
    let paid := (fresh quota limits).visits transport events
    gate.used = min quota (eligible paid) ∧
    gate.log.length = paid.length ∧
    ∀ (i : Nat) (inside : i < paid.length),
      paid[i].met.limits = limits ∧
      (∃ earlier rest, events = earlier ++ .ask paid[i].ask :: rest ∧
        (earlier.filterMap Event.ask?).length = i ∧
        (paid[i].met.aborted = true ↔
          .abort ∈ earlier ∨ transport.Interrupted paid[i].met.sent)) ∧
      (gate.log[i]?.map LogEntry.dispatched = some true ↔
        paid[i].isEligible ∧ eligible (paid.take i) < quota) ∧
      (paid[i].isEligible → quota ≤ eligible (paid.take i) →
        paid[i].outcome = .ofRefusal (.quotaExceeded quota) ∧
          paid[i].left.sent = paid[i].met.sent) ∧
      (∀ call, paid[i].ask = .request call → ¬ paid[i].isEligible →
        (∃ refusal, (objections limits paid[i].met.aborted call).head? = some refusal ∧
          paid[i].outcome = .ofRefusal refusal) ∧
        paid[i].left.sent = paid[i].met.sent) := by
  intro gate paid
  have log := log_after transport (fresh quota limits) events
  rw [show (fresh quota limits).log = [] from rfl, List.nil_append] at log
  refine ⟨used_fresh_after transport quota limits events, by rw [log, List.length_map], ?_⟩
  intro i inside
  obtain ⟨way, quota_eq, limits_eq, used, place⟩ := met_at inside
  refine ⟨limits_eq, place, ?counts, ?late, ?fails⟩
  case counts =>
    have entry : gate.log[i]? = some paid[i].entry := by
      rw [log, List.getElem?_map, List.getElem?_eq_getElem inside, Option.map_some]
    have counted := way.counted_iff
    have spare : min quota (eligible (paid.take i)) < quota ↔ eligible (paid.take i) < quota := by
      omega
    rw [quota_eq, used, spare] at counted
    rw [entry, Option.map_some, Option.some.injEq, ← counted, ← used]
    exact decide_eq_true_iff
  case late =>
    intro passes spent
    have full : paid[i].met.quota ≤ paid[i].met.used := by
      rw [quota_eq, used]
      exact Nat.le_min.mpr ⟨Nat.le_refl _, spent⟩
    have late := way.exceeded passes full
    rwa [quota_eq] at late
  case fails =>
    intro call made fails
    rw [made] at way
    have told := way.objected (by rwa [← made])
    rwa [limits_eq] at told

end ScriptOracle.Gate
