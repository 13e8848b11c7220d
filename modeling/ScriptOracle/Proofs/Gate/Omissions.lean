import ScriptOracle.Proofs.Gate.History

/-!
# Leaving out what did not count

An ask that does not count leaves a gate as it was, but for one more entry in the log, and nothing that a
gate does depends on its log. So what did not count may be left out of a run, and nobody can tell from the
rest: not the transport, not the count, and not the asks that stay. Only the entries of what was left out are
missing.
-/

namespace ScriptOracle.Gate

def leaveOut {α : Type} (omitted : Nat → Bool) : List α → List α
  | [] => []
  | item :: rest =>
    let others := leaveOut (fun place => omitted (place + 1)) rest
    if omitted 0 then others else item :: others

theorem leaveOut_cons_of_omitted {α : Type} {omitted : Nat → Bool} (dropped : omitted 0 = true)
    (item : α) (rest : List α) :
    leaveOut omitted (item :: rest) = leaveOut (fun place => omitted (place + 1)) rest :=
  if_pos dropped

theorem leaveOut_cons_of_kept {α : Type} {omitted : Nat → Bool} (stays : ¬omitted 0 = true)
    (item : α) (rest : List α) :
    leaveOut omitted (item :: rest) = item :: leaveOut (fun place => omitted (place + 1)) rest :=
  if_neg stays

theorem leaveOut_map {α β : Type} (f : α → β) (omitted : Nat → Bool) (items : List α) :
    leaveOut omitted (items.map f) = (leaveOut omitted items).map f := by
  induction items generalizing omitted with
  | nil => rfl
  | cons item rest ih =>
      by_cases dropped : omitted 0 = true
      · rw [List.map_cons, leaveOut_cons_of_omitted dropped, leaveOut_cons_of_omitted dropped, ih]
      · rw [List.map_cons, leaveOut_cons_of_kept dropped, leaveOut_cons_of_kept dropped, ih,
          List.map_cons]

def withLog (gate : Gate) (log : List LogEntry) : Gate := { gate with log := log }

variable {transport : Transport} {gate left : Gate} {ask : Ask} {outcome : Outcome}

/-! ## One ask -/

/-- What is not counted changes nothing but the log. -/
theorem Served.left_of_uncounted (way : Served transport gate ask outcome left)
    (uncounted : ¬gate.used < left.used) :
    left = gate.withLog (gate.log ++ [Visit.entry ⟨ask, gate, outcome, left⟩]) := by
  have log := way.log_eq
  cases way with
  | refused | turnedAway =>
      rw [← log]
      rfl
  | unprepared | handedOver => exact absurd (Nat.lt_succ_self _) uncounted

/-- An ask can go in one way only. -/
theorem Served.visit_eq (way : Served transport gate ask outcome left) :
    visit transport gate ask = ⟨ask, gate, outcome, left⟩ := by
  cases way with
  | refused => rfl
  | turnedAway call refusal vetted => simp only [visit, serve, perform, vetted, reject]
  | unprepared call refusal vetted prepared =>
      simp only [visit, serve, perform, vetted, carryOut, prepared]
  | handedOver call request vetted prepared =>
      simp only [visit, serve, perform, vetted, carryOut, prepared, dispatch]

/-- What the log says changes nothing of the way an ask goes, but for the log. -/
theorem Served.withLog (way : Served transport gate ask outcome left) (log : List LogEntry) :
    Served transport (gate.withLog log) ask outcome
      (left.withLog (log ++ [Visit.entry ⟨ask, gate, outcome, left⟩])) := by
  have entry := way.log_eq
  cases way with
  | refused url method refusal =>
      rw [← List.append_cancel_left entry]
      exact .refused url method refusal
  | turnedAway call refusal vetted =>
      rw [← List.append_cancel_left entry]
      exact .turnedAway call refusal vetted
  | unprepared call refusal vetted prepared =>
      rw [← List.append_cancel_left entry]
      exact .unprepared call refusal vetted prepared
  | handedOver call request vetted prepared =>
      rw [← List.append_cancel_left entry]
      exact .handedOver call request vetted prepared

/-! ## Runs -/

/-- The places that are left out are those of visits that were not counted. -/
def Spares (omitted : Nat → Bool) (paid : List Visit) : Prop :=
  ∀ (i : Nat) (visit : Visit), paid[i]? = some visit → omitted i = true → visit.isCounted = false

theorem Spares.tail {omitted : Nat → Bool} {first : Visit} {paid : List Visit}
    (spares : Spares omitted (first :: paid)) : Spares (fun place => omitted (place + 1)) paid :=
  fun i visit found left => spares (i + 1) visit (by rwa [List.getElem?_cons_succ]) left

/-- What was not counted may be left out of a run, whatever the log said before it. -/
theorem run_leaveOut (transport : Transport) (gate : Gate) (log : List LogEntry) (asks : List Ask)
    (omitted : Nat → Bool) (spares : Spares omitted (gate.visits transport (asks.map .ask))) :
    let paid := leaveOut omitted (gate.visits transport (asks.map .ask))
    let rest := (leaveOut omitted asks).map .ask
    (gate.withLog log).after transport rest =
        (gate.after transport (asks.map .ask)).withLog (log ++ paid.map Visit.entry) ∧
      ((gate.withLog log).visits transport rest).map (fun visit => (visit.ask, visit.outcome)) =
        paid.map fun visit => (visit.ask, visit.outcome) := by
  induction asks generalizing gate log omitted with
  | nil => simp [leaveOut, after, visits]
  | cons ask asks ih =>
      have way := served transport gate ask
      simp only [List.map_cons, visits, after] at spares ⊢
      by_cases dropped : omitted 0 = true
      · rw [leaveOut_cons_of_omitted dropped, leaveOut_cons_of_omitted dropped]
        -- The gate that is left is the one that was met, so that the rest starts from there.
        have same := way.left_of_uncounted (of_decide_eq_false (spares 0 _ rfl dropped))
        have start : gate.withLog log = (visit transport gate ask).left.withLog log := by rw [same]; rfl
        rw [start]
        exact ih _ log _ spares.tail
      · rw [leaveOut_cons_of_kept dropped, leaveOut_cons_of_kept dropped]
        obtain ⟨left, outcomes⟩ :=
          ih _ (log ++ [(visit transport gate ask).entry]) _ spares.tail
        simp only [List.map_cons, after, visits, (way.withLog log).visit_eq]
        rw [List.append_assoc] at left
        exact ⟨left, congrArg _ outcomes⟩

/-- What was not counted may be left out of a run. The same requests are handed over, the asks that stay have
the same outcomes, the same number is counted, and the log lacks no other entries. -/
theorem omission_unnoticed (transport : Transport) (quota : Nat) (limits : Limits) (asks : List Ask)
    (omitted : Nat → Bool)
    (uncounted : ∀ i visit, ((fresh quota limits).visits transport (asks.map .ask))[i]? = some visit →
      omitted i = true → visit.isCounted = false) :
    let whole := (fresh quota limits).after transport (asks.map .ask)
    let paid := (fresh quota limits).visits transport (asks.map .ask)
    let rest := (fresh quota limits).after transport ((leaveOut omitted asks).map .ask)
    let stayed := (fresh quota limits).visits transport ((leaveOut omitted asks).map .ask)
    rest.sent = whole.sent ∧
    stayed.map (fun visit => (visit.ask, visit.outcome)) =
      leaveOut omitted (paid.map fun visit => (visit.ask, visit.outcome)) ∧
    rest.used = whole.used ∧
    rest.log = leaveOut omitted whole.log := by
  intro whole paid rest stayed
  obtain ⟨left, outcomes⟩ := run_leaveOut transport (fresh quota limits) [] asks omitted uncounted
  have log := log_after transport (fresh quota limits) (asks.map .ask)
  have same : rest = whole.withLog ((leaveOut omitted paid).map Visit.entry) := left
  refine ⟨by rw [same]; rfl, outcomes.trans (leaveOut_map _ _ _).symm, by rw [same]; rfl, ?_⟩
  rw [same, show whole.log = paid.map Visit.entry from log, leaveOut_map]
  rfl

/-- A call with too long a time limit, something that is no request and a call behind the quota are left out,
while the answers tell how many requests came before. -/
theorem omission_unnoticed_alternating :
    let transport : Transport := ⟨fun earlier _ => .ok ⟨200 + earlier.length, [], []⟩, fun _ _ => false⟩
    let asks : List Ask := [.request { Call.get "https://a.b/" with timeoutMs := 9001 },
      .request (.get "https://a.b/1"), .refuse "" "get" (.invalidRequest "no record"),
      .request (.get "https://a.b/2"), .request (.get "https://a.b/3")]
    let omitted : Nat → Bool := fun place => place % 2 == 0
    let whole := (fresh 2 .usual).after transport (asks.map .ask)
    let rest := (fresh 2 .usual).after transport ((leaveOut omitted asks).map .ask)
    (∀ i visit, ((fresh 2 .usual).visits transport (asks.map .ask))[i]? = some visit →
      omitted i = true → visit.isCounted = false) ∧
    whole.log.map (·.error) = [some "TimeoutTooLarge", none, some "InvalidRequest", none,
      some "QuotaExceeded"] ∧
    rest.log.map (·.status) = [some 200, some 201] ∧
    rest.sent = whole.sent ∧ rest.used = whole.used ∧ rest.log = leaveOut omitted whole.log := by
  intro transport asks omitted whole rest
  have counted : ((fresh 2 .usual).visits transport (asks.map .ask)).map Visit.isCounted =
      [false, true, false, true, false] := by decide +kernel
  have uncounted : ∀ i visit, ((fresh 2 .usual).visits transport (asks.map .ask))[i]? = some visit →
      omitted i = true → visit.isCounted = false := by
    intro i visit found even
    have mark : [false, true, false, true, false][i]? = some visit.isCounted := by
      rw [← counted, List.getElem?_map, found, Option.map_some]
    match i with
    | 0 | 2 | 4 => exact (Option.some.inj mark).symm
    | 1 | 3 => exact absurd even (by decide)
    | i + 5 => cases mark
  obtain ⟨sent, -, used, log⟩ := omission_unnoticed transport 2 .usual asks omitted uncounted
  exact ⟨uncounted, by decide +kernel, by decide +kernel, sent, used, log⟩

end ScriptOracle.Gate
