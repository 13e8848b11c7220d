import ScriptOracle.Proofs.Except

/-!
# Checks in a fixed order

A reader that checks one thing after the other stops at the first that is wrong. What it demands is a list
of labelled conditions: it comes to a result if all of them are met, and otherwise blames the label of the
first that is not. The demands of two readers one after the other are those of the first and then those of
the second.
-/

namespace ScriptOracle

/-- Conditions in order, each under the label that is blamed where it is not met. -/
abbrev Demands := List (String × Prop)

namespace Demands

def Met (demands : Demands) : Prop := ∀ demand ∈ demands, demand.2

/-- The first condition that is not met stands under this label. -/
inductive FirstUnmet : Demands -> String -> Prop where
  | here {label : String} {condition : Prop} {rest : Demands} (unmet : ¬condition) :
      FirstUnmet ((label, condition) :: rest) label
  | later {other label : String} {condition : Prop} {rest : Demands} (met : condition)
      (unmet : FirstUnmet rest label) : FirstUnmet ((other, condition) :: rest) label

variable {demands others : Demands} {label other : String}

theorem met_cons {condition : Prop} : Met ((label, condition) :: demands) ↔ condition ∧ Met demands :=
  List.forall_mem_cons

theorem met_append : Met (demands ++ others) ↔ Met demands ∧ Met others :=
  List.forall_mem_append

theorem FirstUnmet.not_met (unmet : FirstUnmet demands label) : ¬Met demands := by
  induction unmet with
  | here unmet => exact fun met => unmet (met_cons.1 met).1
  | later _ _ ih => exact fun met => ih (met_cons.1 met).2

theorem FirstUnmet.eq (unmet : FirstUnmet demands label) (again : FirstUnmet demands other) :
    label = other := by
  induction unmet with
  | here unmet =>
      cases again with
      | here => rfl
      | later met => exact absurd met unmet
  | later met _ ih =>
      cases again with
      | here unmet => exact absurd met unmet
      | later _ again => exact ih again

theorem FirstUnmet.append_left (unmet : FirstUnmet demands label) : FirstUnmet (demands ++ others) label := by
  induction unmet with
  | here unmet => exact .here unmet
  | later met _ ih => exact .later met ih

theorem FirstUnmet.append_right (met : Met demands) (unmet : FirstUnmet others label) :
    FirstUnmet (demands ++ others) label := by
  induction demands with
  | nil => exact unmet
  | cons demand rest ih => exact .later (met_cons.1 met).1 (ih (met_cons.1 met).2)

/-- The first item of a list that is found wanting. -/
theorem firstUnmet_of_find? {items : List String} {wanting : String -> Bool} {good : String -> Prop}
    (agree : ∀ item, wanting item = true ↔ ¬good item) (found : items.find? wanting = some label) :
    FirstUnmet (items.map fun item => (item, good item)) label := by
  induction items with
  | nil => cases found
  | cons item rest ih =>
      rw [List.find?_cons] at found
      split at found
      next bad =>
        cases found
        exact .here ((agree _).1 bad)
      next fine =>
        have met : good item := Classical.byContradiction fun bad => by simp [(agree item).2 bad] at fine
        exact .later met (ih found)

theorem met_of_find? {items : List String} {wanting : String -> Bool} {good : String -> Prop}
    (agree : ∀ item, wanting item = true ↔ ¬good item) (found : items.find? wanting = none) :
    Met (items.map fun item => (item, good item)) := by
  refine List.forall_mem_map.2 fun item member => Classical.byContradiction fun bad => ?_
  exact List.find?_eq_none.1 found item member ((agree item).2 bad)

end Demands

open Demands (Met FirstUnmet)

/-- A reader comes to a result only if all demands are met, and blames the first that is not. -/
structure Meets {ε α : Type} (blame : ε -> String) (demands : Demands) (result : Except ε α) : Prop where
  met : ∀ a, result = .ok a → Met demands
  unmet : ∀ fault, result = .error fault → FirstUnmet demands (blame fault)

namespace Meets

variable {ε α β : Type} {blame : ε -> String} {demands others : Demands}
  {result : Except ε α} {next : α -> Except ε β}

theorem exists_ok_iff (meets : Meets blame demands result) : (∃ a, result = .ok a) ↔ Met demands := by
  refine ⟨fun ⟨a, done⟩ => meets.met a done, fun met => ?_⟩
  cases result with
  | ok a => exact ⟨a, rfl⟩
  | error fault => exact absurd met (meets.unmet fault rfl).not_met

theorem exists_error_iff (meets : Meets blame demands result) (label : String) :
    (∃ fault, result = .error fault ∧ blame fault = label) ↔ FirstUnmet demands label := by
  constructor
  · rintro ⟨fault, failed, rfl⟩
    exact meets.unmet fault failed
  · intro unmet
    cases result with
    | ok a => exact absurd (meets.met a rfl) unmet.not_met
    | error fault => exact ⟨fault, rfl, (meets.unmet fault rfl).eq unmet⟩

theorem ok {a : α} (met : Met demands) : Meets blame demands (.ok a) where
  met _ _ := met
  unmet _ failed := by cases failed

theorem error {fault : ε} (unmet : FirstUnmet demands (blame fault)) :
    Meets blame demands (.error fault : Except ε α) where
  met _ done := by cases done
  unmet other failed := by
    cases failed
    exact unmet

/-- A reader of one demand. -/
theorem single {label : String} {condition : Prop} (met : (∃ a, result = .ok a) ↔ condition)
    (blamed : ∀ fault, result = .error fault → blame fault = label) :
    Meets blame [(label, condition)] result where
  met a done := Demands.met_cons.2 ⟨met.1 ⟨a, done⟩, List.forall_mem_nil _⟩
  unmet fault failed := by
    rw [blamed fault failed]
    refine .here fun holds => ?_
    obtain ⟨a, done⟩ := met.2 holds
    cases failed.symm.trans done

/-- One reader after the other. -/
theorem bind (first : Meets blame demands result)
    (second : ∀ a, result = .ok a → Meets blame others (next a)) :
    Meets blame (demands ++ others) (result >>= next) := by
  cases result with
  | ok a =>
      have met := first.met a rfl
      have second := second a rfl
      exact {
        met := fun b done => Demands.met_append.2 ⟨met, second.met b done⟩
        unmet := fun fault failed => (second.unmet fault failed).append_right met }
  | error fault => exact .error (first.unmet fault rfl).append_left

/-- A reader of one demand before others. -/
theorem cons {demand : String × Prop} (first : Meets blame [demand] result)
    (second : ∀ a, result = .ok a → Meets blame others (next a)) :
    Meets blame (demand :: others) (result >>= next) :=
  first.bind second

end Meets

end ScriptOracle
