/-!
# Computations that may fail

What is known of two computations, the second of which takes the result of the first, when it is known
what they come to.
-/

namespace ScriptOracle

variable {ε α β : Type} {first : Except ε α} {second : α -> Except ε β}

theorem exists_of_bind_eq_ok {b : β} (done : first >>= second = .ok b) :
    ∃ a, first = .ok a ∧ second a = .ok b := by
  cases first with
  | error fault => cases done
  | ok a => exact ⟨a, rfl, done⟩

theorem bind_eq_ok_iff {b : β} : first >>= second = .ok b ↔ ∃ a, first = .ok a ∧ second a = .ok b := by
  refine ⟨exists_of_bind_eq_ok, ?_⟩
  rintro ⟨a, rfl, done⟩
  exact done

theorem or_of_bind_eq_error {fault : ε} (failed : first >>= second = .error fault) :
    first = .error fault ∨ ∃ a, first = .ok a ∧ second a = .error fault := by
  cases first with
  | error other =>
      cases failed
      exact .inl rfl
  | ok a => exact .inr ⟨a, rfl, failed⟩

theorem not_exists_error_eq_ok {fault : ε} : ¬∃ a, (.error fault : Except ε α) = .ok a := by
  rintro ⟨a, done⟩
  cases done

theorem exists_ite_eq_ok {condition : Prop} [Decidable condition] {a : α} {fault : ε} :
    (∃ b, (if condition then .ok a else .error fault : Except ε α) = .ok b) ↔ condition := by
  by_cases holds : condition <;> simp [holds]

theorem eq_ok_of_toOption {a : α} (found : first.toOption = some a) : first = .ok a := by
  cases first with
  | error fault => cases found
  | ok b => exact congrArg Except.ok (Option.some.inj found)

end ScriptOracle
