import Mathlib.Data.List.Basic
import ScriptOracle.Json.Basic

/-!
# Fields in order

Sorting puts names into ascending order, and fields whose names ascend are left as they are. The same is
true of writing fields one after the other when no name comes twice.
-/

namespace ScriptOracle.Fields

variable {α : Type}

/-- The names ascend, so that none comes twice. -/
def Ascending (fields : Fields α) : Prop := (names fields).Pairwise (· < ·)

theorem Ascending.nodup {fields : Fields α} (ascending : fields.Ascending) :
    (names fields).Nodup := by
  refine List.Pairwise.imp ?_ ascending
  rintro name _ below rfl
  exact String.lt_irrefl name below

theorem lt_of_ne_of_not_lt {a b : String} (other : a ≠ b) (above : ¬b < a) : a < b := by
  rcases String.le_total a b with le | le
  · exact Std.lt_of_le_of_ne le other
  · exact absurd (Std.lt_of_le_of_ne le (Ne.symm other)) above

theorem not_mem_names_cons {field : String × α} {rest : Fields α} {name : String} :
    name ∉ names (field :: rest) ↔ field.1 ≠ name ∧ name ∉ names rest := by
  rw [names, List.map_cons, List.mem_cons, not_or, ne_comm]
  rfl

/-! ## Looking up -/

theorem mem_of_get? {fields : Fields α} {name : String} {value : α}
    (found : fields.get? name = some value) : (name, value) ∈ fields := by
  induction fields with
  | nil => cases found
  | cons field rest ih =>
      obtain ⟨key, first⟩ := field
      rw [get?_cons] at found
      split at found
      next same =>
        subst same
        cases found
        exact List.mem_cons_self
      next => exact List.mem_cons_of_mem _ (ih found)

theorem get?_eq_none {fields : Fields α} {name : String} (absent : name ∉ names fields) :
    fields.get? name = none :=
  Option.eq_none_iff_forall_ne_some.2 fun _ found =>
    absent (List.mem_map.2 ⟨_, mem_of_get? found, rfl⟩)

/-- If no name comes twice, every field is found. -/
theorem get?_eq_some_iff {fields : Fields α} (distinct : (names fields).Nodup) {name : String}
    {value : α} : fields.get? name = some value ↔ (name, value) ∈ fields := by
  refine ⟨mem_of_get?, fun member => ?_⟩
  induction fields with
  | nil => cases member
  | cons field rest ih =>
      obtain ⟨key, first⟩ := field
      obtain ⟨fresh, others⟩ := List.nodup_cons.1 distinct
      rw [get?_cons]
      rcases List.mem_cons.1 member with same | later
      · cases same
        exact if_pos rfl
      · have other : key ≠ name := by
          rintro rfl
          exact fresh (List.mem_map.2 ⟨_, later, rfl⟩)
        rw [if_neg other, ih others later]

/-- If no name comes twice, the order of the fields does not matter. -/
theorem get?_of_perm {fields others : Fields α} (distinct : (names fields).Nodup)
    (same : fields.Perm others) (name : String) : fields.get? name = others.get? name := by
  have distinctOthers : (names others).Nodup := (same.map Prod.fst).nodup_iff.1 distinct
  refine Option.ext fun value => ?_
  rw [get?_eq_some_iff distinct, get?_eq_some_iff distinctOthers, same.mem_iff]

theorem get?_append (fields others : Fields α) (name : String) :
    get? (fields ++ others) name = (get? fields name).or (get? others name) := by
  induction fields with
  | nil => rfl
  | cons field fields ih =>
      rw [List.cons_append, get?, get?, ih]
      split <;> rfl

/-- A field is no part of what is found under other names. -/
theorem get?_insert_of_ne {before after : Fields α} {name asked : String} (value : α)
    (other : name ≠ asked) :
    get? (before ++ (name, value) :: after) asked = get? (before ++ after) asked := by
  rw [get?_append, get?_append, get?_cons, if_neg other]

theorem get?_append_cons {before after : Fields α} {name : String} (value : α)
    (fresh : name ∉ names before) :
    get? (before ++ (name, value) :: after) name = some value := by
  induction before with
  | nil => exact if_pos rfl
  | cons field before ih =>
      obtain ⟨other, others⟩ := not_mem_names_cons.1 fresh
      rw [List.cons_append, get?, if_neg other, ih others]

/-! ## Taking out -/

/-- The last field goes first. -/
def lastFirst (fields : Fields α) : Fields α :=
  match fields.getLast? with
  | none => []
  | some last => last :: fields.dropLast

@[simp] theorem lastFirst_append_singleton (fields : Fields α) (last : String × α) :
    lastFirst (fields ++ [last]) = last :: fields := by
  rw [lastFirst, List.getLast?_concat, List.dropLast_concat]

theorem perm_lastFirst (fields : Fields α) : (lastFirst fields).Perm fields := by
  rcases List.eq_nil_or_concat fields with rfl | ⟨front, last, rfl⟩
  · exact List.Perm.nil
  · rw [List.concat_eq_append, lastFirst_append_singleton]
    exact (List.perm_append_singleton last front).symm

theorem swapRemove_append {before after : Fields α} {name : String} (value : α)
    (fresh : name ∉ names before) :
    swapRemove (before ++ (name, value) :: after) name = before ++ lastFirst after := by
  induction before with
  | nil =>
      rw [List.nil_append, List.nil_append, swapRemove, if_pos rfl]
      rfl
  | cons field before ih =>
      obtain ⟨other, others⟩ := not_mem_names_cons.1 fresh
      rw [List.cons_append, List.cons_append, swapRemove, if_neg other, ih others]

/-! ## Sorting -/

theorem mem_names_putSorted {fields : Fields α} {name other : String} {value : α} :
    other ∈ names (putSorted fields name value) ↔ other = name ∨ other ∈ names fields := by
  induction fields with
  | nil => simp [putSorted, names]
  | cons field rest ih =>
      obtain ⟨key, old⟩ := field
      rw [putSorted]
      split
      next same =>
        subst same
        simp [names]
      next =>
        split
        next => simp [names]
        next =>
          show other ∈ key :: names (putSorted rest name value) ↔ other = name ∨ other ∈ key :: names rest
          rw [List.mem_cons, ih, List.mem_cons]
          exact or_left_comm

theorem Ascending.putSorted {fields : Fields α} (ascending : fields.Ascending) (name : String)
    (value : α) : (fields.putSorted name value).Ascending := by
  induction fields with
  | nil => exact List.pairwise_singleton _ _
  | cons field rest ih =>
      obtain ⟨key, old⟩ := field
      obtain ⟨above, others⟩ := List.pairwise_cons.1 ascending
      rw [Fields.putSorted]
      split
      next same => exact ascending
      next other =>
        split
        next below =>
          refine List.pairwise_cons.2 ⟨List.forall_mem_cons.2 ⟨below, ?_⟩, ascending⟩
          exact fun name member => String.lt_trans below (above name member)
        next notBelow =>
          refine List.pairwise_cons.2 ⟨?_, ih others⟩
          intro next member
          rcases mem_names_putSorted.1 member with rfl | old
          · exact lt_of_ne_of_not_lt other notBelow
          · exact above next old

theorem ascending_sorted (fields : Fields α) : (sorted fields).Ascending := by
  have fold : ∀ soFar : Fields α, soFar.Ascending →
      (fields.foldl (fun sorted pair => putSorted sorted pair.1 pair.2) soFar).Ascending := by
    induction fields with
    | nil => exact fun _ ascending => ascending
    | cons field rest ih => exact fun _ ascending => ih _ (ascending.putSorted _ _)
  exact fold [] List.Pairwise.nil

/-! ## Fields that are in order already -/

/-- If every field comes to stand at the end, the fields are built as they are. -/
theorem foldl_eq_self {step : Fields α -> String × α -> Fields α} {fields : Fields α}
    (grows : ∀ front pair back, fields = front ++ pair :: back → step front pair = front ++ [pair]) :
    fields.foldl step [] = fields := by
  have fold : ∀ back front, fields = front ++ back → back.foldl step front = fields := by
    intro back
    induction back with
    | nil => intro front whole; rw [List.foldl_nil, whole, List.append_nil]
    | cons pair back ih =>
        intro front whole
        rw [List.foldl_cons, grows front pair back whole]
        exact ih _ (by rw [whole, List.append_assoc, List.singleton_append])
  exact fold fields [] rfl

theorem putSorted_of_lt {fields : Fields α} {name : String} (value : α)
    (last : ∀ key ∈ names fields, key < name) :
    putSorted fields name value = fields ++ [(name, value)] := by
  induction fields with
  | nil => rfl
  | cons field rest ih =>
      obtain ⟨below, others⟩ := List.forall_mem_cons.1 last
      rw [putSorted, if_neg (fun same => String.lt_irrefl _ (same ▸ below)),
        if_neg (String.lt_asymm below), ih others, List.cons_append]

theorem put_of_not_mem {fields : Fields α} {name : String} (value : α)
    (fresh : name ∉ names fields) : put fields name value = fields ++ [(name, value)] := by
  induction fields with
  | nil => rfl
  | cons field rest ih =>
      obtain ⟨other, others⟩ := not_mem_names_cons.1 fresh
      rw [put, if_neg other, ih others, List.cons_append]

theorem sorted_of_ascending {fields : Fields α} (ascending : fields.Ascending) :
    sorted fields = fields := by
  refine foldl_eq_self fun front pair back whole => putSorted_of_lt _ ?_
  rw [Ascending, names, whole, List.map_append] at ascending
  exact fun key member => (List.pairwise_append.1 ascending).2.2 key member _ List.mem_cons_self

theorem sorted_sorted (fields : Fields α) : sorted (sorted fields) = sorted fields :=
  sorted_of_ascending (ascending_sorted fields)

/-! ## Fields in another order -/

theorem perm_putSorted {fields : Fields α} {name : String} (value : α) (fresh : name ∉ names fields) :
    (putSorted fields name value).Perm ((name, value) :: fields) := by
  induction fields with
  | nil => exact .refl _
  | cons field rest ih =>
      obtain ⟨other, others⟩ := not_mem_names_cons.1 fresh
      rw [putSorted, if_neg other]
      split
      next => exact .refl _
      next => exact ((ih others).cons field).trans (.swap _ _ _)

/-- If no name comes twice, none of the fields is lost. -/
theorem perm_sorted {fields : Fields α} (distinct : (names fields).Nodup) : (sorted fields).Perm fields := by
  have fold : ∀ (rest soFar : Fields α), (names (rest ++ soFar)).Nodup →
      (rest.foldl (fun sorted pair => putSorted sorted pair.1 pair.2) soFar).Perm (rest ++ soFar) := by
    intro rest
    induction rest with
    | nil => exact fun soFar _ => .refl soFar
    | cons field rest ih =>
        intro soFar distinct
        have fresh : field.1 ∉ names soFar := fun member => by
          refine (List.nodup_cons.1 distinct).1 (List.map_append ▸ ?_)
          exact List.mem_append_right _ member
        have put : (rest ++ putSorted soFar field.1 field.2).Perm (field :: (rest ++ soFar)) :=
          ((perm_putSorted field.2 fresh).append_left rest).trans List.perm_middle
        exact (ih _ ((put.map Prod.fst).nodup_iff.2 distinct)).trans put
  exact (fold fields [] (by rwa [List.append_nil])).trans (by rw [List.append_nil])

theorem sorted_of_perm {fields others : Fields α} (distinct : (names fields).Nodup)
    (same : fields.Perm others) : sorted others = sorted fields := by
  have distinctOthers : (names others).Nodup := (same.map Prod.fst).nodup_iff.1 distinct
  have reordered : (sorted others).Perm (sorted fields) :=
    ((perm_sorted distinctOthers).trans same.symm).trans (perm_sorted distinct).symm
  have below (fields : Fields α) : (sorted fields).Pairwise fun first second => first.1 < second.1 :=
    List.pairwise_map.1 (ascending_sorted fields)
  exact reordered.eq_of_pairwise
    (fun first second _ _ less greater => absurd less (String.lt_asymm greater)) (below others) (below fields)

theorem ofList_of_nodup {fields : Fields α} (distinct : (names fields).Nodup) :
    ofList fields = fields := by
  refine foldl_eq_self fun front pair back whole => put_of_not_mem _ ?_
  rw [names, whole, List.map_append] at distinct
  exact fun member => (List.nodup_append.1 distinct).2.2 _ member _ List.mem_cons_self rfl

end ScriptOracle.Fields
