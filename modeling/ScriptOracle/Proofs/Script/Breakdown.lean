import Mathlib.Data.List.Perm.Subperm
import Mathlib.Logic.Relation
import ScriptOracle.Proofs.Except
import ScriptOracle.Script.Data

/-!
# Values that break the host down

Taking the data of a value goes into objects, only so deep as there are objects. It breaks down over a
value that holds `undefined`, however deep inside, or an object that holds itself, and over nothing else;
over such a value it always does, unless a bigint or a symbol stops it before.
-/

namespace ScriptOracle.Script

/-! ## What a value holds -/

def Property.value? : Property -> Option Value
  | .data value _ => some value
  | .accessor _ _ => none

/-- The places of an object whose data is taken with it, with their values: the items of a list, the
properties of any other object. Items that are missing and properties that are computed have none. -/
def Object.places (object : Object) : List (Option Value) :=
  match object.kind with
  | .list items => items.toList
  | _ => (ordered object.fields).map fun field => field.2.value?

/-- Whether a value is that of a place of an object. -/
def Heap.Part (heap : Heap) (value part : Value) : Prop :=
  ∃ ref, value = .object ref ∧ some part ∈ (heap.get ref).places

/-- Whether a value is another one, or an object with a part that holds it. -/
abbrev Heap.Holds (heap : Heap) : Value -> Value -> Prop := Relation.ReflTransGen heap.Part

/-- Whether an object has a part that holds the object. -/
abbrev Heap.HoldsItself (heap : Heap) (value : Value) : Prop :=
  Relation.TransGen heap.Part value value

/-- Whether a value holds `undefined`, or an object that holds itself. -/
def Heap.Breaks (heap : Heap) (value : Value) : Prop :=
  heap.Holds value .undefined ∨ ∃ inner, heap.Holds value inner ∧ heap.HoldsItself inner

/-- Whether nothing that a value holds is without data for a reason of its own. -/
def Heap.Plain (heap : Heap) (value : Value) : Prop :=
  ∀ inner, heap.Holds value inner -> inner ≠ .symbol ∧ ∀ n, inner ≠ .bigint n

variable {heap : Heap} {depth : Nat} {ref : Ref} {value part : Value} {obstacle : Obstacle}
  {json : Json}

/-- A value that breaks the host down is `undefined`, or does so because of a part. -/
theorem Heap.Breaks.cases (breaks : heap.Breaks value) :
    value = .undefined ∨ ∃ part, heap.Part value part ∧ heap.Breaks part := by
  rcases breaks with undefined | ⟨inner, holds, itself⟩
  · rcases undefined.cases_head with same | ⟨part, here, rest⟩
    · exact .inl same
    · exact .inr ⟨part, here, .inl rest⟩
  · rcases holds.cases_head with rfl | ⟨part, here, rest⟩
    · -- An object that holds itself has a part that holds the object, and with it the part.
      obtain ⟨part, here, back⟩ := Relation.TransGen.head'_iff.mp itself
      exact .inr ⟨part, here, .inr ⟨value, back, itself⟩⟩
    · exact .inr ⟨part, here, .inr ⟨inner, rest, itself⟩⟩

theorem Heap.Plain.of_part (plain : heap.Plain value) (here : heap.Part value part) :
    heap.Plain part :=
  fun inner holds => plain inner (holds.head here)

/-- Objects outside the heap have no parts. -/
theorem lt_size_of_part (here : heap.Part (.object ref) part) : ref < heap.objects.size := by
  obtain ⟨ref, same, member⟩ := here
  cases same
  by_contra outside
  simp [Heap.get, Array.getD, outside, Object.places, Object.ordered, Object.indexed] at member

/-! ## Taking the data of the parts -/

section

variable {convert : Value -> Except Obstacle Json}

theorem exists_item_of_error {items : List (Option Value)}
    (stopped : itemsToJson convert items = .error obstacle) :
    ∃ item, some item ∈ items ∧ convert item = .error obstacle := by
  induction items with
  | nil => cases stopped
  | cons first rest ih =>
      have later (stopped : itemsToJson convert rest = .error obstacle) :
          ∃ item, some item ∈ first :: rest ∧ convert item = .error obstacle := by
        obtain ⟨item, member, found⟩ := ih stopped
        exact ⟨item, .tail _ member, found⟩
      cases first with
      | none =>
          rcases or_of_bind_eq_error stopped with others | ⟨_, _, impossible⟩
          · exact later others
          · cases impossible
      | some item =>
          rcases or_of_bind_eq_error stopped with here | ⟨_, _, behind⟩
          · exact ⟨item, .head _, here⟩
          rcases or_of_bind_eq_error behind with others | ⟨_, _, impossible⟩
          · exact later others
          · cases impossible

theorem item_of_ok {items : List (Option Value)} {values : List Json}
    (done : itemsToJson convert items = .ok values) :
    ∀ item, some item ∈ items -> ∃ json, convert item = .ok json := by
  induction items generalizing values with
  | nil =>
      intro item member
      cases member
  | cons first rest ih =>
      intro item member
      cases first with
      | none =>
          obtain ⟨others, done, -⟩ := exists_of_bind_eq_ok done
          rcases List.mem_cons.mp member with same | later
          · cases same
          · exact ih done item later
      | some first =>
          obtain ⟨json, here, behind⟩ := exists_of_bind_eq_ok done
          obtain ⟨others, done, -⟩ := exists_of_bind_eq_ok behind
          rcases List.mem_cons.mp member with same | later
          · cases same
            exact ⟨json, here⟩
          · exact ih done item later

/-- The values of fields are converted as items are. -/
theorem map_fieldsToJson (fields : List (Units × Property)) :
    (fieldsToJson convert fields).map (List.map Prod.snd) =
      itemsToJson convert (fields.map fun field => field.2.value?) := by
  induction fields with
  | nil => rfl
  | cons field rest ih =>
      obtain ⟨name, property⟩ := field
      rw [List.map_cons]
      cases property with
      | accessor getter setter =>
          rw [fieldsToJson, Property.value?, itemsToJson, ← ih]
          cases fieldsToJson convert rest <;> rfl
      | data value writable =>
          rw [fieldsToJson, Property.value?, itemsToJson, ← ih]
          cases convert value with
          | error other => rfl
          | ok json => cases fieldsToJson convert rest <;> rfl

end

/-- The data of an object is that of its places, if it is asked only whether there is any. -/
theorem map_toJson_object (heap : Heap) (depth : Nat) (ref : Ref) :
    (heap.toJson (depth + 1) (.object ref)).map (fun _ => ()) =
      (itemsToJson (heap.toJson depth) (heap.get ref).places).map fun _ => () := by
  rw [Heap.toJson, Object.places]
  generalize heap.get ref = object
  obtain ⟨kind, proto, fields⟩ := object
  cases kind with
  | list items =>
      dsimp only
      cases itemsToJson (heap.toJson depth) items.toList <;> rfl
  | _ =>
      dsimp only
      rw [← map_fieldsToJson]
      cases fieldsToJson (heap.toJson depth) (Object.ordered fields) <;> rfl

theorem exists_part_of_error
    (stopped : heap.toJson (depth + 1) (.object ref) = .error obstacle) :
    ∃ part, heap.Part (.object ref) part ∧ heap.toJson depth part = .error obstacle := by
  have same := map_toJson_object heap depth ref
  rw [stopped] at same
  cases converted : itemsToJson (heap.toJson depth) (heap.get ref).places with
  | ok values =>
      rw [converted] at same
      cases same
  | error other =>
      rw [converted] at same
      cases same
      obtain ⟨part, member, found⟩ := exists_item_of_error converted
      exact ⟨part, ⟨ref, rfl, member⟩, found⟩

theorem part_of_ok (done : heap.toJson (depth + 1) (.object ref) = .ok json)
    (here : heap.Part (.object ref) part) : ∃ json, heap.toJson depth part = .ok json := by
  have same := map_toJson_object heap depth ref
  rw [done] at same
  obtain ⟨_, found, member⟩ := here
  cases found
  cases converted : itemsToJson (heap.toJson depth) (heap.get ref).places with
  | error other =>
      rw [converted] at same
      cases same
  | ok values => exact item_of_ok converted part member

/-! ## What stands in the way -/

/-- The host breaks down over `undefined`, or after a way through as many objects as it may follow. Each
holds those behind it, and has parts, so that it is in the heap. -/
theorem refs_of_breakdown (stopped : heap.toJson depth value = .error .breakdown) :
    heap.Holds value .undefined ∨ ∃ refs : List Ref, refs.length = depth ∧
      refs.Pairwise (fun outer inner =>
        Relation.TransGen heap.Part (.object outer) (.object inner)) ∧
      ∀ ref ∈ refs, heap.Holds value (.object ref) ∧ ref < heap.objects.size := by
  induction depth generalizing value with
  | zero =>
      cases value with
      | undefined => exact .inl .refl
      | object ref => exact .inr ⟨[], rfl, .nil, List.forall_mem_nil _⟩
      | _ => cases stopped
  | succ depth ih =>
      cases value with
      | undefined => exact .inl .refl
      | object ref =>
          obtain ⟨part, here, stopped⟩ := exists_part_of_error stopped
          rcases ih stopped with undefined | ⟨refs, length, pairs, inside⟩
          · exact .inl (undefined.head here)
          · refine .inr ⟨ref :: refs, by rw [List.length_cons, length], .cons ?_ pairs, ?_⟩
            · intro inner member
              exact Relation.TransGen.head' here (inside inner member).1
            · rintro inner (_ | ⟨_, member⟩)
              · exact ⟨.refl, lt_size_of_part here⟩
              · exact ⟨(inside inner member).1.head here, (inside inner member).2⟩
      | _ => cases stopped

/-- The host breaks down over nothing else. -/
theorem breaks_of_breakdown (stopped : heap.data value = .error .breakdown) :
    heap.Breaks value := by
  rcases refs_of_breakdown stopped with undefined | ⟨refs, length, pairs, inside⟩
  · exact .inl undefined
  by_contra sound
  -- There are more objects on the way than there are in the heap, so that one of them comes twice.
  have distinct : refs.Nodup := by
    refine pairs.imp_of_mem fun {outer inner} first second holds same => ?_
    subst same
    exact sound (.inr ⟨_, (inside outer first).1, holds⟩)
  have few : refs.length ≤ (List.range heap.objects.size).length :=
    (distinct.subperm fun ref member => List.mem_range.mpr (inside ref member).2).length_le
  rw [length, List.length_range] at few
  omega

/-- A value that breaks the host down has no data, however deep it is followed. -/
theorem ne_ok_of_breaks (breaks : heap.Breaks value) : heap.toJson depth value ≠ .ok json := by
  intro done
  induction depth generalizing value json with
  | zero =>
      rcases breaks.cases with rfl | ⟨part, ⟨ref, rfl, member⟩, rest⟩ <;> cases done
  | succ depth ih =>
      rcases breaks.cases with rfl | ⟨part, ⟨ref, rfl, member⟩, rest⟩
      · cases done
      · obtain ⟨json, done⟩ := part_of_ok done ⟨ref, rfl, member⟩
        exact ih rest done

theorem obstacle_of_plain (plain : heap.Plain value)
    (stopped : heap.toJson depth value = .error obstacle) : obstacle = .breakdown := by
  induction depth generalizing value with
  | zero =>
      cases value with
      | symbol => exact absurd rfl (plain _ .refl).1
      | bigint n => exact absurd rfl ((plain _ .refl).2 n)
      | _ => cases stopped <;> rfl
  | succ depth ih =>
      cases value with
      | symbol => exact absurd rfl (plain _ .refl).1
      | bigint n => exact absurd rfl ((plain _ .refl).2 n)
      | object ref =>
          obtain ⟨part, here, stopped⟩ := exists_part_of_error stopped
          exact ih (plain.of_part here) stopped
      | _ => cases stopped <;> rfl

/-- Which values break the host down, of those that hold no bigint and no symbol. -/
theorem breakdown_iff (plain : heap.Plain value) :
    heap.data value = .error .breakdown ↔ heap.Breaks value := by
  refine ⟨breaks_of_breakdown, fun breaks => ?_⟩
  rw [Heap.data]
  cases found : heap.toJson (heap.objects.size + 1) value with
  | ok json => exact absurd found (ne_ok_of_breaks breaks)
  | error obstacle => rw [obstacle_of_plain plain found]

end ScriptOracle.Script
