import ScriptOracle.Script.Capability

/-!
# What stays in the heap

Objects are added behind those that are there, and writing a property changes neither the other properties of
its object nor what the object is. So a property that was written once is found until it is written again,
and a function stays the function it is.
-/

namespace ScriptOracle.Script

/-! ## Properties -/

namespace Object

theorem find?_write_self (name : Units) (property : Property) (fields : List (Units × Property)) :
    find? name (write name property fields) = some property := by
  induction fields with
  | nil => exact if_pos rfl
  | cons field rest ih =>
      obtain ⟨key, old⟩ := field
      rw [write]
      split
      next same => exact if_pos same
      next other => exact (if_neg other).trans ih

theorem find?_write_of_ne {name other : Units} (differs : other ≠ name) (property : Property)
    (fields : List (Units × Property)) :
    find? name (write other property fields) = find? name fields := by
  induction fields with
  | nil => exact if_neg differs
  | cons field rest ih =>
      obtain ⟨key, old⟩ := field
      rw [write]
      split
      next same =>
        have neither : ¬ key = name := fun found => differs (same.symm.trans found)
        exact (if_neg neither).trans (if_neg neither).symm
      next => rw [find?, find?, ih]

end Object

namespace Heap

variable {heap other last : Heap} {ref place : Ref} {name key : Units} {property : Property}
  {text : String} {natives : List (String × Native × Nat)} {native : Native}

/-! ## Objects -/

theorem get_alloc (heap : Heap) (object : Object) :
    (heap.alloc object).1.get (heap.alloc object).2 = object := by
  simp [alloc, get, Array.getD]

theorem get_alloc_of_lt (inside : ref < heap.objects.size) (object : Object) :
    (heap.alloc object).1.get ref = heap.get ref := by
  simp [alloc, get, Array.getD, inside, Nat.lt_succ_of_lt inside, Array.getElem_push_lt inside]

theorem get_modify_self (inside : ref < heap.objects.size) (change : Object -> Object) :
    (heap.modify ref change).get ref = change (heap.get ref) := by
  simp [modify, get, Array.getD, inside, Array.getElem_modify]

theorem get_modify_of_ne (differs : place ≠ ref) (change : Object -> Object) :
    (heap.modify place change).get ref = heap.get ref := by
  simp [modify, get, Array.getD, Array.getElem_modify, differs]

@[simp] theorem size_alloc (heap : Heap) (object : Object) :
    (heap.alloc object).1.objects.size = heap.objects.size + 1 := Array.size_push _

@[simp] theorem size_put (heap : Heap) (ref : Ref) (name : Units) (property : Property) :
    (heap.put ref name property).objects.size = heap.objects.size := Array.size_modify

theorem get_put_self (inside : ref < heap.objects.size) (name : Units) (property : Property) :
    (heap.put ref name property).get ref = (heap.get ref).put name property :=
  get_modify_self inside _

theorem get_put_of_ne (differs : place ≠ ref) (name : Units) (property : Property) :
    (heap.put place name property).get ref = heap.get ref :=
  get_modify_of_ne differs _

theorem kind_get_put (heap : Heap) (place : Ref) (name : Units) (property : Property) (ref : Ref) :
    ((heap.put place name property).get ref).kind = (heap.get ref).kind := by
  by_cases same : place = ref
  · subst same
    by_cases inside : place < heap.objects.size
    · rw [get_put_self inside]
      rfl
    · rw [get, get, Array.getD_eq_getD_getElem?, Array.getD_eq_getD_getElem?,
        Array.getElem?_eq_none (by rw [size_put]; exact Nat.not_lt.1 inside),
        Array.getElem?_eq_none (Nat.not_lt.1 inside)]
  · rw [get_put_of_ne same]

/-! ## What a change spares -/

/-- A change takes nothing away, and leaves objects what they are. -/
structure Grows (heap other : Heap) : Prop where
  size : heap.objects.size ≤ other.objects.size
  kind : ∀ place < heap.objects.size, (other.get place).kind = (heap.get place).kind

/-- Besides, a change spares a property of an object. -/
structure Spares (ref : Ref) (name : Units) (heap other : Heap) : Prop extends Grows heap other where
  fields : ref < heap.objects.size ->
    Object.find? name (other.get ref).fields = Object.find? name (heap.get ref).fields

theorem Grows.refl (heap : Heap) : Grows heap heap := ⟨Nat.le_refl _, fun _ _ => rfl⟩

theorem Grows.trans (first : Grows heap other) (second : Grows other last) : Grows heap last where
  size := Nat.le_trans first.size second.size
  kind place inside := (second.kind place (Nat.lt_of_lt_of_le inside first.size)).trans
    (first.kind place inside)

theorem Spares.refl (heap : Heap) : Spares ref name heap heap := ⟨.refl heap, fun _ => rfl⟩

theorem Spares.trans (first : Spares ref name heap other) (second : Spares ref name other last) :
    Spares ref name heap last where
  toGrows := first.toGrows.trans second.toGrows
  fields inside := (second.fields (Nat.lt_of_lt_of_le inside first.size)).trans (first.fields inside)

theorem grows_alloc (heap : Heap) (object : Object) : Grows heap (heap.alloc object).1 where
  size := by rw [size_alloc]; exact Nat.le_succ _
  kind place inside := by rw [get_alloc_of_lt inside]

theorem spares_alloc (heap : Heap) (object : Object) : Spares ref name heap (heap.alloc object).1 where
  toGrows := grows_alloc heap object
  fields inside := by rw [get_alloc_of_lt inside]

theorem grows_put (heap : Heap) (place : Ref) (key : Units) (property : Property) :
    Grows heap (heap.put place key property) where
  size := Nat.le_of_eq (size_put heap place key property).symm
  kind other _ := kind_get_put heap place key property other

/-- Writing spares all other objects, and all other properties. -/
theorem spares_put (differs : place ≠ ref ∨ key ≠ name) (heap : Heap) (property : Property) :
    Spares ref name heap (heap.put place key property) where
  toGrows := grows_put heap place key property
  fields inside := by
    by_cases same : place = ref
    · subst same
      rw [get_put_self inside]
      exact Object.find?_write_of_ne (differs.resolve_left fun other => other rfl) _ _
    · rw [get_put_of_ne same]

theorem spares_addNative (differs : place ≠ ref ∨ Units.ofText text ≠ name) (heap : Heap)
    (native : Native) (arity : Nat) :
    Spares ref name heap (heap.addNative place text native arity) :=
  (spares_alloc heap _).trans (spares_put differs _ _)

theorem spares_addNatives
    (differs : ∀ entry ∈ natives, place ≠ ref ∨ Units.ofText entry.1 ≠ name) (heap : Heap) :
    Spares ref name heap (heap.addNatives place natives) := by
  induction natives generalizing heap with
  | nil => exact .refl heap
  | cons entry rest ih =>
      obtain ⟨here, others⟩ := List.forall_mem_cons.1 differs
      exact (spares_addNative here heap _ _).trans (ih others _)

theorem spares_addObject (inside : ref < heap.objects.size) (natives : List (String × Native × Nat)) :
    Spares ref name heap (Capability.addObject heap natives).1 :=
  (spares_alloc heap _).trans (spares_addNatives (fun _ _ => .inl (Nat.ne_of_gt inside)) _)

mutual

theorem grows_ofJson (heap : Heap) : (data : Json) -> Grows heap (heap.ofJson data).1
  | .null | .bool _ | .integer _ | .double _ | .string _ => .refl heap
  | .array items => (grows_ofItems heap items).trans (grows_alloc _ _)
  | .object fields => (grows_ofFields heap fields).trans (grows_alloc _ _)

theorem grows_ofItems (heap : Heap) : (items : List Json) -> Grows heap (heap.ofItems items).1
  | [] => .refl heap
  | item :: rest => (grows_ofJson heap item).trans (grows_ofItems _ rest)

theorem grows_ofFields (heap : Heap) :
    (fields : List (String × Json)) -> Grows heap (heap.ofFields fields).1
  | [] => .refl heap
  | (_, item) :: rest => (grows_ofJson heap item).trans (grows_ofFields _ rest)

end

/-! ## What an object has -/

/-- The place of an object that is neither a list nor bytes, and no function. -/
structure IsPlain (heap : Heap) (ref : Ref) : Prop where
  inside : ref < heap.objects.size
  kind : (heap.get ref).kind = .plain

structure Owns (heap : Heap) (ref : Ref) (name : Units) (property : Property) : Prop
    extends heap.IsPlain ref where
  found : Object.find? name (heap.get ref).fields = some property

theorem IsPlain.grown (plain : heap.IsPlain ref) (grows : Grows heap other) : other.IsPlain ref where
  inside := Nat.lt_of_lt_of_le plain.inside grows.size
  kind := (grows.kind ref plain.inside).trans plain.kind

theorem Owns.spared (owns : heap.Owns ref name property) (spares : Spares ref name heap other) :
    other.Owns ref name property where
  toIsPlain := owns.toIsPlain.grown spares.toGrows
  found := (spares.fields owns.inside).trans owns.found

/-- A property of its own hides all that an object takes from others. -/
theorem property?_of_own? (own : (heap.get ref).own? name = some property) :
    heap.property? ref name = some property := by
  rw [property?, lookup?]
  simp only [own]

theorem Owns.property?_eq (owns : heap.Owns ref name property) :
    heap.property? ref name = some property := by
  have own : (heap.get ref).own? name = some property := by
    rw [Object.own?, owns.kind]
    exact owns.found
  exact property?_of_own? own

theorem isPlain_alloc (heap : Heap) (proto : Ref) :
    (heap.alloc (.ofKind .plain proto)).1.IsPlain (heap.alloc (.ofKind .plain proto)).2 where
  inside := by rw [size_alloc]; exact Nat.lt_succ_self _
  kind := by rw [get_alloc]; rfl

theorem owns_put (plain : heap.IsPlain ref) (name : Units) (property : Property) :
    (heap.put ref name property).Owns ref name property where
  inside := by rw [size_put]; exact plain.inside
  kind := (kind_get_put heap ref name property ref).trans plain.kind
  found := by
    rw [get_put_self plain.inside]
    exact Object.find?_write_self _ _ _

theorem function?_of_kind {function : Function} (found : (heap.get ref).kind = .function function) :
    heap.function? (.object ref) = some function := by
  rw [function?, found]

/-- A native function stays one. -/
theorem function?_grown {callee : Value} (found : heap.function? callee = some (.native native))
    (grows : Grows heap other) : other.function? callee = some (.native native) := by
  cases callee with
  | object place =>
      have inside : place < heap.objects.size := by
        refine Decidable.byContradiction fun outside => ?_
        simp [function?, get, Array.getD, outside] at found
      rw [function?] at found ⊢
      rw [grows.kind place inside]
      exact found
  | _ => cases found

/-- A plain object with a native function as a property. -/
structure Serves (heap : Heap) (ref : Ref) (name : Units) (native : Native) : Prop where
  owns : ∃ callee, heap.Owns ref name (.data callee true) ∧
    heap.function? callee = some (.native native)

theorem Serves.spared (serves : heap.Serves ref name native) (spares : Spares ref name heap other) :
    other.Serves ref name native := by
  obtain ⟨callee, owns, found⟩ := serves.owns
  exact ⟨callee, owns.spared spares, function?_grown found spares.toGrows⟩

theorem serves_addNative (plain : heap.IsPlain ref) (text : String) (native : Native) (arity : Nat) :
    (heap.addNative ref text native arity).Serves ref (Units.ofText text) native := by
  have kind : ((heap.addNative ref text native arity).get heap.objects.size).kind =
      .function (.native native) :=
    (kind_get_put _ ref _ _ _).trans (congrArg Object.kind (get_alloc heap _))
  refine ⟨_, owns_put (plain.grown (grows_alloc heap _)) _ _, ?_⟩
  exact function?_of_kind kind

theorem serves_addNatives (plain : heap.IsPlain ref) {text : String} {arity : Nat}
    (distinct : (natives.map fun entry => Units.ofText entry.1).Nodup)
    (member : (text, native, arity) ∈ natives) :
    (heap.addNatives ref natives).Serves ref (Units.ofText text) native := by
  induction natives generalizing heap with
  | nil => cases member
  | cons entry rest ih =>
      obtain ⟨fresh, others⟩ := List.nodup_cons.1 distinct
      rcases List.mem_cons.1 member with rfl | later
      · refine (serves_addNative plain text native arity).spared (spares_addNatives ?_ _)
        exact fun entry inside => .inr fun same => fresh (List.mem_map.2 ⟨entry, inside, same⟩)
      · obtain ⟨_, owns, -⟩ := (serves_addNative plain entry.1 entry.2.1 entry.2.2).owns
        exact ih owns.toIsPlain others later

/-! ## The functions that send requests -/

theorem isPlain_start : Heap.start.IsPlain Root.global.ref := by
  have found : (match (Heap.start.get Root.global.ref).kind with
    | .plain => true
    | _ => false) = true := by decide +kernel
  refine ⟨by decide +kernel, ?_⟩
  split at found
  next plain => exact plain
  next => cases found

/-- What is added behind the object `Functions`: a function and an object, with names of their own. -/
theorem spares_rest (inside : ref < heap.objects.size) (logging : Bool)
    (notRequire : Root.global.ref ≠ ref ∨ Units.ofText "require" ≠ name)
    (notConsole : Root.global.ref ≠ ref ∨ Units.ofText "console" ≠ name) :
    let required := heap.addNative Root.global.ref "require" .require 1
    let console := Capability.addObject required (Capability.consoleFunctions logging)
    Spares ref name heap (console.1.addGlobal "console" console.2 true) := by
  intro required console
  have first : Spares ref name heap required := spares_addNative notRequire heap .require 1
  have second : Spares ref name required console.1 :=
    spares_addObject (Nat.lt_of_lt_of_le inside first.size) _
  exact (first.trans second).trans (spares_put notConsole _ _)

/-- Behind all that is added, the object `Functions` is there with each of its functions. -/
theorem serves_addObject (plain : heap.IsPlain Root.global.ref) (logging : Bool) {arity : Nat}
    (member : (text, native, arity) ∈ Capability.functions) :
    let added := Capability.addObject heap Capability.functions
    let named := added.1.addGlobal "Functions" added.2 false
    let required := named.addNative Root.global.ref "require" .require 1
    let console := Capability.addObject required (Capability.consoleFunctions logging)
    let last := console.1.addGlobal "console" console.2 true
    ∃ functions, last.Owns Root.global.ref (Units.ofText "Functions") (.data (.object functions) false) ∧
      last.Serves functions (Units.ofText text) native := by
  intro added named required console last
  have apart : Root.global.ref ≠ heap.objects.size := Nat.ne_of_lt plain.inside
  have served : added.1.Serves heap.objects.size (Units.ofText text) native :=
    serves_addNatives (isPlain_alloc heap _) (by decide) member
  have still : Spares Root.global.ref [] heap added.1 := spares_addObject plain.inside _
  have owned : named.Owns Root.global.ref (Units.ofText "Functions") (.data added.2 false) :=
    owns_put (plain.grown still.toGrows) _ _
  have servedNamed : named.Serves heap.objects.size (Units.ofText text) native :=
    served.spared (spares_put (.inl apart) _ _)
  obtain ⟨_, placed, -⟩ := servedNamed.owns
  exact ⟨_, owned.spared (spares_rest owned.inside logging (.inr (by decide)) (.inr (by decide))),
    servedNamed.spared (spares_rest placed.inside logging (.inl apart) (.inl apart))⟩

end Heap

/-! ## Properties that are read -/

section

variable {heap : Heap} {ref : Ref} {name : Units}

theorem getProperty_read {property : Property} (found : heap.property? ref name = some property)
    (after : Heap -> Except Halt Value -> Act) :
    getProperty (.object ref) name heap after = property.read (.object ref) heap after := by
  rw [getProperty, getFrom]
  simp only [bind, Task.bind, Task.look, found]

/-- A property that holds a value is no act of its own. -/
theorem getProperty_object {value : Value} {writable : Bool}
    (found : heap.property? ref name = some (.data value writable))
    (after : Heap -> Except Halt Value -> Act) :
    getProperty (.object ref) name heap after = after heap (.ok value) := getProperty_read found after

end

end ScriptOracle.Script
