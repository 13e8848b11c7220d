import ScriptOracle.Proofs.Json.Fields
import ScriptOracle.Proofs.Script.Texts
import ScriptOracle.Script.Machine

/-!
# What a script is given

A run starts with the arguments and the secrets of the caller in its heap. As long as they are not written
over, a script that encodes an argument or a secret gets the UTF-8 form of what the caller gave, whatever
characters are in it and whatever its secret is called.
-/

namespace ScriptOracle.Script

def Object.ofArgs (args : List String) : Object :=
  .ofKind (.list (args.map fun text => some (Value.ofText text)).toArray) Root.list.ref

def Object.ofSecrets (secrets : Fields String) : Object :=
  ⟨.plain, some Root.object.ref,
    secrets.map fun secret => (Units.ofText secret.1, .data (.ofText secret.2) true)⟩

namespace Heap

variable {heap other last : Heap} {ref place : Ref} {object : Object}

/-! ## Objects that are left alone -/

structure Stores (heap : Heap) (ref : Ref) (object : Object) : Prop where
  inside : ref < heap.objects.size
  found : heap.get ref = object

/-- A change leaves the object at a place as it is. -/
structure Leaves (ref : Ref) (heap other : Heap) : Prop where
  size : heap.objects.size ≤ other.objects.size
  same : ref < heap.objects.size → other.get ref = heap.get ref

theorem Stores.left (stores : heap.Stores ref object) (leaves : Leaves ref heap other) :
    other.Stores ref object where
  inside := Nat.lt_of_lt_of_le stores.inside leaves.size
  found := (leaves.same stores.inside).trans stores.found

theorem stores_alloc (heap : Heap) (object : Object) :
    (heap.alloc object).1.Stores (heap.alloc object).2 object where
  inside := by rw [size_alloc]; exact Nat.lt_succ_self _
  found := get_alloc heap object

theorem Leaves.refl (heap : Heap) : Leaves ref heap heap := ⟨Nat.le_refl _, fun _ => rfl⟩

theorem Leaves.trans (first : Leaves ref heap other) (second : Leaves ref other last) :
    Leaves ref heap last where
  size := Nat.le_trans first.size second.size
  same inside := (second.same (Nat.lt_of_lt_of_le inside first.size)).trans (first.same inside)

theorem leaves_alloc (heap : Heap) (object : Object) : Leaves ref heap (heap.alloc object).1 where
  size := by rw [size_alloc]; exact Nat.le_succ _
  same inside := get_alloc_of_lt inside object

theorem leaves_allocScope (heap : Heap) (scope : Scope) :
    Leaves ref heap (heap.allocScope scope).1 := ⟨Nat.le_refl _, fun _ => rfl⟩

theorem leaves_put (differs : place ≠ ref) (heap : Heap) (name : Units) (property : Property) :
    Leaves ref heap (heap.put place name property) where
  size := Nat.le_of_eq (size_put heap place name property).symm
  same _ := get_put_of_ne differs name property

theorem leaves_addNative (differs : place ≠ ref) (heap : Heap) (name : String) (native : Native)
    (arity : Nat) : Leaves ref heap (heap.addNative place name native arity) :=
  (leaves_alloc heap _).trans (leaves_put differs _ _ _)

theorem leaves_addNatives (differs : place ≠ ref) (heap : Heap)
    (natives : List (String × Native × Nat)) : Leaves ref heap (heap.addNatives place natives) := by
  induction natives generalizing heap with
  | nil => exact .refl heap
  | cons entry rest ih => exact (leaves_addNative differs heap _ _ _).trans (ih _)

theorem leaves_addObject (inside : ref < heap.objects.size) (natives : List (String × Native × Nat)) :
    Leaves ref heap (Capability.addObject heap natives).1 :=
  (leaves_alloc heap _).trans (leaves_addNatives (Nat.ne_of_gt inside) _ _)

/-- What leaves all objects as they are spares all properties. -/
theorem spares_of_leaves {name : Units} (leaves : ∀ place, Leaves place heap other) :
    Spares ref name heap other where
  size := (leaves ref).size
  kind place inside := congrArg Object.kind ((leaves place).same inside)
  fields inside := by rw [(leaves ref).same inside]

/-! ## Texts as objects -/

theorem ofItems_strings (heap : Heap) (texts : List String) :
    heap.ofItems (texts.map .string) = (heap, texts.map .ofText) := by
  induction texts with
  | nil => rfl
  | cons text texts ih =>
      rw [List.map_cons, ofItems, ofJson]
      dsimp only
      rw [ih]
      rfl

theorem ofJson_ofStrings (heap : Heap) (texts : List String) :
    heap.ofJson (.ofStrings texts) = heap.allocValue (.ofArgs texts) := by
  rw [Json.ofStrings, ofJson, ofItems_strings]
  simp only [allocList, Object.ofArgs, List.map_map]
  rfl

theorem ofFields_strings (heap : Heap) (fields : Fields String) :
    heap.ofFields (fields.map fun field => (field.1, .string field.2)) =
      (heap, (Object.ofSecrets fields).fields) := by
  induction fields with
  | nil => rfl
  | cons field fields ih =>
      rw [List.map_cons, ofFields, ofJson]
      dsimp only
      rw [ih]
      rfl

theorem ofJson_ofStringFields (heap : Heap) (fields : Fields String) :
    heap.ofJson (.ofStringFields fields) = heap.allocValue (.ofSecrets fields) := by
  rw [Json.ofStringFields, ofJson, ofFields_strings]
  rfl

/-! ## Names that are not declared -/

/-- Neither a scope nor one around it declares a name. -/
inductive Free (heap : Heap) (name : String) : Nat -> Prop
  | outermost {place : Nat} {scope : Scope} (found : heap.scopes[place]? = some scope)
      (absent : scope.names.lookup name = none) (last : scope.parent = none) : Free heap name place
  | inner {place outer : Nat} {scope : Scope} (found : heap.scopes[place]? = some scope)
      (absent : scope.names.lookup name = none) (next : scope.parent = some outer)
      (free : Free heap name outer) : Free heap name place

theorem Free.inScope?_eq {name : String} {scope : Nat} (free : heap.Free name scope) (fuel : Nat) :
    heap.inScope? name fuel scope = none := by
  induction free generalizing fuel with
  | outermost found absent last =>
      cases fuel with
      | zero => rfl
      | succ fuel => simp only [inScope?, found, absent, last]
  | inner found absent next _ ih =>
      cases fuel with
      | zero => rfl
      | succ fuel =>
          simp only [inScope?, found, absent, next]
          exact ih fuel

theorem Free.find?_eq {name : String} {scope : Nat} (free : heap.Free name scope) :
    heap.find? scope name = none := free.inScope?_eq _

/-- Only scopes declare names. -/
theorem Free.congr {name : String} {scope : Nat} (free : heap.Free name scope)
    (same : other.scopes = heap.scopes) : other.Free name scope := by
  induction free with
  | outermost found absent last => exact .outermost (same ▸ found) absent last
  | inner found absent next _ ih => exact .inner (same ▸ found) absent next ih

/-- A new scope declares nothing for those around it. -/
theorem Free.allocScope {name : String} {scope : Nat} (free : heap.Free name scope) (opened : Scope) :
    (heap.allocScope opened).1.Free name scope := by
  have kept {place : Nat} {scope : Scope} (found : heap.scopes[place]? = some scope) :
      (heap.allocScope opened).1.scopes[place]? = some scope := by
    obtain ⟨inside, same⟩ := Array.getElem?_eq_some_iff.1 found
    exact (Array.getElem?_push_lt inside).trans (congrArg some same)
  induction free with
  | outermost found absent last => exact .outermost (kept found) absent last
  | inner found absent next _ ih => exact .inner (kept found) absent next ih

theorem Free.opened {name : String} {scope : Nat} (free : heap.Free name scope)
    {names : List (String × Binding)} (absent : names.lookup name = none) :
    (heap.allocScope ⟨names, some scope⟩).1.Free name (heap.allocScope ⟨names, some scope⟩).2 :=
  .inner Array.getElem?_push_size absent rfl (free.allocScope _)

/-! ## What is found -/

/-- From a scope a script finds arguments, secrets and the function that encodes texts. -/
structure Shows (heap : Heap) (scope : Nat) (args : List String) (secrets : Fields String) : Prop where
  args : ∃ ref, heap.Owns Root.global.ref (Units.ofText "args") (.data (.object ref) false) ∧
    heap.Stores ref (.ofArgs args)
  secrets : ∃ ref, heap.Owns Root.global.ref (Units.ofText "secrets") (.data (.object ref) false) ∧
    heap.Stores ref (.ofSecrets secrets)
  functions : ∃ ref, heap.Owns Root.global.ref (Units.ofText "Functions") (.data (.object ref) false) ∧
    heap.Serves ref (Units.ofText "encodeString") (.encode .text)
  free : ∀ name ∈ ["args", "secrets", "Functions"], heap.Free name scope

variable {scope : Nat} {args : List String} {secrets : Fields String}

/-- Adding to the heap hides nothing, as long as no name is declared. -/
theorem Shows.kept {inner : Nat} (shows : heap.Shows scope args secrets)
    (leaves : ∀ ref, Leaves ref heap other)
    (free : ∀ name, heap.Free name scope -> name ∈ ["args", "secrets", "Functions"] ->
      other.Free name inner) : other.Shows inner args secrets where
  args := by
    obtain ⟨ref, owns, stores⟩ := shows.args
    exact ⟨ref, owns.spared (spares_of_leaves leaves), stores.left (leaves ref)⟩
  secrets := by
    obtain ⟨ref, owns, stores⟩ := shows.secrets
    exact ⟨ref, owns.spared (spares_of_leaves leaves), stores.left (leaves ref)⟩
  functions := by
    obtain ⟨ref, owns, serves⟩ := shows.functions
    exact ⟨ref, owns.spared (spares_of_leaves leaves), serves.spared (spares_of_leaves leaves)⟩
  free name member := free name (shows.free name member) member

theorem Shows.alloc (shows : heap.Shows scope args secrets) (object : Object) :
    (heap.alloc object).1.Shows scope args secrets :=
  shows.kept (fun _ => leaves_alloc heap object) fun _ free _ => free.congr rfl

theorem Shows.opened (shows : heap.Shows scope args secrets) {names : List (String × Binding)}
    (absent : ∀ name ∈ ["args", "secrets", "Functions"], names.lookup name = none) :
    (heap.allocScope ⟨names, some scope⟩).1.Shows (heap.allocScope ⟨names, some scope⟩).2 args secrets :=
  shows.kept (fun _ => leaves_allocScope heap _) fun name free member => free.opened (absent name member)

/-! ## The start of a run -/

theorem scopes_addNative (heap : Heap) (ref : Ref) (name : String) (native : Native) (arity : Nat) :
    (heap.addNative ref name native arity).scopes = heap.scopes := rfl

theorem scopes_addNatives (heap : Heap) (ref : Ref) (natives : List (String × Native × Nat)) :
    (heap.addNatives ref natives).scopes = heap.scopes := by
  induction natives generalizing heap with
  | nil => rfl
  | cons entry rest ih => exact ih _

/-- Adds an object of native functions under a name of its own. -/
def withObject (heap : Heap) (name : String) (natives : List (String × Native × Nat))
    (writable : Bool) : Heap :=
  (Capability.addObject heap natives).1.addGlobal name (Capability.addObject heap natives).2 writable

/-- Adds what stands behind the secrets. -/
def withFunctions (heap : Heap) (logging : Bool) : Heap :=
  ((heap.withObject "Functions" Capability.functions false).addNative Root.global.ref "require" .require
    1).withObject "console" (Capability.consoleFunctions logging) true

variable {text : String} {natives : List (String × Native × Nat)} {writable : Bool}

theorem scopes_withObject : (heap.withObject text natives writable).scopes = heap.scopes :=
  scopes_addNatives _ _ _

theorem scopes_withFunctions (heap : Heap) (logging : Bool) :
    (heap.withFunctions logging).scopes = heap.scopes := by
  rw [withFunctions, scopes_withObject, scopes_addNative, scopes_withObject]

theorem leaves_withObject (inside : ref < heap.objects.size) (apart : Root.global.ref ≠ ref) :
    Leaves ref heap (heap.withObject text natives writable) :=
  (leaves_addObject inside natives).trans (leaves_put apart _ _ _)

theorem leaves_withFunctions (inside : ref < heap.objects.size) (apart : Root.global.ref ≠ ref)
    (logging : Bool) : Leaves ref heap (heap.withFunctions logging) := by
  have first : Leaves ref heap
      ((heap.withObject "Functions" Capability.functions false).addNative Root.global.ref "require"
        .require 1) :=
    (leaves_withObject inside apart).trans (leaves_addNative apart _ _ _ _)
  exact first.trans (leaves_withObject (Nat.lt_of_lt_of_le inside first.size) apart)

theorem spares_withFunctions {name : Units} (inside : Root.global.ref < heap.objects.size)
    (other : ∀ text ∈ ["Functions", "require", "console"], Units.ofText text ≠ name) (logging : Bool) :
    Spares Root.global.ref name heap (heap.withFunctions logging) := by
  have first : Spares Root.global.ref name heap (heap.withObject "Functions" Capability.functions false) :=
    (spares_addObject inside _).trans (spares_put (.inr (other _ (by decide))) _ _)
  exact first.trans (spares_rest (Nat.lt_of_lt_of_le inside first.size) logging
    (.inr (other _ (by decide))) (.inr (other _ (by decide))))

/-- What the caller gave is put in front of a script that has declared nothing. -/
theorem shows_install (plain : heap.IsPlain Root.global.ref) (alone : heap.scopes = #[⟨[], none⟩])
    (args : List String) (secrets : Option (Fields String)) (logging : Bool) :
    (Capability.install heap ⟨args, secrets, logging⟩).Shows 0 args (secrets.getD []) := by
  simp only [Capability.install, ofJson_ofStrings, ofJson_ofStringFields]
  let place := heap.objects.size
  let withArgs := (heap.alloc (.ofArgs args)).1.addGlobal "args" (.object place) false
  let later := withArgs.objects.size
  let withBoth := (withArgs.alloc (.ofSecrets (secrets.getD []))).1.addGlobal "secrets" (.object later) false
  change (withBoth.withFunctions logging).Shows 0 args _
  have apart : Root.global.ref ≠ place := Nat.ne_of_lt plain.inside
  have named : withArgs.Owns Root.global.ref (Units.ofText "args") (.data (.object place) false) :=
    owns_put (plain.grown (grows_alloc _ _)) _ _
  have stored : withArgs.Stores place (.ofArgs args) :=
    (stores_alloc heap _).left (leaves_put apart _ _ _)
  have apartToo : Root.global.ref ≠ later := Nat.ne_of_lt named.inside
  have namedToo : withBoth.Owns Root.global.ref (Units.ofText "secrets") (.data (.object later) false) :=
    owns_put (named.toIsPlain.grown (grows_alloc _ _)) _ _
  have storedToo : withBoth.Stores later (.ofSecrets (secrets.getD [])) :=
    (stores_alloc withArgs _).left (leaves_put apartToo _ _ _)
  have still : withBoth.Owns Root.global.ref (Units.ofText "args") (.data (.object place) false) :=
    named.spared ((spares_alloc _ _).trans (spares_put (.inr (by decide)) _ _))
  have kept : withBoth.Stores place (.ofArgs args) :=
    stored.left ((leaves_alloc _ _).trans (leaves_put apart _ _ _))
  have served : ("encodeString", .encode .text, 1) ∈ Capability.functions := by
    simp [Capability.functions]
  exact
    { args := ⟨place, still.spared (spares_withFunctions still.inside (by decide) logging),
        kept.left (leaves_withFunctions kept.inside apart logging)⟩
      secrets := ⟨later, namedToo.spared (spares_withFunctions still.inside (by decide) logging),
        storedToo.left (leaves_withFunctions storedToo.inside apartToo logging)⟩
      functions := serves_addObject namedToo.toIsPlain logging served
      free := fun name _ => by
        have scopes : (withBoth.withFunctions logging).scopes = #[⟨[], none⟩] :=
          (scopes_withFunctions _ _).trans alone
        exact .outermost (congrArg (·[0]?) scopes) rfl rfl }

end Heap

end ScriptOracle.Script
