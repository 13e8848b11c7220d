import Mathlib.Data.List.Induction
import ScriptOracle.Sandbox.Disk

/-!
# Places on the way of a path

In a tree every entry stands in a directory. A path is followed from place to place, and `Disk.stops` are the
places at which it is looked what stands there. Where the path leads depends on these alone: it leads to the
same place in every tree that agrees on them, and to no directory once nothing stands at one of them.
-/

namespace ScriptOracle.Sandbox

/-- Whether a path leads from a place to something below it. -/
def Below (place path : Path) : Prop := place <+: path ∧ place ≠ path

instance (place path : Path) : Decidable (Below place path) :=
  inferInstanceAs (Decidable (_ ∧ _))

theorem below_iff {place path : Path} : Below place path ↔ ∃ name rest, path = place ++ name :: rest := by
  constructor
  · rintro ⟨⟨rest, rfl⟩, differs⟩
    cases rest with
    | nil => exact absurd (List.append_nil place).symm differs
    | cons name rest => exact ⟨name, rest, rfl⟩
  · rintro ⟨name, rest, rfl⟩
    exact ⟨List.prefix_append place _, by simp⟩

theorem below_append_singleton (place : Path) (name : String) : Below place (place ++ [name]) :=
  below_iff.2 ⟨name, [], rfl⟩

theorem not_below_nil (place : Path) : ¬ Below place [] := by
  rintro ⟨within, differs⟩
  exact differs (List.prefix_nil.1 within)

/-- What is below something below a place is below the place. -/
theorem Below.deeper {place path other : Path} (below : Below place path) (within : path <+: other) :
    Below place other := by
  obtain ⟨name, rest, rfl⟩ := below_iff.1 below
  obtain ⟨more, rfl⟩ := within
  exact below_iff.2 ⟨name, rest ++ more, by simp⟩

theorem mem_of_lookup {α β : Type} [BEq α] [LawfulBEq α] {key : α} {value : β} {entries : List (α × β)}
    (found : entries.lookup key = some value) : (key, value) ∈ entries := by
  obtain ⟨before, behind, rfl, -⟩ := List.lookup_eq_some_iff.1 found
  exact List.mem_append_right before List.mem_cons_self

theorem lookup_filter_key (keeps : Path -> Bool) (path : Path) (items : List (Path × Item)) :
    (items.filter fun entry => keeps entry.1).lookup path =
      if keeps path then items.lookup path else none := by
  induction items with
  | nil => split <;> rfl
  | cons entry items ih =>
      obtain ⟨key, item⟩ := entry
      rw [List.filter_cons, List.lookup_cons]
      by_cases here : path = key
      · subst here
        by_cases kept : keeps path = true
        · rw [if_pos kept, if_pos kept, List.lookup_cons, beq_self_eq_true]
        · rw [if_neg kept, if_neg kept, ih, if_neg kept]
      · rw [beq_false_of_ne here, ← ih]
        by_cases kept : keeps key = true
        · rw [if_pos kept, List.lookup_cons, beq_false_of_ne here]
        · rw [if_neg kept]

namespace Disk

theorem isWithin_iff {place path : Path} : isWithin place path = true ↔ place <+: path :=
  List.isPrefixOf_iff_prefix

/-! ## Trees -/

/-- Every entry stands in a directory. -/
def IsTree (disk : Disk) : Prop :=
  ∀ entry ∈ disk.items, entry.1 ≠ [] ∧ disk.item? entry.1.dropLast = some .directory

instance (disk : Disk) : Decidable disk.IsTree :=
  inferInstanceAs (Decidable (∀ entry ∈ disk.items, _))

variable {disk : Disk}

theorem isTree_blank : blank.IsTree := nofun

@[simp] theorem item?_nil (disk : Disk) : disk.item? [] = some .directory := rfl

theorem item?_of_ne_nil {path : Path} (ne : path ≠ []) : disk.item? path = disk.items.lookup path := by
  rw [item?, if_neg (by simpa using ne)]

theorem exists_entry_of_item? {path : Path} (ne : path ≠ []) (stands : disk.item? path ≠ none) :
    ∃ item, (path, item) ∈ disk.items := by
  rw [item?_of_ne_nil ne] at stands
  obtain ⟨item, found⟩ := Option.ne_none_iff_exists'.1 stands
  exact ⟨item, mem_of_lookup found⟩

theorem item?_ne_none_of_mem {entry : Path × Item} (member : entry ∈ disk.items) :
    disk.item? entry.1 ≠ none := by
  unfold item?
  split
  · nofun
  · intro missing
    have differs := List.lookup_eq_none_iff.1 missing entry member
    simp at differs

/-- What stands around something in a tree is a directory. -/
theorem IsTree.directory_of_below (tree : disk.IsTree) {place path : Path} (below : Below place path)
    (stands : disk.item? path ≠ none) : disk.item? place = some .directory := by
  obtain ⟨name, rest, rfl⟩ := below_iff.1 below
  induction rest using List.reverseRecOn with
  | nil =>
      obtain ⟨item, member⟩ := exists_entry_of_item? (by simp) stands
      have inside := (tree _ member).2
      rwa [List.dropLast_concat] at inside
  | append_singleton rest last ih =>
      have whole : place ++ name :: (rest ++ [last]) = (place ++ name :: rest) ++ [last] := by simp
      rw [whole] at stands
      obtain ⟨item, member⟩ := exists_entry_of_item? (by simp) stands
      have inside := (tree _ member).2
      rw [List.dropLast_concat] at inside
      exact ih (below_iff.2 ⟨name, rest, rfl⟩) (by rw [inside]; nofun)

/-! ## Trees with some of the entries -/

def only (disk : Disk) (keeps : Path -> Bool) : Disk :=
  { disk with items := disk.items.filter fun entry => keeps entry.1 }

theorem only_only (keeps keeps' : Path -> Bool) :
    (disk.only keeps).only keeps' = disk.only fun path => keeps path && keeps' path := by
  simp only [only, List.filter_filter, Bool.and_comm]

theorem only_congr {keeps keeps' : Path -> Bool}
    (same : ∀ entry ∈ disk.items, keeps entry.1 = keeps' entry.1) :
    disk.only keeps = disk.only keeps' := by
  rw [only, only, List.filter_congr same]

theorem item?_only {keeps : Path -> Bool} (root : keeps [] = true) (path : Path) :
    (disk.only keeps).item? path = if keeps path then disk.item? path else none := by
  by_cases empty : path = []
  · rw [empty, root, if_pos rfl, item?_nil, item?_nil]
  · rw [item?_of_ne_nil empty, item?_of_ne_nil empty]
    exact lookup_filter_key keeps path disk.items

theorem names_only (keeps : Path -> Bool) (place : Path) :
    (disk.only keeps).names place =
      (disk.names place).filter fun name => keeps (place ++ [name]) := by
  simp only [names, only]
  induction disk.items with
  | nil => rfl
  | cons entry items ih =>
      obtain ⟨path, item⟩ := entry
      rcases List.eq_nil_or_concat path with rfl | ⟨around, name, rfl⟩
      · simp only [List.filter_cons, List.filterMap_cons]
        split <;> simpa using ih
      · by_cases here : around = place
        · subst here
          by_cases kept : keeps (around ++ [name]) = true <;> simp [kept, ih]
        · by_cases kept : keeps (around ++ [name]) = true <;> simp [kept, ih, here]

theorem mem_names_iff {place : Path} {name : String} :
    name ∈ disk.names place ↔ ∃ item, (place ++ [name], item) ∈ disk.items := by
  simp only [names, List.mem_filterMap]
  constructor
  · rintro ⟨⟨path, item⟩, member, found⟩
    rcases List.eq_nil_or_concat path with rfl | ⟨around, last, rfl⟩
    · simp at found
    · simp only [List.concat_eq_append, List.dropLast_concat, List.getLast?_concat,
        Option.ite_none_right_eq_some, Option.some.injEq] at found
      obtain ⟨rfl, rfl⟩ := found
      exact ⟨item, by simpa using member⟩
  · rintro ⟨item, member⟩
    exact ⟨_, member, by simp⟩

/-! ## What is guarded -/

theorem holdsGuarded_iff {place : Path} : disk.holdsGuarded place = true ↔
    ∃ entry ∈ disk.items, place <+: entry.1 ∧ disk.guarded entry.1 = true := by
  simp only [holdsGuarded, List.any_eq_true, Bool.and_eq_true, isWithin_iff]

theorem holdsGuarded_around {place path : Path} (within : place <+: path)
    (holds : disk.holdsGuarded path = true) : disk.holdsGuarded place = true := by
  obtain ⟨entry, member, below, guarded⟩ := holdsGuarded_iff.1 holds
  exact holdsGuarded_iff.2 ⟨entry, member, within.trans below, guarded⟩

/-- A tree that keeps what is guarded holds it at the same places. -/
theorem holdsGuarded_only {keeps : Path -> Bool}
    (kept : ∀ path, disk.holdsGuarded path = true -> keeps path = true) (place : Path) :
    (disk.only keeps).holdsGuarded place = disk.holdsGuarded place := by
  rw [Bool.eq_iff_iff, holdsGuarded_iff, holdsGuarded_iff]
  constructor
  · rintro ⟨entry, member, within, guarded⟩
    exact ⟨entry, (List.mem_filter.1 member).1, within, guarded⟩
  · rintro ⟨entry, member, within, guarded⟩
    have holds := holdsGuarded_iff.2 ⟨entry, member, List.prefix_refl _, guarded⟩
    exact ⟨entry, List.mem_filter.2 ⟨member, kept _ holds⟩, within, guarded⟩

/-! ## The way of a path -/

/-- The places at which `walkWith` looks what stands there. -/
def wayWith (disk : Disk) (follow : Path -> Path -> List Path) : Path -> Path -> List Path
  | _, [] => []
  | directory, name :: rest =>
    if name = "" ∨ name = "." then wayWith disk follow directory rest
    else if name = ".." then wayWith disk follow directory.dropLast rest
    else (directory ++ [name]) ::
      match disk.item? (directory ++ [name]) with
      | some .directory => wayWith disk follow (directory ++ [name]) rest
      | some (.link fromRoot target) => follow (if fromRoot then [] else directory) (target ++ rest)
      | _ => []

def way (disk : Disk) : Nat -> Path -> Path -> List Path
  | 0 => disk.wayWith fun _ _ => []
  | links + 1 => disk.wayWith (disk.way links)

def stops (disk : Disk) (path : Path) : List Path := disk.way maxLinks [] path

section Follow

variable {other : Disk} {follow follow' : Path -> Path -> Option Path}
  {passed : Path -> Path -> List Path}

theorem walkWith_congr
    (followed : ∀ directory path, (∀ stop ∈ passed directory path, other.item? stop = disk.item? stop) ->
      follow' directory path = follow directory path)
    (directory path : Path)
    (same : ∀ stop ∈ disk.wayWith passed directory path, other.item? stop = disk.item? stop) :
    other.walkWith follow' directory path = disk.walkWith follow directory path := by
  fun_induction disk.wayWith passed directory path with
  | case1 directory => rfl
  | case2 directory name rest stays ih =>
      simp only [walkWith, if_pos stays]
      exact ih same
  | case3 directory rest moves ih =>
      simp only [walkWith, if_neg moves, if_true]
      exact ih same
  | case4 directory name rest moves down ih =>
      simp only [walkWith, if_neg moves, if_neg down]
      rw [same _ List.mem_cons_self]
      have behind := fun stop member => same stop (List.mem_cons_of_mem _ member)
      cases found : disk.item? (directory ++ [name]) with
      | none => rfl
      | some item =>
          rw [found] at behind
          cases item with
          | file content => rfl
          | directory => exact ih behind
          | link fromRoot target => exact followed _ _ behind

/-- Where nothing stands at a place on the way, the path leads no further than to a place at which nothing
stands. -/
theorem item?_of_walkWith
    (followed : ∀ directory path place,
      (∀ stop ∈ passed directory path, other.item? stop = disk.item? stop ∨ other.item? stop = none) ->
      (∃ stop ∈ passed directory path, other.item? stop = none) ->
      follow' directory path = some place -> other.item? place = none)
    (directory path place : Path)
    (known : ∀ stop ∈ disk.wayWith passed directory path,
      other.item? stop = disk.item? stop ∨ other.item? stop = none)
    (missing : ∃ stop ∈ disk.wayWith passed directory path, other.item? stop = none)
    (leads : other.walkWith follow' directory path = some place) : other.item? place = none := by
  fun_induction disk.wayWith passed directory path with
  | case1 directory => simp at missing
  | case2 directory name rest stays ih =>
      rw [walkWith, if_pos stays] at leads
      exact ih known missing leads
  | case3 directory rest moves ih =>
      rw [walkWith, if_neg moves, if_pos rfl] at leads
      exact ih known missing leads
  | case4 directory name rest moves down ih =>
      rw [walkWith, if_neg moves, if_neg down] at leads
      cases here : other.item? (directory ++ [name]) with
      | none =>
          simp only [here, Option.ite_none_right_eq_some, Option.some.injEq] at leads
          rw [← leads.2, here]
      | some item =>
          have stands : other.item? (directory ++ [name]) ≠ none := by rw [here]; nofun
          have kept : disk.item? (directory ++ [name]) = some item := by
            rw [← (known _ List.mem_cons_self).resolve_right stands, here]
          have known' := fun stop member => known stop (List.mem_cons_of_mem _ member)
          obtain ⟨stop, member, gone⟩ := missing
          rcases List.mem_cons.1 member with rfl | behind
          · exact absurd gone stands
          · rw [kept] at behind known'
            simp only [here] at leads
            cases item with
            | file content => simp at behind
            | directory => exact ih known' ⟨stop, behind, gone⟩ leads
            | link fromRoot target => exact followed _ _ _ known' ⟨stop, behind, gone⟩ leads

end Follow

theorem walk_congr {other : Disk} (links : Nat) (directory path : Path)
    (same : ∀ stop ∈ disk.way links directory path, other.item? stop = disk.item? stop) :
    other.walk links directory path = disk.walk links directory path := by
  induction links generalizing directory path with
  | zero => exact walkWith_congr (fun _ _ _ => rfl) directory path same
  | succ links ih => exact walkWith_congr ih directory path same

theorem item?_of_walk {other : Disk} (links : Nat) (directory path place : Path)
    (known : ∀ stop ∈ disk.way links directory path,
      other.item? stop = disk.item? stop ∨ other.item? stop = none)
    (missing : ∃ stop ∈ disk.way links directory path, other.item? stop = none)
    (leads : other.walk links directory path = some place) : other.item? place = none := by
  induction links generalizing directory path place with
  | zero =>
      exact item?_of_walkWith (fun _ _ _ _ ⟨_, member, _⟩ => nomatch member) directory path place known
        missing leads
  | succ links ih => exact item?_of_walkWith ih directory path place known missing leads

end Disk

end ScriptOracle.Sandbox
