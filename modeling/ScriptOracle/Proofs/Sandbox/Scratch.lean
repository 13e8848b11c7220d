import ScriptOracle.Proofs.Sandbox.Directories
import ScriptOracle.Sandbox.Runner

/-!
# A directory to itself for every run

Emptying a scratch directory removes what is below the place that its root leads to and nothing else: what a
link in it leads to stands elsewhere and is not touched. What is guarded stays, with the directories around
it, and does not keep the other entries from going. So the directory is empty when a run takes it and when the
run has given it back.
-/

namespace ScriptOracle.Sandbox

namespace Disk

variable {disk : Disk}

/-- Whether a path is left alone when what is below a place is removed. -/
def spares (disk : Disk) (place path : Path) : Bool :=
  !decide (Below place path) || disk.holdsGuarded path

theorem spares_of_not_below {place path : Path} (outside : ¬ Below place path) :
    disk.spares place path = true := by
  simp [spares, outside]

theorem spares_of_below {place path : Path} (below : Below place path) :
    disk.spares place path = disk.holdsGuarded path := by
  simp [spares, below]

theorem item?_only_cases {keeps : Path -> Bool} (root : keeps [] = true) (path : Path) :
    (disk.only keeps).item? path = disk.item? path ∨ (disk.only keeps).item? path = none := by
  rw [item?_only root]
  split
  · exact .inl rfl
  · exact .inr rfl

/-- A path leads to a directory among some entries if the whole way to it is among them. -/
theorem directory?_only_iff {keeps : Path -> Bool} (root : keeps [] = true) {path place : Path} :
    (disk.only keeps).directory? path = some place ↔
      disk.directory? path = some place ∧ keeps place = true ∧
        ∀ stop ∈ disk.stops path, keeps stop = true := by
  constructor
  · intro found
    obtain ⟨leads, stands⟩ := directory?_eq_some_iff.1 found
    have standing : (disk.only keeps).item? place ≠ none := by rw [stands]; nofun
    have kept : ∀ other, (disk.only keeps).item? other ≠ none -> keeps other = true := by
      intro other
      rw [item?_only root]
      split <;> simp_all
    have passes : ∀ stop ∈ disk.stops path, (disk.only keeps).item? stop ≠ none := by
      intro stop member missing
      exact standing (item?_of_walk maxLinks [] path place (fun stop _ => item?_only_cases root stop)
        ⟨stop, member, missing⟩ leads)
    have same : (disk.only keeps).walk maxLinks [] path = disk.walk maxLinks [] path := by
      apply walk_congr
      intro stop member
      exact (item?_only_cases root stop).resolve_right (passes stop member)
    have stays := (item?_only_cases root place).resolve_right standing
    exact ⟨directory?_eq_some_iff.2 ⟨same ▸ leads, stays ▸ stands⟩, kept place standing,
      fun stop member => kept stop (passes stop member)⟩
  · rintro ⟨found, kept, way⟩
    obtain ⟨leads, stands⟩ := directory?_eq_some_iff.1 found
    have same : (disk.only keeps).walk maxLinks [] path = disk.walk maxLinks [] path := by
      apply walk_congr
      intro stop member
      rw [item?_only root, if_pos (way stop member)]
    exact directory?_eq_some_iff.2 ⟨by rw [same, leads], by rw [item?_only root, if_pos kept, stands]⟩

/-- What stands below a directory stands in one of its entries. -/
theorem IsTree.exists_name (tree : disk.IsTree) {place : Path} {entry : Path × Item}
    (member : entry ∈ disk.items) (below : Below place entry.1) :
    ∃ name ∈ disk.names place, place ++ [name] <+: entry.1 := by
  obtain ⟨name, rest, same⟩ := below_iff.1 below
  have within : place ++ [name] <+: entry.1 := ⟨rest, by rw [same]; simp⟩
  refine ⟨name, mem_names_iff.2 ?_, within⟩
  by_cases here : place ++ [name] = entry.1
  · exact ⟨entry.2, here ▸ member⟩
  · apply exists_entry_of_item? (by simp)
    rw [tree.directory_of_below ⟨within, here⟩ (item?_ne_none_of_mem member)]
    nofun

end Disk

namespace Scratch

open Disk (isWithin)

variable {disk : Disk} {space : Scratch} {place : Path}

/-! ## Removing entries -/

theorem removeAll_eq {names : List String}
    (present : ∀ name ∈ names, disk.holdsGuarded (place ++ [name]) = true ->
      disk.item? (place ++ [name]) ≠ none) :
    removeAll place names disk =
      (names.countP fun name => !disk.holdsGuarded (place ++ [name]),
        disk.only fun path =>
          !(names.any fun name => isWithin (place ++ [name]) path) || disk.holdsGuarded path) := by
  induction names generalizing disk with
  | nil =>
      have all : disk.items.filter (fun _ => true) = disk.items := List.filter_eq_self.2 fun _ _ => rfl
      simp only [removeAll, Disk.only, List.any_nil, Bool.not_false, Bool.true_or, List.countP_nil, all]
  | cons name rest ih =>
      have root : (!isWithin (place ++ [name]) [] || disk.holdsGuarded []) = true := by
        simp [isWithin]
      have removed : disk.remove (place ++ [name]) =
          disk.only fun path => !isWithin (place ++ [name]) path || disk.holdsGuarded path := rfl
      have guarded : (disk.remove (place ++ [name])).holdsGuarded = disk.holdsGuarded := by
        funext path
        rw [removed]
        exact Disk.holdsGuarded_only (fun path holds => by rw [holds, Bool.or_true]) path
      have gone : ((disk.remove (place ++ [name])).item? (place ++ [name])).isNone =
          !disk.holdsGuarded (place ++ [name]) := by
        have own : isWithin (place ++ [name]) (place ++ [name]) = true :=
          Disk.isWithin_iff.2 (List.prefix_refl _)
        rw [removed, Disk.item?_only root, own]
        cases holds : disk.holdsGuarded (place ++ [name]) with
        | false => rfl
        | true =>
            have stands := present name List.mem_cons_self holds
            simpa [← Option.isNone_iff_eq_none] using stands
      have stay : ∀ other ∈ rest, (disk.remove (place ++ [name])).holdsGuarded (place ++ [other]) = true ->
          (disk.remove (place ++ [name])).item? (place ++ [other]) ≠ none := by
        intro other member holds
        rw [guarded] at holds
        rw [removed, Disk.item?_only root, holds, Bool.or_true, if_pos rfl]
        exact present other (List.mem_cons_of_mem _ member) holds
      have others := ih stay
      rw [removeAll]
      simp only [others, gone, guarded]
      rw [removed, Disk.only_only, List.countP_cons, Nat.add_comm]
      refine congrArg (Prod.mk _) (Disk.only_congr fun entry _ => ?_)
      simp only [List.any_cons]
      grind

/-- Emptying a directory removes just what is below it and not guarded. -/
theorem clear_eq (tree : disk.IsTree) (clears : space.clears = true)
    (leads : disk.directory? space.root = some place) :
    space.clear disk =
      ((disk.names place).countP fun name => !disk.holdsGuarded (place ++ [name]),
        disk.only (disk.spares place)) := by
  have present : ∀ name ∈ disk.names place, disk.holdsGuarded (place ++ [name]) = true ->
      disk.item? (place ++ [name]) ≠ none := by
    intro name member _
    obtain ⟨item, stands⟩ := Disk.mem_names_iff.1 member
    exact Disk.item?_ne_none_of_mem stands
  rw [clear, if_pos clears, leads]
  simp only [removeAll_eq present]
  congr 1
  apply Disk.only_congr
  intro entry member
  have same : ((disk.names place).any fun name => isWithin (place ++ [name]) entry.1) =
      decide (Below place entry.1) := by
    rw [Bool.eq_iff_iff, List.any_eq_true, decide_eq_true_eq]
    constructor
    · rintro ⟨name, _, within⟩
      exact (below_append_singleton place name).deeper (Disk.isWithin_iff.1 within)
    · intro below
      obtain ⟨name, named, within⟩ := tree.exists_name member below
      exact ⟨name, named, Disk.isWithin_iff.2 within⟩
  rw [same, Disk.spares]

/-- How a directory is left that was emptied as far as possible. -/
structure Emptied (root : Path) (before after : Disk) (removed : Nat) : Prop where
  /-- Just the entries that could not be removed are left. -/
  names : ∀ place, before.directory? root = some place ->
    after.names place = (before.names place).filter fun name => before.holdsGuarded (place ++ [name])
  count : ∀ place, before.directory? root = some place ->
    removed = (before.names place).countP fun name => !before.holdsGuarded (place ++ [name])
  /-- What is removed is gone with all that it held. -/
  gone : ∀ place, before.directory? root = some place -> ∀ name,
    before.holdsGuarded (place ++ [name]) = false ->
      ∀ path, place ++ [name] <+: path -> after.item? path = none
  outside : ∀ place, before.directory? root = some place -> ∀ path, ¬ Below place path ->
    after.item? path = before.item? path
  unreadable : before.directory? root = none -> after = before ∧ removed = 0

theorem emptied_clear (tree : disk.IsTree) (clears : space.clears = true) :
    Emptied space.root disk (space.clear disk).2 (space.clear disk).1 where
  names := by
    intro place leads
    rw [clear_eq tree clears leads, Disk.names_only]
    apply List.filter_congr
    intro name _
    exact Disk.spares_of_below (below_append_singleton place name)
  count := by
    intro place leads
    rw [clear_eq tree clears leads]
  gone := by
    intro place leads name free path within
    have below := (below_append_singleton place name).deeper within
    rw [clear_eq tree clears leads, Disk.item?_only (Disk.spares_of_not_below (not_below_nil place)),
      Disk.spares_of_below below, if_neg]
    intro holds
    rw [Disk.holdsGuarded_around within holds] at free
    cases free
  outside := by
    intro place leads path outside
    rw [clear_eq tree clears leads, Disk.item?_only (Disk.spares_of_not_below (not_below_nil place)),
      if_pos (Disk.spares_of_not_below outside)]
  unreadable := by
    intro missing
    rw [clear, if_pos clears, missing]
    exact ⟨rfl, rfl⟩

/-! ## Directories that can be emptied -/

/-- Whether every entry of the directory can be removed. -/
def Removable (space : Scratch) (disk : Disk) : Prop :=
  ∀ place, disk.directory? space.root = some place ->
    ∀ name ∈ disk.names place, disk.holdsGuarded (place ++ [name]) = false

theorem Removable.holdsGuarded_eq_false (removable : space.Removable disk) (tree : disk.IsTree)
    (leads : disk.directory? space.root = some place) {path : Path} (below : Below place path) :
    disk.holdsGuarded path = false := by
  rw [← Bool.not_eq_true]
  intro holds
  obtain ⟨entry, member, within, guarded⟩ := Disk.holdsGuarded_iff.1 holds
  obtain ⟨name, named, inside⟩ := tree.exists_name member (below.deeper within)
  have free := removable place leads name named
  rw [Disk.holdsGuarded_iff.2 ⟨entry, member, inside, guarded⟩] at free
  cases free

theorem directory?_clear_iff (tree : disk.IsTree) (clears : space.clears = true)
    (leads : disk.directory? space.root = some place) {found : Path} :
    (space.clear disk).2.directory? space.root = some found ↔
      found = place ∧ ∀ stop ∈ disk.stops space.root, disk.spares place stop = true := by
  rw [clear_eq tree clears leads, Disk.directory?_only_iff (Disk.spares_of_not_below (not_below_nil place)),
    leads, Option.some.injEq]
  constructor
  · rintro ⟨rfl, -, way⟩
    exact ⟨rfl, way⟩
  · rintro ⟨rfl, way⟩
    exact ⟨rfl, Disk.spares_of_not_below fun below => below.2 rfl, way⟩

theorem Removable.isEmpty_clear (removable : space.Removable disk) (tree : disk.IsTree)
    (clears : space.clears = true) : space.isEmpty (space.clear disk).2 = true := by
  rw [isEmpty, List.isEmpty_iff, entries]
  split
  · rfl
  · rename_i found leads'
    cases leads : disk.directory? space.root with
    | none =>
        rw [((emptied_clear tree clears).unreadable leads).1, leads] at leads'
        cases leads'
    | some place =>
        obtain ⟨rfl, -⟩ := (directory?_clear_iff tree clears leads).1 leads'
        rw [(emptied_clear tree clears).names found leads, List.filter_eq_nil_iff]
        intro name named
        rw [removable found leads name named]
        nofun

/-- An emptied directory still stands exactly if its path does not pass through what it held. -/
theorem Removable.isSome_directory?_clear_iff (removable : space.Removable disk) (tree : disk.IsTree)
    (clears : space.clears = true) :
    ((space.clear disk).2.directory? space.root).isSome = true ↔
      ∃ place, disk.directory? space.root = some place ∧
        ∀ stop ∈ disk.stops space.root, ¬ Below place stop := by
  cases leads : disk.directory? space.root with
  | none =>
      rw [((emptied_clear tree clears).unreadable leads).1, leads]
      simp
  | some place =>
      have spares_iff : ∀ stop, disk.spares place stop = true ↔ ¬ Below place stop := by
        intro stop
        constructor
        · intro spared below
          rw [Disk.spares_of_below below, removable.holdsGuarded_eq_false tree leads below] at spared
          cases spared
        · exact Disk.spares_of_not_below
      rw [Option.isSome_iff_exists]
      simp only [directory?_clear_iff tree clears leads, spares_iff, Option.some.injEq]
      constructor
      · rintro ⟨found, -, way⟩
        exact ⟨place, rfl, way⟩
      · rintro ⟨_, rfl, way⟩
        exact ⟨place, rfl, way⟩

theorem isEmpty_release (empty : space.isEmpty disk = true) : space.isEmpty (space.release disk) = true := by
  have same : space.release disk = disk := by
    rw [isEmpty, List.isEmpty_iff, entries] at empty
    rw [release, clear]
    split
    · split
      · rfl
      · rename_i place leads
        simp only [leads] at empty
        rw [empty]
        rfl
    · rfl
  rw [same, empty]

/-! ## Leases -/

theorem makes_prepare (tree : disk.IsTree) : Disk.Makes space.root disk (space.prepare disk) :=
  Disk.makes_makeDirectories tree space.root

/-- A plain root stands once a lease is taken. -/
theorem directory?_lease (tree : disk.IsTree) (clears : space.clears = true)
    (plain : disk.IsPlain [] space.root) :
    (space.lease disk).directory? space.root = some space.root := by
  have makes : Disk.Makes space.root disk (space.prepare disk) := makes_prepare tree
  have leads : (space.prepare disk).directory? space.root = some space.root :=
    tree.directory?_makeDirectories plain
  refine (directory?_clear_iff makes.isTree clears leads).2 ⟨rfl, ?_⟩
  intro stop member
  apply Disk.spares_of_not_below
  intro below
  have around := (makes.grows.isPlain plain).prefix_of_mem_way Disk.maxLinks member
  have same : space.root = stop := below.1.eq_of_length_le around.length_le
  exact below.2 same

theorem clear_of_not_clears (off : space.clears = false) (disk : Disk) : space.clear disk = (0, disk) := by
  rw [clear, off]
  rfl

end Scratch

open Scratch (Emptied)

/-- What a run finds and leaves in its scratch directory. Before the run the missing directories on the way
of the root are made, and nothing that stands changes. Where the directory is emptied at all, this takes just
what is below it and can be removed, before the run as well as after it, whatever the run left behind; so
where all can be removed the directory is empty when the run takes it, when it has given it back, and after
every run however it ends. It stands when the run takes it if its path could be made and does not pass
through what it held, as is so for every plain path. Where it is not emptied every entry stays. -/
theorem emptied_around_runs (runner : Runner) (host : Host) (request : Request) (disk left : Disk)
    (tree : disk.IsTree) (leftTree : left.IsTree) :
    let space := runner.scratch
    let ready := space.prepare disk
    let leased := space.lease disk
    let final := (runner.evaluate host disk request).2.2
    Disk.Makes space.root disk ready ∧
    final = space.release leased ∧
    (space.clears = true ->
      Emptied space.root ready leased (space.clear ready).1 ∧
      Emptied space.root left (space.release left) (space.clear left).1 ∧
      (disk.IsPlain [] space.root -> leased.directory? space.root = some space.root) ∧
      (space.Removable ready -> space.isEmpty leased = true ∧ space.isEmpty final = true ∧
        ((leased.directory? space.root).isSome = true ↔
          ∃ place, ready.directory? space.root = some place ∧
            ∀ stop ∈ ready.stops space.root, ¬ Below place stop)) ∧
      (space.Removable left -> space.isEmpty (space.release left) = true)) ∧
    (space.clears = false ->
      leased = ready ∧ space.release left = left ∧
        ∀ path, disk.item? path ≠ none -> final.item? path = disk.item? path) := by
  intro space ready leased final
  have makes : Disk.Makes space.root disk ready := Scratch.makes_prepare tree
  have leased_eq : leased = (space.clear ready).2 := rfl
  have final_eq : final = space.release leased := rfl
  refine ⟨makes, final_eq, ?_, ?_⟩
  · intro clears
    refine ⟨Scratch.emptied_clear makes.isTree clears, Scratch.emptied_clear leftTree clears,
      Scratch.directory?_lease tree clears, ?_, fun removable => removable.isEmpty_clear leftTree clears⟩
    intro removable
    have empty : space.isEmpty leased = true := removable.isEmpty_clear makes.isTree clears
    refine ⟨empty, ?_, removable.isSome_directory?_clear_iff makes.isTree clears⟩
    rw [final_eq]
    exact Scratch.isEmpty_release empty
  · intro off
    have idle := Scratch.clear_of_not_clears off
    have same : leased = ready := by rw [leased_eq, idle]
    refine ⟨same, by rw [Scratch.release, idle], ?_⟩
    intro path stands
    rw [final_eq, Scratch.release, idle, same]
    exact makes.grows.item? stands

/-- A scratch directory with a file, a directory, a link out of it and something guarded. -/
def Disk.cluttered : Disk where
  items := [(["scratch"], .directory), (["scratch", "a"], .file [1]), (["scratch", "d"], .directory),
    (["scratch", "d", "b"], .file [2]), (["scratch", "out"], .link true ["kept"]),
    (["scratch", "g"], .directory), (["scratch", "g", "h"], .file [4]), (["kept"], .directory),
    (["kept", "c"], .file [3])]
  guarded := fun path => path == ["scratch", "g", "h"]

/-- Three entries go and the guarded one stays, and what the link leads to is as it was; without the guard the
directory is left empty. -/
theorem emptied_around_runs_cluttered :
    let space : Scratch := ⟨["scratch"], true⟩
    let leased := space.lease .cluttered
    let left : Disk := { Disk.cluttered with guarded := fun _ => false }
    Disk.cluttered.IsTree ∧ left.IsTree ∧
      leased.directory? ["scratch"] = some ["scratch"] ∧ leased.names ["scratch"] = ["g"] ∧
      (space.clear (space.prepare .cluttered)).1 = 3 ∧
      leased.item? ["kept", "c"] = some (.file [3]) ∧
      space.isEmpty (space.release left) = true := by
  intro space leased left
  have tree : Disk.cluttered.IsTree := by decide
  have leftTree : left.IsTree := by decide
  have removable : space.Removable left := by
    intro place _ name _
    simp [Disk.holdsGuarded, left]
  obtain ⟨-, -, clearing, -⟩ := emptied_around_runs (.start space)
    (.patient (.fixed (.ok (.ofJson 200 (.object []))) [])) ⟨"return 1;", [], none, 0⟩ .cluttered left
    tree leftTree
  obtain ⟨emptied, -, stands, -, after⟩ := clearing rfl
  have leads : (space.prepare .cluttered).directory? ["scratch"] = some ["scratch"] := by decide
  have outside : ¬ Below ["scratch"] ["kept", "c"] := by decide
  refine ⟨tree, leftTree, stands (by decide), ?_, ?_, ?_, after removable⟩
  · exact (emptied.names _ leads).trans (by decide)
  · exact (emptied.count _ leads).trans (by decide)
  · exact (emptied.outside _ leads _ outside).trans (by decide)

/-- A root whose name is too long is not made, one that passes through its own entry is gone with it, and for
one whose parent is missing a lease makes the parent too. -/
theorem lease_unstable_roots :
    let overlong : Scratch := ⟨[String.ofList (List.replicate 256 'r')], true⟩
    let circular : Scratch := ⟨["a", "x", ".."], true⟩
    let nested : Scratch := ⟨["a", "b"], true⟩
    Disk.blank.IsTree ∧ (∀ path, Disk.blank.guarded path = false) ∧
      (overlong.lease .blank).directory? overlong.root = none ∧
      (circular.lease .blank).directory? circular.root = none ∧
      ¬ Below nested.root ["a"] ∧ Disk.blank.item? ["a"] = none ∧
      (nested.lease .blank).item? ["a"] = some .directory := by
  refine ⟨Disk.isTree_blank, fun _ => rfl, ?_⟩
  decide +kernel

end ScriptOracle.Sandbox
