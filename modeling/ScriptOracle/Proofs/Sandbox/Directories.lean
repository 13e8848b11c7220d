import ScriptOracle.Proofs.Sandbox.Disk

/-!
# Directories that are made

Making a directory with those around it changes nothing that stands. It puts directories at places on the way
of the path at which nothing stood, and where neither dots nor links nor files are in the way it gets to the
end of the path.
-/

namespace ScriptOracle.Sandbox

namespace Disk

variable {disk grown : Disk}

/-- What stands goes on standing, and what is new is a directory. -/
def Grows (disk grown : Disk) : Prop :=
  ∀ path, grown.item? path = disk.item? path ∨
    disk.item? path = none ∧ grown.item? path = some .directory

theorem Grows.item? (grows : disk.Grows grown) {path : Path} (stands : disk.item? path ≠ none) :
    grown.item? path = disk.item? path :=
  (grows path).resolve_right fun new => stands new.1

/-! ## Longer paths and grown trees -/

section Follow

variable {follow : Path -> Path -> Option Path} {passed passed' : Path -> Path -> List Path}
  {more : Path} {stop : Path}

theorem mem_wayWith_append
    (followed : ∀ directory path, stop ∈ passed directory path -> stop ∈ passed directory (path ++ more))
    (directory path : Path) (member : stop ∈ disk.wayWith passed directory path) :
    stop ∈ disk.wayWith passed directory (path ++ more) := by
  fun_induction disk.wayWith passed directory path with
  | case1 directory => cases member
  | case2 directory name rest stays ih =>
      rw [List.cons_append, wayWith, if_pos stays]
      exact ih member
  | case3 directory rest moves ih =>
      rw [List.cons_append, wayWith, if_neg moves, if_pos rfl]
      exact ih member
  | case4 directory name rest moves down ih =>
      rw [List.cons_append, wayWith, if_neg moves, if_neg down]
      rcases List.mem_cons.1 member with rfl | behind
      · exact List.mem_cons_self
      · apply List.mem_cons_of_mem
        split at behind
        · exact ih behind
        · rw [← List.append_assoc]
          exact followed _ _ behind
        · cases behind

theorem mem_wayWith_grown (grows : disk.Grows grown)
    (followed : ∀ directory path, stop ∈ passed directory path -> stop ∈ passed' directory path)
    (directory path : Path) (member : stop ∈ disk.wayWith passed directory path) :
    stop ∈ grown.wayWith passed' directory path := by
  fun_induction disk.wayWith passed directory path with
  | case1 directory => cases member
  | case2 directory name rest stays ih =>
      rw [wayWith, if_pos stays]
      exact ih member
  | case3 directory rest moves ih =>
      rw [wayWith, if_neg moves, if_pos rfl]
      exact ih member
  | case4 directory name rest moves down ih =>
      rw [wayWith, if_neg moves, if_neg down]
      rcases List.mem_cons.1 member with rfl | behind
      · exact List.mem_cons_self
      · apply List.mem_cons_of_mem
        cases stands : disk.item? (directory ++ [name]) with
        | none => simp [stands] at behind
        | some item =>
            rw [grows.item? (by rw [stands]; nofun), stands]
            rw [stands] at behind
            cases item with
            | file content => cases behind
            | directory => exact ih behind
            | link fromRoot target => exact followed _ _ behind

/-- Past a directory that a path leads to, a longer path is followed from there. -/
theorem exists_walkWith_append
    (own : ∃ links, disk.walkWith follow = disk.walk links ∧ disk.wayWith passed = disk.way links)
    (followed : ∀ directory path place, follow directory path = some place ->
      disk.item? place = some .directory ->
      ∃ links, follow directory (path ++ more) = disk.walk links place more ∧
        disk.way links place more ⊆ passed directory (path ++ more))
    (directory path place : Path) (leads : disk.walkWith follow directory path = some place)
    (stands : disk.item? place = some .directory) :
    ∃ links, disk.walkWith follow directory (path ++ more) = disk.walk links place more ∧
      disk.way links place more ⊆ disk.wayWith passed directory (path ++ more) := by
  fun_induction disk.walkWith follow directory path with
  | case1 directory =>
      obtain rfl := Option.some.inj leads
      obtain ⟨links, walks, ways⟩ := own
      exact ⟨links, by rw [walks]; rfl, by rw [ways]; exact List.Subset.refl _⟩
  | case2 directory name rest stays ih =>
      rw [List.cons_append, walkWith, wayWith, if_pos stays, if_pos stays]
      exact ih leads
  | case3 directory rest moves ih =>
      rw [List.cons_append, walkWith, wayWith, if_neg moves, if_neg moves, if_pos rfl, if_pos rfl]
      exact ih leads
  | case4 directory name rest moves down here ih =>
      obtain ⟨links, walks, ways⟩ := ih leads
      simp only [List.cons_append, walkWith, wayWith, if_neg moves, if_neg down, here]
      exact ⟨links, walks, List.subset_cons_of_subset _ ways⟩
  | case7 directory name rest moves down fromRoot target here =>
      obtain ⟨links, walks, ways⟩ := followed _ _ place leads stands
      rw [List.append_assoc] at walks ways
      simp only [List.cons_append, walkWith, wayWith, if_neg moves, if_neg down, here]
      exact ⟨links, walks, List.subset_cons_of_subset _ ways⟩
  -- a path that ends at a file or at a free place does not lead to a directory
  | case5 directory name rest moves down content here | case8 directory name rest moves down here =>
      rw [← Option.some.inj leads, here] at stands
      cases stands
  | case6 | case9 => cases leads

end Follow

theorem mem_way_append {stop : Path} (links : Nat) (directory path more : Path)
    (member : stop ∈ disk.way links directory path) :
    stop ∈ disk.way links directory (path ++ more) := by
  induction links generalizing directory path with
  | zero => exact mem_wayWith_append (fun _ _ none => absurd none List.not_mem_nil) directory path member
  | succ links ih => exact mem_wayWith_append (fun directory path => ih directory path) directory path member

theorem Grows.mem_way (grows : disk.Grows grown) {stop : Path} (links : Nat) (directory path : Path)
    (member : stop ∈ disk.way links directory path) : stop ∈ grown.way links directory path := by
  induction links generalizing directory path with
  | zero => exact mem_wayWith_grown grows (fun _ _ none => absurd none List.not_mem_nil) directory path member
  | succ links ih =>
      exact mem_wayWith_grown grows (fun directory path => ih directory path) directory path member

theorem exists_walk_append (links : Nat) {directory path place : Path} (more : Path)
    (leads : disk.walk links directory path = some place)
    (stands : disk.item? place = some .directory) :
    ∃ left, disk.walk links directory (path ++ more) = disk.walk left place more ∧
      disk.way left place more ⊆ disk.way links directory (path ++ more) := by
  induction links generalizing directory path place with
  | zero =>
      exact exists_walkWith_append ⟨0, rfl, rfl⟩ (fun _ _ _ none => nomatch none) directory path place leads
        stands
  | succ links ih =>
      exact exists_walkWith_append ⟨links + 1, rfl, rfl⟩ (fun _ _ _ => ih) directory path place leads
        stands

/-- A way passes by what stands if it leads to something that stands. -/
theorem item?_of_mem_way {links : Nat} {directory path place stop : Path}
    (leads : disk.walk links directory path = some place) (stands : disk.item? place ≠ none)
    (member : stop ∈ disk.way links directory path) : disk.item? stop ≠ none := by
  intro missing
  exact stands (item?_of_walk links directory path place (fun _ _ => .inl rfl) ⟨stop, member, missing⟩
    leads)

theorem Grows.walk (grows : disk.Grows grown) {links : Nat} {directory path place : Path}
    (leads : disk.walk links directory path = some place) (stands : disk.item? place ≠ none) :
    grown.walk links directory path = some place := by
  rw [← leads]
  apply walk_congr
  intro stop member
  exact grows.item? (item?_of_mem_way leads stands member)

theorem directory?_eq_some_iff {path place : Path} : disk.directory? path = some place ↔
    disk.walk maxLinks [] path = some place ∧ disk.item? place = some .directory := by
  simp only [directory?, locate?, Option.filter_eq_some_iff, decide_eq_true_eq]

theorem Grows.directory? (grows : disk.Grows grown) {path place : Path}
    (leads : disk.directory? path = some place) : grown.directory? path = some place := by
  obtain ⟨walks, stands⟩ := directory?_eq_some_iff.1 leads
  have standing : disk.item? place ≠ none := by rw [stands]; nofun
  exact directory?_eq_some_iff.2 ⟨grows.walk walks standing, by rw [grows.item? standing, stands]⟩

/-! ## Names that lead nowhere else -/

def isStep (name : String) : Bool := name != "" && name != "."

theorem wayWith_filter {passed : Path -> Path -> List Path}
    (followed : ∀ directory path, passed directory (path.filter isStep) = passed directory path)
    (directory path : Path) :
    disk.wayWith passed directory (path.filter isStep) = disk.wayWith passed directory path := by
  fun_induction disk.wayWith passed directory path with
  | case1 directory => rfl
  | case2 directory name rest stays ih =>
      have skipped : isStep name = false := by rcases stays with rfl | rfl <;> decide
      rw [List.filter_cons_of_neg (by simp [skipped]), ih]
  | case3 directory rest moves ih =>
      rw [List.filter_cons_of_pos (by decide), wayWith, if_neg moves, if_pos rfl, ih]
  | case4 directory name rest moves down ih =>
      have step : isStep name = true := by simpa [isStep, not_or] using moves
      have onward : ∀ directory target, passed directory (target ++ rest.filter isStep) =
          passed directory (target ++ rest) := by
        intro directory target
        rw [← followed, ← followed directory (target ++ rest), List.filter_append,
          List.filter_append, List.filter_filter]
        simp only [Bool.and_self]
      rw [List.filter_cons_of_pos step, wayWith, if_neg moves, if_neg down]
      simp only [ih, onward]

theorem way_filter (links : Nat) (directory path : Path) :
    disk.way links directory (path.filter isStep) = disk.way links directory path := by
  induction links generalizing directory path with
  | zero => exact wayWith_filter (fun _ _ => rfl) directory path
  | succ links ih => exact wayWith_filter ih directory path

/-! ## Making -/

theorem writeItem_of_vacant {place : Path} {item : Item} {items : List (Path × Item)}
    (vacant : items.lookup place = none) : writeItem place item items = items ++ [(place, item)] := by
  induction items with
  | nil => rfl
  | cons entry items ih =>
      obtain ⟨path, old⟩ := entry
      rw [List.lookup_cons] at vacant
      split at vacant
      · cases vacant
      · rename_i differs
        have other : path ≠ place := fun same => by simp [same] at differs
        rw [writeItem, if_neg other, ih vacant, List.cons_append]

theorem item?_put {place : Path} (ne : place ≠ []) (vacant : disk.item? place = none) (item : Item)
    (path : Path) :
    (disk.put place item).item? path = if path = place then some item else disk.item? path := by
  rw [item?_of_ne_nil ne] at vacant
  by_cases empty : path = []
  · rw [empty, if_neg (Ne.symm ne)]
    rfl
  · rw [item?_of_ne_nil empty, item?_of_ne_nil empty, put, writeItem_of_vacant vacant, List.lookup_append]
    by_cases here : path = place
    · rw [here, vacant, if_pos rfl]
      simp
    · rw [if_neg here, List.lookup_cons, beq_false_of_ne here, List.lookup_nil, Option.or_none]

/-- What is done on the way of a path: directories come to stand at places on it. -/
structure Makes (path : Path) (disk made : Disk) : Prop where
  isTree : made.IsTree
  guarded : made.guarded = disk.guarded
  item? : ∀ place, made.item? place = disk.item? place ∨
    disk.item? place = none ∧ made.item? place = some .directory ∧ place ∈ made.stops path

namespace Makes

variable {path : Path} {made : Disk}

theorem refl (tree : disk.IsTree) : Makes path disk disk := ⟨tree, rfl, fun _ => .inl rfl⟩

theorem grows (makes : Makes path disk made) : disk.Grows made :=
  fun place => (makes.item? place).imp_right fun ⟨vacant, new, _⟩ => ⟨vacant, new⟩

theorem append (makes : Makes path disk made) (more : Path) : Makes (path ++ more) disk made where
  isTree := makes.isTree
  guarded := makes.guarded
  item? := fun place => (makes.item? place).imp_right fun ⟨vacant, new, onWay⟩ =>
    ⟨vacant, new, mem_way_append maxLinks [] path more onWay⟩

theorem trans {last : Disk} (makes : Makes path disk made) (again : Makes path made last) :
    Makes path disk last where
  isTree := again.isTree
  guarded := again.guarded.trans makes.guarded
  item? := by
    intro place
    rcases makes.item? place with same | ⟨vacant, new, onWay⟩
    · rw [← same]
      exact again.item? place
    · have stands : made.item? place ≠ none := by rw [new]; nofun
      have onWay' := again.grows.mem_way maxLinks [] path onWay
      exact .inr ⟨vacant, by rw [again.grows.item? stands, new], onWay'⟩

end Makes

/-- From a directory one always gets to the one around it. -/
theorem IsTree.directory?_up (tree : disk.IsTree) {path place : Path}
    (leads : disk.directory? path = some place) :
    disk.directory? (path ++ [".."]) = some place.dropLast := by
  obtain ⟨walks, stands⟩ := directory?_eq_some_iff.1 leads
  obtain ⟨left, onward, -⟩ := exists_walk_append maxLinks [".."] walks stands
  refine directory?_eq_some_iff.2 ⟨?_, ?_⟩
  · rw [onward]
    cases left <;> rfl
  · rcases List.eq_nil_or_concat place with rfl | ⟨around, name, rfl⟩
    · rfl
    · rw [List.concat_eq_append] at stands ⊢
      rw [List.dropLast_concat]
      exact tree.directory_of_below (below_append_singleton around name) (by rw [stands]; nofun)

theorem makeDirectory?_cases (tree : disk.IsTree) {path : Path} {name : String} {made : Disk}
    (done : disk.makeDirectory? path name = some made) :
    made = disk ∨ ∃ place, disk.directory? path = some place ∧ isName name = true ∧ name ≠ ".." ∧
      disk.item? (place ++ [name]) = none ∧ made = disk.put (place ++ [name]) .directory := by
  unfold makeDirectory? at done
  split at done
  · exact .inl (Option.some.inj done).symm
  · rename_i missing
    unfold add? at done
    split at done
    · cases done
    · rename_i place leads
      split at done
      · cases done
      · rename_i free
        rw [not_or, Bool.not_eq_true', Bool.not_eq_false, Bool.not_eq_true, Option.isSome_eq_false_iff,
          Option.isNone_iff_eq_none] at free
        refine .inr ⟨place, leads, free.1, ?_, free.2, (Option.some.inj done).symm⟩
        rintro rfl
        rw [tree.directory?_up leads] at missing
        exact missing rfl

theorem makes_put (tree : disk.IsTree) {path place : Path} {name : String} (step : isStep name = true)
    (down : name ≠ "..") (leads : disk.directory? path = some place)
    (vacant : disk.item? (place ++ [name]) = none) :
    Makes (path ++ [name]) disk (disk.put (place ++ [name]) .directory) := by
  have ne : place ++ [name] ≠ [] := by simp
  have item := item?_put ne vacant .directory
  obtain ⟨walks, stands⟩ := directory?_eq_some_iff.1 leads
  have grows : disk.Grows (disk.put (place ++ [name]) .directory) := by
    intro other
    rw [item other]
    split
    · rename_i here
      exact .inr ⟨here ▸ vacant, rfl⟩
    · exact .inl rfl
  refine ⟨?_, rfl, ?_⟩
  · intro entry member
    have standing : disk.item? entry.1.dropLast = some .directory ->
        (disk.put (place ++ [name]) .directory).item? entry.1.dropLast = some .directory := by
      intro around
      rw [grows.item? (by rw [around]; nofun), around]
    rw [put, writeItem_of_vacant (by rwa [item?_of_ne_nil ne] at vacant)] at member
    rcases List.mem_append.1 member with old | new
    · exact ⟨(tree entry old).1, standing (tree entry old).2⟩
    · obtain rfl := List.mem_singleton.1 new
      exact ⟨ne, standing (by rwa [List.dropLast_concat])⟩
  · intro other
    rcases grows other with same | ⟨vacant', new⟩
    · exact .inl same
    · refine .inr ⟨vacant', new, grows.mem_way maxLinks [] _ ?_⟩
      have here : other = place ++ [name] := by
        by_contra elsewhere
        rw [item other, if_neg elsewhere, vacant'] at new
        cases new
      obtain ⟨left, -, behind⟩ := exists_walk_append maxLinks [name] walks stands
      have skipped : ¬ (name = "" ∨ name = ".") := by simpa [isStep, not_or] using step
      rw [here]
      apply behind
      cases left <;> simp [way, wayWith, skipped, down]

theorem makes_makeDirectory? (tree : disk.IsTree) {path : Path} {name : String} {made : Disk}
    (step : isStep name = true) (done : disk.makeDirectory? path name = some made) :
    Makes (path ++ [name]) disk made := by
  rcases makeDirectory?_cases tree done with rfl | ⟨place, leads, -, down, vacant, rfl⟩
  · exact .refl tree
  · exact makes_put tree step down leads vacant

theorem makes_makeDirectoriesFrom (tree : disk.IsTree) (path : Path) {rest : Path}
    (steps : ∀ name ∈ rest, isStep name = true) :
    Makes (path ++ rest) disk (disk.makeDirectoriesFrom path rest).2 := by
  induction rest generalizing disk path with
  | nil => exact .refl tree
  | cons name rest ih =>
      unfold makeDirectoriesFrom
      split
      · exact .refl tree
      · rename_i made done
        have first := makes_makeDirectory? tree (steps name List.mem_cons_self) done
        have others := ih first.isTree (path ++ [name]) fun name member =>
          steps name (List.mem_cons_of_mem _ member)
        have whole : path ++ name :: rest = (path ++ [name]) ++ rest := by simp
        rw [whole]
        exact (first.append rest).trans others

theorem makes_makeDirectories (tree : disk.IsTree) (path : Path) :
    Makes path disk (disk.makeDirectories path).2 := by
  have steps : ∀ name ∈ path.filter isStep, isStep name = true :=
    fun name member => (List.mem_filter.1 member).2
  have made := makes_makeDirectoriesFrom tree [] steps
  refine ⟨made.isTree, made.guarded, fun place => ?_⟩
  have known := made.item? place
  rwa [List.nil_append, stops, way_filter] at known

/-! ## Plain paths -/

/-- Whether names lead from a directory through directories only, as far as anything stands there. -/
def IsPlain (disk : Disk) : Path -> Path -> Prop
  | _, [] => True
  | directory, name :: rest =>
    (isName name = true ∧ name ≠ "." ∧ name ≠ "..") ∧
      (disk.item? (directory ++ [name]) = none ∨ disk.item? (directory ++ [name]) = some .directory) ∧
      IsPlain disk (directory ++ [name]) rest

instance decidableIsPlain (disk : Disk) : (directory path : Path) -> Decidable (disk.IsPlain directory path)
  | _, [] => .isTrue trivial
  | directory, name :: rest =>
    have := decidableIsPlain disk (directory ++ [name]) rest
    inferInstanceAs (Decidable (_ ∧ _ ∧ _))

theorem Grows.isPlain (grows : disk.Grows grown) {directory rest : Path}
    (plain : disk.IsPlain directory rest) : grown.IsPlain directory rest := by
  induction rest generalizing directory with
  | nil => trivial
  | cons name rest ih =>
      obtain ⟨proper, vacant | stands, onward⟩ := plain
      · refine ⟨proper, ?_, ih onward⟩
        rcases grows (directory ++ [name]) with same | ⟨-, new⟩
        · exact .inl (same.trans vacant)
        · exact .inr new
      · refine ⟨proper, .inr ?_, ih onward⟩
        rw [grows.item? (by rw [stands]; nofun), stands]

theorem ne_of_isName {name : String} (proper : isName name = true) : name ≠ "" := by
  rintro rfl
  revert proper
  decide

/-- A name that is no dot leads from a directory to the entry of this name. -/
theorem walk_singleton (links : Nat) (directory : Path) {name : String} (proper : isName name = true)
    (stay : name ≠ ".") (down : name ≠ "..")
    (free : disk.item? (directory ++ [name]) = none ∨
      disk.item? (directory ++ [name]) = some .directory) :
    disk.walk links directory [name] = some (directory ++ [name]) := by
  have named := ne_of_isName proper
  cases links <;> rcases free with free | free <;>
    simp [walk, walkWith, named, stay, down, proper, free]

/-- A directory of a plain name stands once it is made, whether or not it stood before. -/
theorem IsTree.directory?_makeDirectory? (tree : disk.IsTree) {directory : Path} {name : String}
    (here : disk.directory? directory = some directory) (proper : isName name = true)
    (stay : name ≠ ".") (down : name ≠ "..")
    (free : disk.item? (directory ++ [name]) = none ∨
      disk.item? (directory ++ [name]) = some .directory) :
    ∃ made, disk.makeDirectory? directory name = some made ∧ Makes (directory ++ [name]) disk made ∧
      made.directory? (directory ++ [name]) = some (directory ++ [name]) := by
  obtain ⟨walks, stands⟩ := directory?_eq_some_iff.1 here
  have step : isStep name = true := by simp [isStep, ne_of_isName proper, stay]
  rcases free with vacant | there
  · have makes := makes_put tree step down here vacant
    refine ⟨_, ?_, makes, ?_⟩
    · obtain ⟨left, onward, -⟩ := exists_walk_append maxLinks [name] walks stands
      rw [walk_singleton left directory proper stay down (.inl vacant)] at onward
      have missing : disk.directory? (directory ++ [name]) = none := by
        simp [directory?, locate?, onward, vacant]
      simp [makeDirectory?, missing, add?, here, proper, vacant]
    · have new : (disk.put (directory ++ [name]) .directory).item? (directory ++ [name]) =
          some .directory := by
        rw [item?_put (by simp) vacant, if_pos rfl]
      obtain ⟨walks, stands⟩ := directory?_eq_some_iff.1 (makes.grows.directory? here)
      obtain ⟨left, onward, -⟩ := exists_walk_append maxLinks [name] walks stands
      rw [walk_singleton left directory proper stay down (.inr new)] at onward
      exact directory?_eq_some_iff.2 ⟨onward, new⟩
  · obtain ⟨left, onward, -⟩ := exists_walk_append maxLinks [name] walks stands
    rw [walk_singleton left directory proper stay down (.inr there)] at onward
    have found := directory?_eq_some_iff.2 ⟨onward, there⟩
    exact ⟨disk, by simp [makeDirectory?, found], .refl tree, found⟩

theorem IsTree.directory?_makeDirectoriesFrom (tree : disk.IsTree) {directory rest : Path}
    (here : disk.directory? directory = some directory) (plain : disk.IsPlain directory rest) :
    (disk.makeDirectoriesFrom directory rest).2.directory? (directory ++ rest) =
      some (directory ++ rest) := by
  induction rest generalizing disk directory with
  | nil => simpa [makeDirectoriesFrom] using here
  | cons name rest ih =>
      obtain ⟨⟨proper, stay, down⟩, free, onward⟩ := plain
      obtain ⟨made, done, makes, there⟩ := tree.directory?_makeDirectory? here proper stay down free
      have whole : directory ++ name :: rest = (directory ++ [name]) ++ rest := by simp
      rw [makeDirectoriesFrom, done, whole]
      exact ih makes.isTree there (makes.grows.isPlain onward)

theorem IsPlain.isStep_of_mem {directory path : Path} (plain : disk.IsPlain directory path) :
    ∀ name ∈ path, isStep name = true := by
  induction path generalizing directory with
  | nil => nofun
  | cons first rest ih =>
      obtain ⟨⟨proper, stay, -⟩, -, onward⟩ := plain
      rintro name (_ | ⟨_, member⟩)
      · simp [isStep, ne_of_isName proper, stay]
      · exact ih onward name member

/-- A plain path leads to itself once its directories are made. -/
theorem IsTree.directory?_makeDirectories (tree : disk.IsTree) {path : Path}
    (plain : disk.IsPlain [] path) : (disk.makeDirectories path).2.directory? path = some path := by
  have unfiltered : path.filter isStep = path := List.filter_eq_self.2 plain.isStep_of_mem
  have here : disk.directory? [] = some [] := rfl
  have made := tree.directory?_makeDirectoriesFrom here plain
  unfold makeDirectories
  rw [show path.components = path.filter isStep from rfl, unfiltered]
  exact made

/-- The places on the way of a plain path are those around its end, and its end. -/
theorem IsPlain.prefix_of_mem_way {directory path stop : Path} (plain : disk.IsPlain directory path)
    (links : Nat) (member : stop ∈ disk.way links directory path) : stop <+: directory ++ path := by
  induction path generalizing directory with
  | nil => cases links <;> simp [way, wayWith] at member
  | cons name rest ih =>
      obtain ⟨⟨proper, stay, down⟩, free, onward⟩ := plain
      have named := ne_of_isName proper
      have whole : directory ++ name :: rest = (directory ++ [name]) ++ rest := by simp
      have here : stop = directory ++ [name] ∨ stop ∈ disk.way links (directory ++ [name]) rest := by
        cases links <;> rcases free with free | free <;>
          simp_all [way, wayWith]
      rw [whole]
      rcases here with rfl | behind
      · exact List.prefix_append _ _
      · exact ih onward behind

end Disk

end ScriptOracle.Sandbox
