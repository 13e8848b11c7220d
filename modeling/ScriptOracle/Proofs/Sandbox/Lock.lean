import Mathlib.Data.List.Nodup
import ScriptOracle.Proofs.Sandbox.Disk
import ScriptOracle.Sandbox.Lock

/-!
# One run to a directory

Directories come into use, are shared, go, and are taken and given back at any time and in any order. The
registry itself is locked while a directory comes into use, so arrivals do not overlap; but tenants come
and go between any two steps of an arrival, also between the look at an entry and the removal of the next
one. `Process.step` is one such step. Tenants of one key have one lock after every sequence of steps, and a
lock has one key, so that no key is ever leased twice.
-/

namespace ScriptOracle.Sandbox

namespace Registry

/-! ## The steps of an arrival -/

/-- Looks at an entry and drops it if nobody holds its lock. -/
def examine (registry : Registry) (entry : Path × Nat) : Registry :=
  if registry.isLive entry.2 then registry
  else { registry with locks := registry.locks.filter fun other => other != entry }

/-- A new lock for a key, in the place of one that it may have had. -/
def renew (registry : Registry) (key : Path) : Nat × Registry :=
  (registry.fresh, { registry with
    locks := (key, registry.fresh) :: registry.locks.filter fun entry => entry.1 != key
    fresh := registry.fresh + 1 })

/-- The lock that a key has if someone still holds it, or else a new one. -/
def claim (registry : Registry) (key : Path) : Nat × Registry :=
  match (registry.locks.lookup key).filter registry.isLive with
  | some lock => (lock, registry)
  | none => registry.renew key

def leases (registry : Registry) (key : Path) : List (Nat × Nat) :=
  registry.taken.filter fun entry => (registry.tenant? entry.2).any fun tenant => tenant.key == key

end Registry

/-- How far the directory that is coming into use has got. -/
inductive Arrival where
  | idle
  /-- The entries that it has still to look at. -/
  | sweeping (key : Path) (unseen : List (Path × Nat))
  /-- It holds its lock and is not yet a tenant. -/
  | holding (key : Path) (lock : Nat)

structure Process where
  registry : Registry
  arrival : Arrival

namespace Process

inductive Move where
  /-- A directory asks to come into use. Its key was read off this disk. -/
  | arrive (disk : Disk) (root : Path)
  /-- The arrival looks at one of its unseen entries, in any order. -/
  | examine (index : Nat)
  | claim
  | enter
  | share (mark : Nat)
  | leave (mark : Nat)
  | take (mark : Nat)
  | giveBack (mark : Nat)

def started : Process := ⟨.blank, .idle⟩

/-- One step of a process. A move that nobody is in a position to make changes nothing. -/
def step (process : Process) : Move -> Process
  | .arrive disk root =>
    match process.arrival with
    | .idle => { process with
        arrival := .sweeping (Registry.keyOf disk root) process.registry.locks }
    | _ => process
  | .examine index =>
    match process.arrival with
    | .sweeping key unseen =>
      match unseen[index]? with
      | some entry => ⟨process.registry.examine entry, .sweeping key (unseen.eraseIdx index)⟩
      | none => process
    | _ => process
  | .claim =>
    match process.arrival with
    | .sweeping key [] =>
      ⟨(process.registry.claim key).2, .holding key (process.registry.claim key).1⟩
    | _ => process
  | .enter =>
    match process.arrival with
    | .holding key lock => ⟨(process.registry.join ⟨key, lock⟩).2, .idle⟩
    | _ => process
  | .share mark =>
    match process.registry.share mark with
    | some (_, registry) => { process with registry }
    | none => process
  | .leave mark => { process with registry := process.registry.leave mark }
  | .take mark =>
    match process.registry.take mark with
    | some registry => { process with registry }
    | none => process
  | .giveBack mark => { process with registry := process.registry.giveBack mark }

def after (process : Process) (moves : List Move) : Process := moves.foldl step process

@[simp] theorem after_nil (process : Process) : process.after [] = process := rfl

@[simp] theorem after_cons (process : Process) (move : Move) (moves : List Move) :
    process.after (move :: moves) = (process.step move).after moves := rfl

end Process

/-! ## What a registry keeps -/

/-- What is found is found as well in what is left of the entries, if it is left itself. -/
theorem lookup_filter_of_kept {α β : Type} [BEq α] [LawfulBEq α] {key : α} {value : β}
    {entries : List (α × β)} {keeps : α × β -> Bool} (found : entries.lookup key = some value)
    (kept : keeps (key, value) = true) : (entries.filter keeps).lookup key = some value := by
  obtain ⟨before, behind, rfl, other⟩ := List.lookup_eq_some_iff.1 found
  refine List.lookup_eq_some_iff.2 ⟨before.filter keeps, behind.filter keeps, ?_, ?_⟩
  · rw [List.filter_append, List.filter_cons_of_pos kept]
  · intro entry member
    exact other entry (List.mem_of_mem_filter member)

namespace Registry

/-- What holds of the registry of a process between any two steps. -/
structure Sound (registry : Registry) : Prop where
  lock_lt : ∀ entry ∈ registry.locks, entry.2 < registry.fresh
  key_eq : ∀ a ∈ registry.locks, ∀ b ∈ registry.locks, a.2 = b.2 → a.1 = b.1
  mark_lt : ∀ entry ∈ registry.tenants, entry.1 < registry.fresh
  mapped : ∀ entry ∈ registry.tenants, registry.locks.lookup entry.2.key = some entry.2.lock
  held : ∀ entry ∈ registry.taken,
    ∃ tenant, registry.tenant? entry.2 = some tenant ∧ tenant.lock = entry.1
  taken_nodup : (registry.taken.map Prod.fst).Nodup

variable {registry : Registry}

theorem sound_blank : blank.Sound := by
  constructor <;> simp [blank]

theorem isLive_of_mem {entry : Nat × Tenant} (member : entry ∈ registry.tenants) :
    registry.isLive entry.2.lock = true :=
  List.any_eq_true.2 ⟨entry, member, beq_self_eq_true _⟩

theorem isTaken_iff {lock : Nat} :
    registry.isTaken lock = true ↔ ∃ entry ∈ registry.taken, entry.1 = lock := by
  simp only [isTaken, List.any_eq_true, beq_iff_eq]

/-- Fewer entries are sound as long as the tenants keep theirs. -/
theorem Sound.filterLocks (sound : registry.Sound) (keeps : Path × Nat -> Bool)
    (kept : ∀ entry ∈ registry.tenants, keeps (entry.2.key, entry.2.lock) = true) :
    { registry with locks := registry.locks.filter keeps }.Sound where
  lock_lt := fun entry member => sound.lock_lt entry (List.mem_of_mem_filter member)
  key_eq := fun a inA b inB =>
    sound.key_eq a (List.mem_of_mem_filter inA) b (List.mem_of_mem_filter inB)
  mark_lt := sound.mark_lt
  mapped := fun entry member => lookup_filter_of_kept (sound.mapped entry member) (kept entry member)
  held := sound.held
  taken_nodup := sound.taken_nodup

/-- An entry that is dropped was no tenant's: the lock of a tenant is held. -/
theorem Sound.examine (sound : registry.Sound) (entry : Path × Nat) : (registry.examine entry).Sound := by
  unfold Registry.examine
  split
  · exact sound
  · rename_i unheld
    apply sound.filterLocks
    intro tenant member
    rw [bne_iff_ne]
    rintro rfl
    exact unheld (isLive_of_mem member)

/-- A key gets a new lock when no tenant has the key. -/
theorem Sound.renew (sound : registry.Sound) {key : Path}
    (unheld : ∀ entry ∈ registry.tenants, entry.2.key ≠ key) : (registry.renew key).2.Sound := by
  have filtered := sound.filterLocks (fun entry => entry.1 != key)
    fun entry member => bne_iff_ne.2 (unheld entry member)
  constructor
  · rintro entry (_ | ⟨_, member⟩)
    · exact Nat.lt_succ_self _
    · exact Nat.lt_succ_of_lt (filtered.lock_lt entry member)
  · rintro a (_ | ⟨_, inA⟩) b (_ | ⟨_, inB⟩) same
    · rfl
    · exact absurd same.symm (Nat.ne_of_lt (filtered.lock_lt b inB))
    · exact absurd same (Nat.ne_of_lt (filtered.lock_lt a inA))
    · exact filtered.key_eq a inA b inB same
  · intro entry member
    exact Nat.lt_succ_of_lt (sound.mark_lt entry member)
  · intro entry member
    have other : (entry.2.key == key) = false := beq_false_of_ne (unheld entry member)
    rw [Registry.renew, List.lookup_cons, other]
    exact filtered.mapped entry member
  · exact sound.held
  · exact sound.taken_nodup

/-- The lock that is claimed is the one of the key from then on. -/
theorem Sound.claim (sound : registry.Sound) (key : Path) :
    (registry.claim key).2.Sound ∧
      (registry.claim key).2.locks.lookup key = some (registry.claim key).1 := by
  unfold Registry.claim
  split
  · rename_i lock found
    exact ⟨sound, (Option.filter_eq_some_iff.1 found).1⟩
  · rename_i missing
    refine ⟨sound.renew ?_, by rw [Registry.renew, List.lookup_cons_self]⟩
    rintro entry member rfl
    have found := sound.mapped entry member
    have held := isLive_of_mem member
    simp [found, held] at missing

/-- A tenant comes with the lock of its key. -/
theorem Sound.join (sound : registry.Sound) {tenant : Tenant}
    (mapped : registry.locks.lookup tenant.key = some tenant.lock) :
    (registry.join tenant).2.Sound where
  lock_lt := fun entry member => Nat.lt_succ_of_lt (sound.lock_lt entry member)
  key_eq := sound.key_eq
  mark_lt := by
    rintro entry (_ | ⟨_, member⟩)
    · exact Nat.lt_succ_self _
    · exact Nat.lt_succ_of_lt (sound.mark_lt entry member)
  mapped := by
    rintro entry (_ | ⟨_, member⟩)
    · exact mapped
    · exact sound.mapped entry member
  held := by
    intro entry member
    obtain ⟨holder, found, same⟩ := sound.held entry member
    have old := sound.mark_lt _ (mem_of_lookup found)
    refine ⟨holder, ?_, same⟩
    rw [tenant?, Registry.join, List.lookup_cons, beq_false_of_ne (Nat.ne_of_lt old)]
    exact found
  taken_nodup := sound.taken_nodup

theorem Sound.share (sound : registry.Sound) {mark new : Nat} {shared : Registry}
    (joined : registry.share mark = some (new, shared)) :
    shared.Sound ∧ ∃ tenant, registry.tenant? mark = some tenant ∧
      shared = (registry.join tenant).2 := by
  obtain ⟨tenant, found, same⟩ := Option.map_eq_some_iff.1 joined
  obtain rfl : shared = (registry.join tenant).2 := congrArg Prod.snd same.symm
  exact ⟨sound.join (sound.mapped _ (mem_of_lookup found)), tenant, found, rfl⟩

/-- The tenants that stay keep their marks: who has a lock does not go. -/
theorem Sound.leave (sound : registry.Sound) (mark : Nat) : (registry.leave mark).Sound := by
  unfold Registry.leave
  split
  · exact sound
  · rename_i without
    constructor
    · exact sound.lock_lt
    · exact sound.key_eq
    · exact fun entry member => sound.mark_lt entry (List.mem_of_mem_filter member)
    · exact fun entry member => sound.mapped entry (List.mem_of_mem_filter member)
    · intro entry member
      obtain ⟨holder, found, same⟩ := sound.held entry member
      refine ⟨holder, lookup_filter_of_kept found ?_, same⟩
      rw [bne_iff_ne]
      rintro rfl
      exact without (List.any_eq_true.2 ⟨entry, member, beq_self_eq_true _⟩)
    · exact sound.taken_nodup

/-- A lock is taken when nobody has it. -/
theorem Sound.take (sound : registry.Sound) {mark : Nat} {left : Registry}
    (taken : registry.take mark = some left) : left.Sound ∧ left.tenants = registry.tenants ∧
      left.locks = registry.locks := by
  unfold Registry.take at taken
  split at taken
  · cases taken
  · rename_i tenant found
    split at taken
    · cases taken
    · rename_i free
      obtain rfl := Option.some.inj taken
      refine ⟨⟨sound.lock_lt, sound.key_eq, sound.mark_lt, sound.mapped, ?_, ?_⟩, rfl, rfl⟩
      · rintro entry (_ | ⟨_, member⟩)
        · exact ⟨tenant, found, rfl⟩
        · exact sound.held entry member
      · rw [List.map_cons, List.nodup_cons]
        refine ⟨fun member => free ?_, sound.taken_nodup⟩
        obtain ⟨entry, inTaken, same⟩ := List.mem_map.1 member
        exact isTaken_iff.2 ⟨entry, inTaken, same⟩

theorem Sound.giveBack (sound : registry.Sound) (mark : Nat) : (registry.giveBack mark).Sound where
  lock_lt := sound.lock_lt
  key_eq := sound.key_eq
  mark_lt := sound.mark_lt
  mapped := sound.mapped
  held := fun entry member => sound.held entry (List.mem_of_mem_filter member)
  taken_nodup := sound.taken_nodup.sublist (List.filter_sublist.map Prod.fst)

end Registry

/-! ## Runs of a process -/

namespace Process

variable {known : Path -> Prop} {process : Process}

/-- What holds between any two steps, with keys that are known: the arrival has a known key, and once it has a
lock it is the one of its key. -/
structure Sound (known : Path -> Prop) (process : Process) : Prop where
  registry : process.registry.Sound
  tenants : ∀ entry ∈ process.registry.tenants, known entry.2.key
  sweeping : ∀ key unseen, process.arrival = .sweeping key unseen -> known key
  holding : ∀ key lock, process.arrival = .holding key lock ->
    known key ∧ process.registry.locks.lookup key = some lock

theorem sound_started : started.Sound known where
  registry := Registry.sound_blank
  tenants := fun _ member => by simp [started, Registry.blank] at member
  sweeping := nofun
  holding := nofun

/-- What the tenants do leaves the locks alone, so the arrival does not see it. -/
theorem Sound.withRegistry (sound : process.Sound known) {registry : Registry}
    (sane : registry.Sound) (locks : registry.locks = process.registry.locks)
    (tenants : ∀ entry ∈ registry.tenants, known entry.2.key) :
    { process with registry }.Sound known where
  registry := sane
  tenants := tenants
  sweeping := sound.sweeping
  holding := fun key lock same => by
    rw [locks]
    exact sound.holding key lock same

theorem Sound.arrive (sound : process.Sound known) {disk : Disk} {root : Path}
    (key : known (Registry.keyOf disk root)) : (process.step (.arrive disk root)).Sound known := by
  simp only [step]
  split
  · refine ⟨sound.registry, sound.tenants, ?_, nofun⟩
    rintro _ _ ⟨⟩
    exact key
  · exact sound

theorem Sound.examine (sound : process.Sound known) (index : Nat) :
    (process.step (.examine index)).Sound known := by
  simp only [step]
  split
  · rename_i key unseen sweeping
    split
    · rename_i entry _
      refine ⟨sound.registry.examine entry, ?_, ?_, nofun⟩
      · intro tenant member
        unfold Registry.examine at member
        split at member <;> exact sound.tenants tenant member
      · rintro _ _ ⟨⟩
        exact sound.sweeping key unseen sweeping
    · exact sound
  · exact sound

theorem Sound.claim (sound : process.Sound known) : (process.step .claim).Sound known := by
  simp only [step]
  split
  · rename_i key sweeping
    have claimed := sound.registry.claim key
    refine ⟨claimed.1, ?_, nofun, ?_⟩
    · intro tenant member
      unfold Registry.claim at member
      split at member <;> exact sound.tenants tenant member
    · rintro _ _ ⟨⟩
      exact ⟨sound.sweeping key [] sweeping, claimed.2⟩
  · exact sound

theorem Sound.enter (sound : process.Sound known) : (process.step .enter).Sound known := by
  simp only [step]
  split
  · rename_i key lock holding
    have ⟨isKnown, mapped⟩ := sound.holding key lock holding
    refine ⟨sound.registry.join mapped, ?_, nofun, nofun⟩
    rintro tenant (_ | ⟨_, member⟩)
    · exact isKnown
    · exact sound.tenants tenant member
  · exact sound

theorem Sound.share (sound : process.Sound known) (mark : Nat) :
    (process.step (.share mark)).Sound known := by
  simp only [step]
  split
  · rename_i shared joined
    obtain ⟨sane, tenant, found, rfl⟩ := sound.registry.share joined
    apply sound.withRegistry sane rfl
    rintro entry (_ | ⟨_, member⟩)
    · exact sound.tenants (mark, tenant) (mem_of_lookup found)
    · exact sound.tenants entry member
  · exact sound

theorem Sound.leave (sound : process.Sound known) (mark : Nat) :
    (process.step (.leave mark)).Sound known := by
  have sane := sound.registry.leave mark
  have locks : (process.registry.leave mark).locks = process.registry.locks := by
    unfold Registry.leave
    split <;> rfl
  apply sound.withRegistry sane locks
  intro entry member
  unfold Registry.leave at member
  split at member
  · exact sound.tenants entry member
  · exact sound.tenants entry (List.mem_of_mem_filter member)

theorem Sound.take (sound : process.Sound known) (mark : Nat) :
    (process.step (.take mark)).Sound known := by
  simp only [step]
  split
  · rename_i left taken
    have ⟨sane, tenants, locks⟩ := sound.registry.take taken
    apply sound.withRegistry sane locks
    rw [tenants]
    exact sound.tenants
  · exact sound

theorem Sound.giveBack (sound : process.Sound known) (mark : Nat) :
    (process.step (.giveBack mark)).Sound known :=
  sound.withRegistry (sound.registry.giveBack mark) rfl sound.tenants

theorem Sound.step (sound : process.Sound known) (move : Move)
    (keys : ∀ disk root, move = .arrive disk root -> known (Registry.keyOf disk root)) :
    (process.step move).Sound known := by
  cases move with
  | arrive disk root => exact sound.arrive (keys disk root rfl)
  | examine index => exact sound.examine index
  | claim => exact sound.claim
  | enter => exact sound.enter
  | share mark => exact sound.share mark
  | leave mark => exact sound.leave mark
  | take mark => exact sound.take mark
  | giveBack mark => exact sound.giveBack mark

theorem Sound.after (sound : process.Sound known) (moves : List Move)
    (keys : ∀ disk root, .arrive disk root ∈ moves -> known (Registry.keyOf disk root)) :
    (process.after moves).Sound known := by
  induction moves generalizing process with
  | nil => exact sound
  | cons move moves ih =>
      rw [after_cons]
      apply ih
      · apply sound.step move
        rintro disk root rfl
        exact keys disk root List.mem_cons_self
      · intro disk root member
        exact keys disk root (List.mem_cons_of_mem move member)

end Process

/-! ## Leases -/

namespace Registry

variable {registry : Registry} {mark : Nat} {tenant : Tenant}

theorem mem_leases {key : Path} {entry : Nat × Nat} :
    entry ∈ registry.leases key ↔ entry ∈ registry.taken ∧
      ∃ tenant, registry.tenant? entry.2 = some tenant ∧ tenant.key = key := by
  simp only [leases, List.mem_filter, Option.any_eq_true, beq_iff_eq]

theorem Sound.lookup_key (sound : registry.Sound) (found : registry.tenant? mark = some tenant) :
    registry.locks.lookup tenant.key = some tenant.lock :=
  sound.mapped _ (mem_of_lookup found)

theorem Sound.key_eq_iff (sound : registry.Sound) {other : Nat} {tenant' : Tenant}
    (found : registry.tenant? mark = some tenant) (found' : registry.tenant? other = some tenant') :
    tenant.key = tenant'.key ↔ tenant.lock = tenant'.lock := by
  have mapped := sound.lookup_key found
  have mapped' := sound.lookup_key found'
  constructor
  · intro same
    rw [same] at mapped
    exact Option.some.inj (mapped.symm.trans mapped')
  · exact sound.key_eq _ (mem_of_lookup mapped) _ (mem_of_lookup mapped')

/-- The leases of a key are of one lock, and a lock is taken once. -/
theorem Sound.length_leases_le (sound : registry.Sound) (key : Path) :
    (registry.leases key).length ≤ 1 := by
  cases all : registry.leases key with
  | nil => exact Nat.zero_le 1
  | cons first rest =>
      have lock_eq : ∀ entry ∈ registry.leases key, entry.1 = first.1 := by
        intro entry member
        obtain ⟨inTaken, tenant, found, hasKey⟩ := mem_leases.1 member
        obtain ⟨inTaken', tenant', found', hasKey'⟩ := mem_leases.1 (all ▸ List.mem_cons_self)
        obtain ⟨_, again, lock⟩ := sound.held entry inTaken
        obtain ⟨_, again', lock'⟩ := sound.held first inTaken'
        obtain rfl := Option.some.inj (found.symm.trans again)
        obtain rfl := Option.some.inj (found'.symm.trans again')
        rw [← lock, ← lock']
        exact (sound.key_eq_iff found found').1 (hasKey.trans hasKey'.symm)
      have same : (registry.leases key).map Prod.fst =
          List.replicate (registry.leases key).length first.1 := by
        rw [List.eq_replicate_iff, List.length_map]
        refine ⟨rfl, fun lock member => ?_⟩
        obtain ⟨entry, inLeases, rfl⟩ := List.mem_map.1 member
        exact lock_eq entry inLeases
      have nodup : ((registry.leases key).map Prod.fst).Nodup :=
        sound.taken_nodup.sublist (List.filter_sublist.map Prod.fst)
      rw [same, List.nodup_replicate] at nodup
      rwa [← all]

theorem Sound.take_isSome_iff (sound : registry.Sound) (found : registry.tenant? mark = some tenant) :
    (registry.take mark).isSome = true ↔ registry.leases tenant.key = [] := by
  have free : (registry.take mark).isSome = true ↔ registry.isTaken tenant.lock = false := by
    simp only [Registry.take, found]
    split <;> simp_all
  rw [free, List.eq_nil_iff_forall_not_mem, ← Bool.not_eq_true, isTaken_iff]
  constructor
  · rintro none entry member
    obtain ⟨inTaken, other, found', hasKey⟩ := mem_leases.1 member
    obtain ⟨_, again, lock⟩ := sound.held entry inTaken
    obtain rfl := Option.some.inj (found'.symm.trans again)
    exact none ⟨entry, inTaken, lock ▸ (sound.key_eq_iff found' found).1 hasKey⟩
  · rintro none ⟨entry, inTaken, lock⟩
    obtain ⟨other, found', lock'⟩ := sound.held entry inTaken
    have hasKey := (sound.key_eq_iff found' found).2 (lock'.trans lock)
    exact none entry (mem_leases.2 ⟨inTaken, other, found', hasKey⟩)

end Registry

/-! ## Arrivals that nothing comes between -/

namespace Registry

theorem examine_eq (registry : Registry) (entry : Path × Nat) :
    registry.examine entry = { registry with
      locks := registry.locks.filter fun other => registry.isLive other.2 || other != entry } := by
  unfold examine
  by_cases live : registry.isLive entry.2 = true
  · have all : ∀ other ∈ registry.locks, (registry.isLive other.2 || other != entry) = true := by
      intro other _
      by_cases same : other = entry
      · rw [same, live, Bool.true_or]
      · rw [bne_iff_ne.2 same, Bool.or_true]
    rw [if_pos live, List.filter_eq_self.2 all]
  · rw [if_neg live]
    congr 1
    apply List.filter_congr
    intro other _
    by_cases same : other = entry
    · rw [same, eq_false_of_ne_true live, Bool.false_or]
    · rw [bne_iff_ne.2 same, Bool.or_true]

/-- In a registry without unheld locks a claim finds the lock of its key or none. -/
theorem enter_eq (registry : Registry) (key : Path) :
    registry.enter key =
      (registry.prune.claim key).2.join ⟨key, (registry.prune.claim key).1⟩ := by
  unfold enter claim
  cases found : registry.prune.locks.lookup key with
  | none =>
      have others : ∀ entry ∈ registry.prune.locks, (entry.1 != key) = true := by
        intro entry member
        have differs := List.lookup_eq_none_iff.1 found entry member
        rw [bne_comm]
        exact differs
      simp only [found, Option.filter_none, renew, List.filter_eq_self.2 others]
  | some lock =>
      have live : registry.prune.isLive lock = true :=
        (List.mem_filter.1 (mem_of_lookup found)).2
      simp only [found, Option.filter_some, live, if_true]

end Registry

namespace Process

def arriving (registry : Registry) (disk : Disk) (root : Path) : List Move :=
  .arrive disk root :: List.replicate registry.locks.length (.examine 0) ++ [.claim, .enter]

theorem after_append (process : Process) (moves rest : List Move) :
    process.after (moves ++ rest) = (process.after moves).after rest :=
  List.foldl_append

theorem after_examine (registry : Registry) (key : Path) (unseen : List (Path × Nat)) :
    (⟨registry, .sweeping key unseen⟩ : Process).after (List.replicate unseen.length (.examine 0)) =
      ⟨{ registry with locks := registry.locks.filter fun entry =>
          registry.isLive entry.2 || !unseen.contains entry }, .sweeping key []⟩ := by
  induction unseen generalizing registry with
  | nil => simp
  | cons entry unseen ih =>
      rw [List.length_cons, List.replicate_succ, after_cons]
      simp only [step, List.getElem?_cons_zero, List.eraseIdx_zero, List.tail_cons]
      rw [ih, Registry.examine_eq, List.filter_filter]
      congr 2
      apply List.filter_congr
      intro other _
      simp only [Registry.isLive, List.contains_cons, Bool.not_or, bne]
      grind

/-- An arrival that nothing comes between is that of `Registry.enter`. -/
theorem after_arriving (process : Process) (idle : process.arrival = .idle) (disk : Disk) (root : Path) :
    process.after (arriving process.registry disk root) =
      ⟨(process.registry.enter (Registry.keyOf disk root)).2, .idle⟩ := by
  have swept : (process.registry.locks.filter fun entry =>
      process.registry.isLive entry.2 || !process.registry.locks.contains entry) =
        process.registry.prune.locks := by
    apply List.filter_congr
    intro entry member
    rw [List.contains_iff_mem.2 member, Bool.not_true, Bool.or_false]
  rw [arriving, List.cons_append, after_cons, after_append]
  simp only [step, idle]
  rw [after_examine, swept, Registry.enter_eq]
  rfl

/-- However the moves of a process come, tenants of one key have one lock and tenants of different keys have
different ones; the lock of a tenant is the one that its key has in the registry, and its key that of a
directory that came into use; a lease belongs to a tenant with its lock, a key has one lease at most, and a
tenant gets its lock exactly when its key has none. -/
theorem locks_agree (moves : List Move) :
    let process := started.after moves
    let registry := process.registry
    (∀ mark mark' tenant tenant', registry.tenant? mark = some tenant ->
      registry.tenant? mark' = some tenant' ->
        (tenant.key = tenant'.key ↔ tenant.lock = tenant'.lock)) ∧
    (∀ mark tenant, registry.tenant? mark = some tenant ->
      registry.locks.lookup tenant.key = some tenant.lock ∧
        ∃ disk root, .arrive disk root ∈ moves ∧ tenant.key = Registry.keyOf disk root) ∧
    (∀ lease ∈ registry.taken,
      ∃ tenant, registry.tenant? lease.2 = some tenant ∧ tenant.lock = lease.1) ∧
    (∀ key, (registry.leases key).length ≤ 1) ∧
    (∀ mark tenant, registry.tenant? mark = some tenant ->
      ((registry.take mark).isSome = true ↔ registry.leases tenant.key = [])) ∧
    (process.arrival = .idle -> ∀ disk root,
      process.after (arriving registry disk root) =
        ⟨(registry.enter (Registry.keyOf disk root)).2, .idle⟩) := by
  intro process registry
  have sound : process.Sound fun key =>
      ∃ disk root, .arrive disk root ∈ moves ∧ key = Registry.keyOf disk root :=
    sound_started.after moves fun disk root member => ⟨disk, root, member, rfl⟩
  refine ⟨?_, ?_, sound.registry.held, sound.registry.length_leases_le, ?_, process.after_arriving⟩
  · intro mark mark' tenant tenant' found found'
    exact sound.registry.key_eq_iff found found'
  · intro mark tenant found
    exact ⟨sound.registry.lookup_key found, sound.tenants _ (mem_of_lookup found)⟩
  · intro mark tenant found
    exact sound.registry.take_isSome_iff found

/-- The only tenant goes after the arrival has seen that its lock is held: the key gets a new lock. -/
example :
    let moves : List Move := [.arrive .blank ["a"], .claim, .enter, .arrive .blank ["a"], .examine 0,
      .leave 1, .claim, .enter, .share 3, .take 4, .take 3]
    (started.after moves).registry =
      ⟨[(["a"], 2)], [(4, ⟨["a"], 2⟩), (3, ⟨["a"], 2⟩)], [(2, 4)], 5⟩ := by
  rfl

end Process

end ScriptOracle.Sandbox
