import ScriptOracle.Sandbox.Scratch

/-!
# Locks of scratch directories

Scratch directories that are the same directory share one lock, however their paths are written: a
registry maps the place of a directory to its lock for as long as anyone holds it. `Registry.take`
gives the lock of a place to one run at a time.
-/

namespace ScriptOracle.Sandbox

/-- A scratch directory that is in use, with its key in the registry and its lock. -/
structure Tenant where
  key : Path
  lock : Nat
deriving DecidableEq, Repr

structure Registry where
  /-- The lock of each key. A lock that no tenant holds any more may linger here. -/
  locks : List (Path × Nat)
  /-- The directories in use, by the marks that were given out for them. -/
  tenants : List (Nat × Tenant)
  /-- The locks that are taken, with the marks of those that took them. -/
  taken : List (Nat × Nat)
  /-- The next mark and the next lock. -/
  fresh : Nat

namespace Registry

def blank : Registry := ⟨[], [], [], 0⟩

def isLive (registry : Registry) (lock : Nat) : Bool :=
  registry.tenants.any fun tenant => tenant.2.lock == lock

def prune (registry : Registry) : Registry :=
  { registry with locks := registry.locks.filter fun entry => registry.isLive entry.2 }

/-- The key of a directory: its place in the tree, or the names of its path if it has none. -/
def keyOf (disk : Disk) (root : Path) : Path := (disk.canonical? root).getD root.components

def join (registry : Registry) (tenant : Tenant) : Nat × Registry :=
  (registry.fresh, { registry with
    tenants := (registry.fresh, tenant) :: registry.tenants
    fresh := registry.fresh + 1 })

/-- A directory comes into use. It gets the lock that its key has, or a new one. -/
def enter (registry : Registry) (key : Path) : Nat × Registry :=
  let registry := registry.prune
  match registry.locks.lookup key with
  | some lock => registry.join ⟨key, lock⟩
  | none =>
    let lock := registry.fresh
    { registry with locks := (key, lock) :: registry.locks, fresh := lock + 1 }.join ⟨key, lock⟩

def tenant? (registry : Registry) (mark : Nat) : Option Tenant := registry.tenants.lookup mark

/-- A directory in use gets a second tenant. -/
def share (registry : Registry) (mark : Nat) : Option (Nat × Registry) :=
  (registry.tenant? mark).map registry.join

def isTaken (registry : Registry) (lock : Nat) : Bool :=
  registry.taken.any fun entry => entry.1 == lock

/-- A tenant takes its lock, unless someone has it. -/
def take (registry : Registry) (mark : Nat) : Option Registry :=
  match registry.tenant? mark with
  | none => none
  | some tenant =>
    if registry.isTaken tenant.lock then none
    else some { registry with taken := (tenant.lock, mark) :: registry.taken }

def giveBack (registry : Registry) (mark : Nat) : Registry :=
  { registry with taken := registry.taken.filter fun entry => entry.2 != mark }

/-- A tenant goes. While it has its lock it cannot go. -/
def leave (registry : Registry) (mark : Nat) : Registry :=
  if registry.taken.any fun entry => entry.2 == mark then registry
  else { registry with tenants := registry.tenants.filter fun tenant => tenant.1 != mark }

end Registry

end ScriptOracle.Sandbox
