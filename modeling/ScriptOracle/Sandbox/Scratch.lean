import ScriptOracle.Sandbox.Disk

/-!
# The scratch directory

Every run has one directory to itself, which is emptied when the run takes it and again when the run
gives it back. Only the entries of the directory itself are counted; links are removed and what they
lead to is not touched. Emptying can be turned off.
-/

namespace ScriptOracle.Sandbox

structure Scratch where
  root : Path
  /-- Whether the directory is emptied at all. -/
  clears : Bool
deriving DecidableEq, Repr

namespace Scratch

/-- Makes sure that the directory stands, as far as that goes. -/
def prepare (space : Scratch) (disk : Disk) : Disk := (disk.makeDirectories space.root).2

/-- Opens a scratch directory, which is made if need be. -/
def create (root : Path) (clears : Bool) (disk : Disk) : Scratch × Disk :=
  (⟨root, clears⟩, prepare ⟨root, clears⟩ disk)

def entries (space : Scratch) (disk : Disk) : List String :=
  match disk.directory? space.root with
  | none => []
  | some place => disk.names place

/-- Whether the directory is empty or cannot be read. -/
def isEmpty (space : Scratch) (disk : Disk) : Bool := (space.entries disk).isEmpty

/-- Removes the entries of these names and counts those that are gone. -/
def removeAll (place : Path) : List String -> Disk -> Nat × Disk
  | [], disk => (0, disk)
  | name :: rest, disk =>
    let after := disk.remove (place ++ [name])
    let gone := if (after.item? (place ++ [name])).isNone then 1 else 0
    let (count, after) := removeAll place rest after
    (gone + count, after)

/-- Empties the directory as far as possible and counts the entries that are gone. -/
def clear (space : Scratch) (disk : Disk) : Nat × Disk :=
  if space.clears then
    match disk.directory? space.root with
    | none => (0, disk)
    | some place => removeAll place (disk.names place) disk
  else (0, disk)

def lease (space : Scratch) (disk : Disk) : Disk := (space.clear (space.prepare disk)).2

def release (space : Scratch) (disk : Disk) : Disk := (space.clear disk).2

end Scratch

end ScriptOracle.Sandbox
