import ScriptOracle.Text.Utf8

/-!
# A file tree

Files, directories and symbolic links, each at a path of names from the root of the tree. A path that
callers write may hold dots and pass through links; `Disk.locate?` finds the place that it leads to, at
which something stands or a new entry could be made. Some entries may be guarded: the system refuses to
remove them.
-/

namespace ScriptOracle.Sandbox

abbrev Path := List String

/-- The names of a path that lead from one place to another. Paths that have the same are equal. -/
def Path.components (path : Path) : Path := path.filter fun name => name != "" && name != "."

/-- What stands at a path. -/
inductive Item where
  | file (content : Bytes)
  | directory
  /-- A link to a path from the root, or from the directory in which it stands. -/
  | link (fromRoot : Bool) (target : Path)
deriving DecidableEq, Repr

/-- A file tree. The root is a directory that always stands. -/
structure Disk where
  items : List (Path × Item)
  /-- What the system refuses to remove. -/
  guarded : Path -> Bool

namespace Disk

/-- A tree of nothing but its root. -/
def blank : Disk := ⟨[], fun _ => false⟩

def item? (disk : Disk) (path : Path) : Option Item :=
  if path.isEmpty then some .directory else disk.items.lookup path

def isName (name : String) : Bool :=
  !name.isEmpty && Text.byteCount name ≤ 255 && !name.toList.contains (Char.ofNat 0)

/-- Follows names from a directory. A link is handed to `follow`. -/
def walkWith (disk : Disk) (follow : Path -> Path -> Option Path) : Path -> Path -> Option Path
  | directory, [] => some directory
  | directory, name :: rest =>
    if name = "" ∨ name = "." then walkWith disk follow directory rest
    else if name = ".." then walkWith disk follow directory.dropLast rest
    else
      match disk.item? (directory ++ [name]) with
      | some .directory => walkWith disk follow (directory ++ [name]) rest
      | some (.file _) => if rest.isEmpty then some (directory ++ [name]) else none
      | some (.link fromRoot target) => follow (if fromRoot then [] else directory) (target ++ rest)
      | none => if rest.isEmpty && isName name then some (directory ++ [name]) else none

/-- Follows names from a directory through no more than so many links. -/
def walk (disk : Disk) : Nat -> Path -> Path -> Option Path
  | 0 => disk.walkWith fun _ _ => none
  | links + 1 => disk.walkWith (disk.walk links)

def maxLinks : Nat := 40

def locate? (disk : Disk) (path : Path) : Option Path := disk.walk maxLinks [] path

def directory? (disk : Disk) (path : Path) : Option Path :=
  (disk.locate? path).filter fun place => disk.item? place = some .directory

/-- The place that a path leads to, if something stands there. -/
def canonical? (disk : Disk) (path : Path) : Option Path :=
  (disk.locate? path).filter fun place => (disk.item? place).isSome

def names (disk : Disk) (place : Path) : List String :=
  disk.items.filterMap fun entry =>
    if entry.1.dropLast = place then entry.1.getLast? else none

def writeItem (path : Path) (item : Item) : List (Path × Item) -> List (Path × Item)
  | [] => [(path, item)]
  | (place, old) :: rest =>
    if place = path then (place, item) :: rest else (place, old) :: writeItem path item rest

def put (disk : Disk) (place : Path) (item : Item) : Disk :=
  { disk with items := writeItem place item disk.items }

def writeFile? (disk : Disk) (path : Path) (content : Bytes) : Option Disk :=
  match disk.locate? path with
  | none => none
  | some place =>
    match disk.item? place with
    | some .directory => none
    | _ => some (disk.put place (.file content))

/-- Adds an entry in the directory that a path leads to, unless the name is taken. -/
def add? (disk : Disk) (path : Path) (name : String) (item : Item) : Option Disk :=
  match disk.directory? path with
  | none => none
  | some place =>
    if !isName name ∨ (disk.item? (place ++ [name])).isSome then none
    else some (disk.put (place ++ [name]) item)

/-- Makes the directory of a name in the one that a path leads to; one that is there will do. -/
def makeDirectory? (disk : Disk) (path : Path) (name : String) : Option Disk :=
  if (disk.directory? (path ++ [name])).isSome then some disk
  else disk.add? path name .directory

/-- Makes the directories of the names that follow a path, one inside the other, up to the first that
cannot be made. Says whether all were. -/
def makeDirectoriesFrom (disk : Disk) (path : Path) : Path -> Bool × Disk
  | [] => (true, disk)
  | name :: rest =>
    match disk.makeDirectory? path name with
    | none => (false, disk)
    | some disk => makeDirectoriesFrom disk (path ++ [name]) rest

/-- Makes a directory with those around it, as far as that goes. -/
def makeDirectories (disk : Disk) (path : Path) : Bool × Disk :=
  disk.makeDirectoriesFrom [] path.components

def makeDirectories? (disk : Disk) (path : Path) : Option Disk :=
  let (made, disk) := disk.makeDirectories path
  if made then some disk else none

def addLink? (disk : Disk) (path target : Path) : Option Disk :=
  match path.getLast? with
  | none => none
  | some name => disk.add? path.dropLast name (.link true target)

def isWithin (place path : Path) : Bool := place.isPrefixOf path

/-- Whether something that the system refuses to remove stands at a place or below it. -/
def holdsGuarded (disk : Disk) (place : Path) : Bool :=
  disk.items.any fun entry => isWithin place entry.1 && disk.guarded entry.1

/-- Removes what stands at a place and below it. A link is removed and not followed. What is guarded
stays, with the directories around it. -/
def remove (disk : Disk) (place : Path) : Disk :=
  { disk with items := disk.items.filter fun entry =>
      !isWithin place entry.1 || disk.holdsGuarded entry.1 }

end Disk

end ScriptOracle.Sandbox
