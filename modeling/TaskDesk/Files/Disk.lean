import TaskDesk.Files.Entry
import TaskDesk.Files.Path
import TaskDesk.Keyed

/-!
# A tree of files

A `Disk` lists what stands at places below the root, which is always a directory, and says
where relative paths start.  `Disk.locate` finds the place of a path; every directory on the
way must be there.  `Disk.makeDirs` makes a directory with those on the way to it.
-/

namespace TaskDesk

/-- A place: the names on the way from the root. -/
abbrev Place := List String

/-- What stands at each place, and the directory where relative paths start. -/
structure Disk where
  here : Place
  entries : List (Place × Entry)
deriving Repr, Inhabited

namespace Disk

/-- What stands at a place. -/
def at? (d : Disk) (p : Place) : Option Entry :=
  if p = [] then some .directory else (d.entries.find? fun e => e.1 = p).map Prod.snd

/-- The disk with an entry at a place. -/
def put (d : Disk) (p : Place) (e : Entry) : Disk :=
  { d with entries := d.entries.filter (fun old => old.1 ≠ p) ++ [(p, e)] }

/-- The disk with nothing at a place. -/
def erase (d : Disk) (p : Place) : Disk :=
  { d with entries := d.entries.filter fun old => old.1 ≠ p }

/-- The place to which names lead from a directory; each must be one of a directory. -/
def enter (d : Disk) (p : Place) : List String → Except FileError Place
  | [] => .ok p
  | "." :: rest => d.enter p rest
  | ".." :: rest => d.enter p.dropLast rest
  | name :: rest => do
    Path.checkName name
    match d.at? (p ++ [name]) with
    | some .directory => d.enter (p ++ [name]) rest
    | some _ => .error .notADirectory
    | none => .error .notFound

/-- Where a path starts. -/
def start (d : Disk) (path : String) : Place :=
  if Path.isAbsolute path then [] else d.here

/-- The directory in which the entry of a path stands, and the name of the entry. -/
def locateIn (d : Disk) (path : String) : Except FileError (Place × Option String) := do
  Path.check path
  let p ← d.enter (d.start path) (Path.split path).1
  match (Path.split path).2 with
  | some name => do
    Path.checkName name
    pure (p, some name)
  | none => pure (p, none)

/-- The place of a path. -/
def locate (d : Disk) (path : String) : Except FileError Place :=
  (d.locateIn path).map fun (p, name) => p ++ name.toList

/-- What stands under a path. -/
def look (d : Disk) (path : String) : Except FileError (Option Entry) :=
  (d.locate path).map d.at?

/-- Whether there is a file under a path. -/
def isFile (d : Disk) (path : String) : Bool :=
  match d.look path with
  | .ok (some .directory) => false
  | .ok (some _) => true
  | _ => false

/-- Whether there is a directory under a path. -/
def isDirectory (d : Disk) (path : String) : Bool :=
  match d.look path with
  | .ok (some .directory) => true
  | _ => false

/-- The text of the file under a path. -/
def read (d : Disk) (path : String) : Except FileError String :=
  (d.look path).bind Entry.read

/-- The text of the file under a path; what is no text in it is replaced. -/
def readLossy (d : Disk) (path : String) : Except FileError String :=
  (d.look path).bind Entry.readLossy

/-- Makes the directory under a path, in one that is there. -/
def makeDir (d : Disk) (path : String) : Except FileError Disk := do
  Path.check path
  match ← d.locateIn (if Path.names path = [] then path else Path.withoutSlash path) with
  | (_, none) => .error .alreadyExists
  | (p, some name) =>
    match d.at? (p ++ [name]) with
    | some _ => .error .alreadyExists
    | none => .ok (d.put (p ++ [name]) .directory)

/-- An error, unless there is a directory under the path already. -/
def unlessThere (d : Disk) (path : String) (e : FileError) : Except FileError Unit :=
  if d.isDirectory path then .ok () else .error e

/-- Makes the directory under a path, with those on the way to it; `fuel` bounds their number.
What was made before something goes wrong stays. -/
def makeDirsWithin : Nat → Disk → String → Except FileError Unit × Disk
  | 0, d, _ => (.error .notFound, d)
  | fuel + 1, d, path =>
    if path = "" then (.ok (), d)
    else
      match d.makeDir path with
      | .ok d => (.ok (), d)
      | .error .notFound =>
        match makeDirsWithin fuel d (Path.parent path) with
        | (.error e, d) => (.error e, d)
        | (.ok (), d) =>
          match d.makeDir path with
          | .ok d => (.ok (), d)
          | .error e => (d.unlessThere path e, d)
      | .error e => (d.unlessThere path e, d)

/-- Makes the directory under a path, with those on the way to it. -/
def makeDirs (d : Disk) (path : String) : Except FileError Unit × Disk :=
  makeDirsWithin (path.length + 1) d path

/-- The path from the root to a place. -/
def pathTo (p : Place) : String :=
  "/" ++ String.intercalate "/" p

/-- The disk with an entry at a place and directories on the way to it, unless a file is in the
way. -/
def plant (d : Disk) (p : Place) (e : Entry) : Disk :=
  match d.makeDirs (pathTo p.dropLast) with
  | (.ok (), d) => d.put p e
  | (.error _, _) => d

end Disk

end TaskDesk
