import TaskDesk.Files.Disk
import TaskDesk.Store.TaskDir

/-!
# Working on files

`FileSystem m` says that the actions of a monad can work on files.  They can on a `Disk` that
is passed from one action to the next.
-/

namespace TaskDesk

/-- The actions of a monad on files; paths are given as texts. -/
class FileSystem (m : Type → Type) where
  /-- Whether there is a file under a path. -/
  isFile : String → m Bool
  /-- The text of the file under a path. -/
  read : String → m (Except FileError String)
  /-- The text of the file under a path; what is no text in it is replaced. -/
  readLossy : String → m (Except FileError String)
  /-- Makes a directory with those on the way to it. -/
  makeDirs : String → m (Except FileError Unit)
  /-- Makes an empty file under a path, if there is none. -/
  makeFile : String → m Unit
  /-- The directory of a task file. -/
  taskDir : String → m TaskDir
  /-- Leaves the directory of a task file in another state. -/
  keepTaskDir : String → TaskDir → m Unit

namespace Disk

/-- The directory of a task file on a disk. -/
def taskDir (d : Disk) (p : Place) : TaskDir :=
  ⟨d.at? p = some .directory, d.at? (p ++ [TaskDir.fileName]), d.at? (p ++ [TaskDir.temporaryName])⟩

/-- The disk with an entry at a place, or without one. -/
def assign (d : Disk) (p : Place) : Option Entry → Disk
  | some e => d.put p e
  | none => d.erase p

/-- The disk with the two files of a task directory. -/
def keepTaskDir (d : Disk) (p : Place) (t : TaskDir) : Disk :=
  (d.assign (p ++ [TaskDir.fileName]) t.file).assign (p ++ [TaskDir.temporaryName]) t.temporary

/-- The disk with an empty file under a path, if there is none. -/
def makeFile (d : Disk) (path : String) : Disk :=
  match d.locate path with
  | .ok p => if (d.at? p).isSome then d else d.put p (.text "")
  | .error _ => d

end Disk

instance : FileSystem (StateM Disk) where
  isFile path := do pure ((← get).isFile path)
  read path := do pure ((← get).read path)
  readLossy path := do pure ((← get).readLossy path)
  makeDirs path := modifyGet fun d => d.makeDirs path
  makeFile path := modify fun d => d.makeFile path
  taskDir path := do
    match (← get).locate path with
    | .ok p => pure ((← get).taskDir p)
    | .error _ => pure TaskDir.removed
  keepTaskDir path t := modify fun d =>
    match d.locate path with
    | .ok p => d.keepTaskDir p t
    | .error _ => d

end TaskDesk
