import TaskDesk.Files.Entry
import TaskDesk.Files.Path
import TaskDesk.Store.Snapshot

/-!
# The directory of a task file

A `TaskDir` is the directory that holds the task file of a project: whether it is there, and
what stands under the names of the task file and of the temporary file beside it.
`TaskDir.load` reads the task file; a missing one holds no tasks.  `TaskDir.save` writes the
temporary file and then gives it the name of the task file.  Both steps can fail, which a
`SaveOutcome` says; `TaskDir.outcome` is the outcome that the state of the directory forces.
A failed save leaves the task file as it was.
-/

namespace TaskDesk

/-- The directory of a task file. -/
structure TaskDir where
  isThere : Bool
  file : Option Entry
  temporary : Option Entry
deriving DecidableEq, Repr

/-- Why a task file could not be read or written. -/
inductive StorageError where
  | file (e : FileError)
  | json
deriving DecidableEq, Repr

/-- The text of an error. -/
def StorageError.message : StorageError → String
  | .file e => "IO error: " ++ e.message
  | .json => "JSON error: <json>"

/-- How far a save comes. -/
inductive SaveOutcome where
  | saved
  | notWritten (e : FileError)
  | notRenamed (e : FileError)
deriving DecidableEq, Repr

namespace TaskDir

/-- The name of the task file. -/
def fileName : String := "tasks.json"

/-- The name of the temporary file. -/
def temporaryName : String := "tasks.tmp"

/-- A directory that is there and empty. -/
def new : TaskDir := ⟨true, none, none⟩

/-- The directory taken away with all it holds. -/
def removed : TaskDir := ⟨false, none, none⟩

/-- Tries to take the directory away under a path, and answers whether that was done: one whose
path ends with a single point is only emptied. -/
def remove (d : TaskDir) (path : String) : TaskDir × Bool :=
  if d.isThere && Path.endsInPoint path then (new, false) else (removed, d.isThere)

/-- The directory, made if it is not there. -/
def made (d : TaskDir) : TaskDir :=
  { d with isThere := true }

/-- The tasks that the task file holds. -/
def load (d : TaskDir) : Except StorageError Snapshot :=
  match d.file with
  | none => .ok Snapshot.empty
  | some entry =>
    match Entry.read (some entry) with
    | .error e => .error (.file e)
    | .ok text =>
      match Snapshot.read? text with
      | some s => .ok s
      | none => .error .json

/-- How far a save comes in a directory where nothing else goes wrong. -/
def outcome (d : TaskDir) : SaveOutcome :=
  if !d.isThere then .notWritten .notFound
  else if d.temporary = some .directory then .notWritten .isADirectory
  else if d.file = some .directory then .notRenamed .isADirectory
  else .saved

/-- The directory after a save. -/
def save (d : TaskDir) (outcome : SaveOutcome) (s : Snapshot) :
    TaskDir × Except StorageError Unit :=
  match outcome with
  | .saved => (⟨true, some (.text s.text), none⟩, .ok ())
  | .notWritten e => (d, .error (.file e))
  | .notRenamed e => ({ d with temporary := some (.text s.text) }, .error (.file e))

end TaskDir

end TaskDesk
