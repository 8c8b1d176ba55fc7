import Std.Time.DateTime.Timestamp
import TaskDesk.CommandLine.Program
import TaskDesk.Task.Identifier
import TaskDesk.Time.Unix

/-!
# The command line

Runs the program on the files, the environment and the clock of the computer.  How long a
command waits for data sources is part of what it computes; no time passes meanwhile.
-/

namespace TaskDesk.CommandLine

/-- The kind of an error of the computer; `other` where a file or a directory of the wrong kind
stands. -/
def errorKind (other : FileError) : IO.Error → Option FileError
  | .noFileOrDirectory .. => some .notFound
  | .alreadyExists .. => some .alreadyExists
  | .inappropriateType .. => some other
  | .invalidArgument .. => some .invalidFilename
  | _ => none

/-- Tries to work on files. -/
def tryFile {α : Type} (other : FileError) (act : IO α) : IO (Except FileError α) := do
  match ← act.toBaseIO with
  | .ok a => pure (.ok a)
  | .error e =>
    match errorKind other e with
    | some kind => pure (.error kind)
    | none => throw e

/-- Whether there is a directory under a path: only then can its part `.` be opened. -/
def isDirectory (path : String) : IO Bool := do
  match ← (IO.FS.Handle.mk (Path.join path ".") .read).toBaseIO with
  | .ok _ => pure true
  | .error _ => pure false

/-- What stands under a path. -/
def lookAt (path : String) : IO (Option Entry) := do
  if ← isDirectory path then pure (some .directory)
  else
    match ← tryFile .notADirectory (IO.FS.readBinFile path) with
    | .ok bytes => pure (some (.ofBytes bytes.toList))
    | .error _ => pure none

/-- The file under a path. -/
def readEntry (path : String) : IO (Except FileError Entry) := do
  pure ((← tryFile .isADirectory (IO.FS.readBinFile path)).map fun bytes => .ofBytes bytes.toList)

/-- The directory of a task file under a path. -/
def taskDirAt (path : String) : IO TaskDir := do
  pure ⟨← isDirectory path, ← lookAt (Path.join path TaskDir.fileName),
    ← lookAt (Path.join path TaskDir.temporaryName)⟩

/-- Leaves the directory of a task file in another state; a new task file is written under the
other name first. -/
def keepAt (path : String) (t : TaskDir) : IO Unit := do
  let old ← taskDirAt path
  let temporary := Path.join path TaskDir.temporaryName
  match t.file, t.temporary with
  | some (.text s), none =>
    if old.file ≠ t.file then
      IO.FS.writeFile temporary s
      IO.FS.rename temporary (Path.join path TaskDir.fileName)
  | _, some (.text s) => IO.FS.writeFile temporary s
  | _, _ => pure ()

instance : FileSystem IO where
  isFile path := do pure ((← lookAt path).any fun e => e ≠ .directory)
  read path := do pure ((← readEntry path).bind fun e => Entry.read (some e))
  readLossy path := do pure ((← readEntry path).bind fun e => Entry.readLossy (some e))
  makeDirs path := tryFile .notADirectory (IO.FS.createDirAll path)
  makeFile path := do
    let _ ← IO.FS.Handle.mk path .append
  taskDir := taskDirAt
  keepTaskDir := keepAt

/-- The variables of the process. -/
def readEnvironment : IO Environment := do
  match String.fromUTF8? (← IO.FS.readBinFile "/proc/self/environ") with
  | none => pure []
  | some text =>
    pure ((text.splitOn "\x00").filterMap fun entry =>
      match entry.splitOn "=" with
      | name :: value :: rest => some (name, String.intercalate "=" (value :: rest))
      | _ => none)

/-- Where the program runs. -/
def surroundings : IO Surroundings := do
  let now ← Std.Time.Timestamp.now
  let bytes ← IO.getRandomBytes 16
  pure {
    environment := ← readEnvironment
    accountHome := "/root"
    now := .ofUnixNanos now.toNanosecondsSinceUnixEpoch.val.toNat
    freshId := Identifier.ofBytes (bytes.toList.map UInt8.toNat) }

/-- What is told about a failure, from the outside in. -/
def Failure.text (f : Failure) : String :=
  String.intercalate ": " (f.doing ++ (f.cause.map Cause.message).toList)

/-- How the program is used. -/
def usageText : String :=
  "Usage: dbtask [--config PATH] [--log-level LEVEL] [--log-file PATH] COMMAND\n" ++
  "Commands: " ++ String.intercalate ", " (helpCommand :: commandNames)

/-- Tells how the program ended. -/
def Ending.tell : Ending → IO Unit
  | .done output => IO.print output
  | .failed f => IO.eprintln ("Error: " ++ f.text)
  | .usage .version => IO.println "dbtask 0.1.0"
  | .usage .help => IO.println usageText
  | .usage _ => IO.eprintln usageText

end TaskDesk.CommandLine

open TaskDesk.CommandLine in
/-- Runs the program with the arguments. -/
def main (args : List String) : IO UInt32 := do
  let ending ← Program.run (← surroundings) args
  ending.tell
  return UInt32.ofNat ending.exitCode
