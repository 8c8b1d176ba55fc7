import TaskDesk.Files.System
import TaskDesk.Ini.Document
import TaskDesk.Json5.Reader
import TaskDesk.Ron.Reader
import TaskDesk.Settings.Basic
import TaskDesk.Settings.Document
import TaskDesk.Settings.Merge
import TaskDesk.Toml.Document

/-!
# Loading settings

Settings come from a file, if one is named, and from the environment, which wins.  The format
of the file is told by the ending of its name; if there is no file of that name, known
endings are added to it.  Bytes in the file that are no text are replaced.
-/

namespace TaskDesk

/-- The formats of settings files. -/
inductive SettingsFormat where
  | toml
  | json
  | yaml
  | ini
  | ron
  | json5
deriving DecidableEq, Repr

namespace SettingsFormat

/-- The endings of names with their formats, in the order in which they are tried. -/
def endings : List (String × SettingsFormat) :=
  [("toml", .toml), ("json", .json), ("yaml", .yaml), ("yml", .yaml), ("ini", .ini), ("ron", .ron),
    ("json5", .json5)]

/-- The text without a byte order mark at its start. -/
def withoutMark (text : String) : String :=
  match text.toList with
  | '\ufeff' :: s => String.ofList s
  | _ => text

/-- The table in a text. -/
def table? (text : String) : SettingsFormat → Option (List (String × Setting))
  | .toml => Toml.ofText? text
  | .json => Setting.ofJsonText? text
  | .yaml => Setting.ofYaml? text
  | .ini => Ini.ofText? text
  | .ron => Ron.ofText? text
  | .json5 => Json5.ofText? text

end SettingsFormat

/-- Why settings could not be loaded. -/
inductive SettingsError where
  | unreadable (source : String)
  | malformed
deriving DecidableEq, Repr

/-- What was being done when settings could not be loaded. -/
def SettingsError.message : SettingsError → String
  | .unreadable source => "read config " ++ source
  | .malformed => "parse engine config"

namespace Settings

/-- The settings in a file, if there is one, and in the environment. -/
def combine (file : Option (List (String × Setting))) (env : Environment) :
    Except SettingsError Settings :=
  let all := ((Setting.table []).putAll (file.getD [])).putAll env.settings
  match ofSetting? all with
  | some s => .ok s
  | none => .error .malformed

variable {m : Type → Type} [Monad m] [FileSystem m]

/-- The first of some names with endings that is a file. -/
def findEnding (path : String) :
    List (String × SettingsFormat) → m (Option (String × SettingsFormat))
  | [] => pure none
  | (ending, format) :: rest => do
    if ← FileSystem.isFile (path ++ "." ++ ending) then pure (some (path ++ "." ++ ending, format))
    else findEnding path rest

/-- The file that a path names, with its format. -/
def findFile (path : String) :
    m (Option (String × SettingsFormat)) := do
  if ← FileSystem.isFile path then
    pure ((SettingsFormat.endings.lookup (Path.fileExtension path)).map fun f => (path, f))
  else if (Path.fileName? path).isNone then pure none
  else findEnding (Path.upToName path) SettingsFormat.endings

/-- The table in the file that a path names. -/
def fileTable (path : String) :
    m (Option (List (String × Setting))) := do
  match ← findFile path with
  | none => pure none
  | some (file, format) =>
    match ← FileSystem.readLossy file with
    | .ok text => pure (format.table? (SettingsFormat.withoutMark text))
    | .error _ => pure none

/-- Loads the settings. -/
def load (env : Environment) (path : Option String) :
    m (Except SettingsError Settings) := do
  match path with
  | none => pure (combine none env)
  | some path =>
    match ← fileTable path with
    | some table => pure (combine (some table) env)
    | none => pure (.error (.unreadable path))

end Settings

end TaskDesk
