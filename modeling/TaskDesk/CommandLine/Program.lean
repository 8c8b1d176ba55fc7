import TaskDesk.Catalog.BuiltIn
import TaskDesk.Catalog.Registry
import TaskDesk.CommandLine.Desk
import TaskDesk.CommandLine.LogFilter

/-!
# The program

`Program.run` reads the arguments, prepares the log, loads the settings and the catalog, opens
the tasks, and does the command, in this order; the first thing that goes wrong ends it.
-/

namespace TaskDesk.CommandLine

/-- What a program knows of where it runs. -/
structure Surroundings where
  environment : Environment
  accountHome : String
  now : Timestamp
  freshId : String

/-- How the program ends. -/
inductive Ending where
  | usage (u : Usage)
  | failed (f : Failure)
  | done (output : String)

/-- The exit code of the program. -/
def Ending.exitCode : Ending → Nat
  | .usage u => u.exitCode
  | .failed _ => 1
  | .done _ => 0

/-- What the program shows. -/
def Ending.output : Ending → String
  | .done output => output
  | _ => ""

/-- The catalog as it is defined, in a file or built in. -/
def catalogDefinition {m : Type → Type} [Monad m] [FileSystem m] (s : Settings) :
    m (Except Failure CatalogDefinition) := do
  match s.catalogPath with
  | none => pure (.ok .builtIn)
  | some path =>
    match CatalogDefinition.ofFile (← FileSystem.read path) with
    | .ok c => pure (.ok c)
    | .error e => pure (.error ((Failure.of (.catalog e)).within ("load catalog " ++ path)))

namespace Program

variable {m : Type → Type} [Monad m] [FileSystem m]

/-- Makes a directory in the course of something. -/
def makeDirs (doing : String) (cause : FileError → Cause) (path : String) :
    ExceptT Failure m Unit := do
  match ← (FileSystem.makeDirs path : m _) with
  | .ok () => pure ()
  | .error e => throw ((Failure.of (cause e)).within doing)

/-- Prepares the log. -/
def openLog (i : Invocation) : ExceptT Failure m Unit := do
  if !LogFilter.isFilter i.logLevel then throw ((Failure.of .logFilter).within "invalid log level")
  match i.logFile with
  | none => pure ()
  | some path =>
    if (Path.fileName? path).isNone then throw (.saying "log file path must name a file")
    let parent := Path.parent path
    let dir := if parent = "" then "." else parent
    makeDirs ("create log dir " ++ dir) .file dir
    (FileSystem.makeFile (Path.upToName path) : m Unit)

/-- Loads the settings. -/
def loadSettings (env : Environment) (path : Option String) : ExceptT Failure m Settings := do
  match ← (Settings.load env path : m _) with
  | .ok s => pure s
  | .error e => throw ((Failure.ofSettings e).within "load config")

/-- Builds the catalog. -/
def loadCatalog (s : Settings) : ExceptT Failure m Catalog := do
  let definition ← ExceptT.mk (catalogDefinition s)
  match definition.build with
  | .ok c => pure c
  | .error e => throw ((Failure.of (.catalog e)).within "load task catalog")

/-- Opens the tasks of the project in a directory. -/
def openTasks (project path : String) : ExceptT Failure m (Manager × TaskDir) := do
  makeDirs "open task store" (fun e => .storage (.file e)) path
  let dir ← (FileSystem.taskDir path : m TaskDir)
  match Manager.open? project dir with
  | .ok manager => pure (manager, dir)
  | .error e => throw ((Failure.of (.manager e)).within "load tasks")

/-- Does what the arguments ask for. -/
def invoke (around : Surroundings) (i : Invocation) : ExceptT Failure m String := do
  openLog i
  let settings ← loadSettings around.environment i.settingsPath
  let catalog ← loadCatalog settings
  let dataDir := settings.dataDir around.environment around.accountHome
  let path := Path.join dataDir settings.project.name
  let (manager, dir) ← openTasks settings.project.name path
  let desk : Desk := ⟨settings, catalog, manager, dir, around.now, around.freshId⟩
  let (answer, desk) := i.command.perform.run.run desk
  (FileSystem.keepTaskDir path desk.dir : m Unit)
  ExceptT.mk (pure answer)

/-- Runs the program. -/
def run (around : Surroundings) (args : List String) : m Ending := do
  match Invocation.read args with
  | .error u => pure (.usage u)
  | .ok i =>
    match ← (invoke around i).run with
    | .ok output => pure (.done output)
    | .error f => pure (.failed f)

end Program

end TaskDesk.CommandLine
