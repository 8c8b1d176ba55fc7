import TaskDesk.CommandLine.Arguments

/-!
# The commands of the program

An `Invocation` is what the arguments ask for: a `Command`, and the options that stand in
front of it.  `Invocation.read` reads the arguments.
-/

namespace TaskDesk.CommandLine

/-- What the program can be asked for. -/
inductive Command where
  | tree (all : Bool)
  | list
  | describe (name : String)
  | create (name taskType description : String) (folder : Option String) (limit : Option Nat)
  | edit (name : String) (taskType description folder : Option String)
      (limit : Option (Option Nat))
  | bind (name : String) (target : Option String)
  | run (name : String)
deriving DecidableEq, Repr

/-- A command with the options in front of it. -/
structure Invocation where
  settingsPath : Option String
  logLevel : String
  logFile : Option String
  command : Command
deriving DecidableEq, Repr

/-- The command that asks for help. -/
def helpCommand : String := "help"

/-- The names of the commands. -/
def commandNames : List String :=
  ["tree", "list", "show", "create", "edit", "bind", "run"]

/-- What stands in front of a command. -/
def frontGrammar : Grammar where
  options := [("config", .path), ("log-level", .text), ("log-file", .path),
    ("help", .stop .help), ("version", .stop .version)]
  letters := [('h', .help), ('V', .version)]
  takesName := false
  below := helpCommand :: commandNames

/-- What a command takes, which has some options and maybe a name. -/
def grammarOf (takesName : Bool) (options : List (String × OptionKind)) : Grammar where
  options := options ++ [("help", .stop .help)]
  letters := [('h', .help)]
  takesName := takesName
  below := []

namespace Command

/-- The options of a command with its name. -/
def grammar : String → Grammar
  | "tree" => grammarOf false [("all", .flag)]
  | "list" => grammarOf false []
  | "create" =>
    grammarOf false [("name", .text), ("type", .text), ("description", .text),
      ("folder", .text), ("max-exec-secs", .number)]
  | "edit" =>
    grammarOf true [("type", .text), ("description", .text), ("folder", .text),
      ("max-exec-secs", .number), ("no-time-limit", .flag)]
  | "bind" => grammarOf true [("target", .text)]
  | _ => grammarOf true []

/-- The options of a command that must be there. -/
def needed : String → List String
  | "tree" | "list" => []
  | "create" => ["name", "type"]
  | _ => [nameKey]

/-- The options of a command that exclude each other. -/
def excluding : String → List (String × String)
  | "edit" => [("max-exec-secs", "no-time-limit")]
  | _ => []

/-- The number of seconds that is given. -/
def secondsOf (v : Values) : Option Nat :=
  (v.get? "max-exec-secs").bind fun s => Text.word? s.toList

/-- The command with its name and values. -/
def ofValues (command : String) (v : Values) : Command :=
  let text (option : String) : String := (v.get? option).getD ""
  let name := text nameKey
  match command with
  | "tree" => .tree (v.has "all")
  | "list" => .list
  | "show" => .describe name
  | "create" =>
    .create (text "name") (text "type") (text "description") (v.get? "folder") (secondsOf v)
  | "edit" =>
    .edit name (v.get? "type") (v.get? "description") (v.get? "folder")
      (if v.has "no-time-limit" then some none else (secondsOf v).map some)
  | "bind" => .bind name (v.get? "target")
  | _ => .run name

/-- The command with its name and arguments. -/
def read (command : String) (args : List String) : Except Usage Command := do
  let (v, _) ← (grammar command).scan false Values.empty args
  let v ← v.settle
  v.judge (excluding command) (needed command)
  return ofValues command v

end Command

/-- What asking for help about commands comes to: only the commands themselves, and the command
for help, have any, and nothing stands below them. -/
def helpAbout : List String → Usage
  | [] => .help
  | [command] => if frontGrammar.below.contains command then .help else .invalidSubcommand
  | _ => .invalidSubcommand

/-- The command of an invocation, given what stands in front of it. -/
def Invocation.commandOf (v : Values) : Option (String × List String) → Except Usage Command
  | some (command, args) =>
    if command = helpCommand then .error (helpAbout args) else Command.read command args
  | none => v.settle.bind fun v =>
    .error (if v.settled.isEmpty then .nothingGiven else .missingSubcommand)

/-- What the arguments ask for. -/
def Invocation.read (args : List String) : Except Usage Invocation := do
  let (v, below) ← frontGrammar.scan false Values.empty args
  let command ← commandOf v below
  let v ← v.settle
  return {
    settingsPath := v.get? "config"
    logLevel := (v.get? "log-level").getD "info"
    logFile := v.get? "log-file"
    command }

end TaskDesk.CommandLine
