import TaskDesk.Keyed
import TaskDesk.Text.Digits

/-!
# Reading arguments

A `Grammar` says which options a command takes, whether it takes a name, and which commands
stand below it.  `Grammar.scan` goes through the arguments up to the name of a command below
and collects `Values`; `Values.judge` tells whether the values go together.  An option
that takes a value waits for it; a value is looked at as soon as the next option, name or end
comes, so of two faults the one that is seen first counts.
-/

namespace TaskDesk.CommandLine

/-- Why arguments are no command to be done. -/
inductive Usage where
  | unknownArgument
  | invalidSubcommand
  | missingArgument
  | missingSubcommand
  | emptyValue
  | invalidValue
  | needlessValue
  | conflict
  | help
  | version
  | nothingGiven
deriving DecidableEq, Repr

/-- The exit code of the program; to ask for help is no failure. -/
def Usage.exitCode : Usage → Nat
  | .help | .version => 0
  | _ => 2

/-- What an option does: it is set, it takes a text, the path of a file or a whole number, or
it ends the program. -/
inductive OptionKind where
  | flag
  | text
  | path
  | number
  | stop (usage : Usage)
deriving DecidableEq, Repr

/-- What a command takes. -/
structure Grammar where
  options : List (String × OptionKind)
  letters : List (Char × Usage)
  takesName : Bool
  below : List String
deriving Repr, Inhabited

/-- The key of the name that a command takes. -/
def nameKey : String := ""

/-- The values of options and of the name as far as they were looked at, and the option that is
to be looked at, with its value if it has one. -/
structure Values where
  settled : List (String × String)
  pending : Option (String × OptionKind × Option String)
deriving Repr, Inhabited

namespace Values

/-- No values. -/
def empty : Values := ⟨[], none⟩

/-- The value under the name of an option. -/
def get? (v : Values) (option : String) : Option String :=
  Keyed.find? option v.settled

/-- Whether an option is set. -/
def has (v : Values) (option : String) : Bool :=
  Keyed.has option v.settled

/-- Whether a value suits an option. -/
def fit (kind : OptionKind) (value : String) : Except Usage Unit :=
  match kind with
  | .path => if value = "" then .error .emptyValue else .ok ()
  | .number => if (Text.word? value.toList).isSome then .ok () else .error .invalidValue
  | _ => .ok ()

/-- The values with an option looked at. -/
def add (v : Values) (option : String) (kind : OptionKind) (value : Option String) :
    Except Usage Values :=
  match value with
  | none => .error .emptyValue
  | some value =>
    if v.has option then .error .conflict
    else (fit kind value).map fun _ => ⟨Keyed.put option value v.settled, none⟩

/-- The values with the waiting option looked at. -/
def settle (v : Values) : Except Usage Values :=
  match v.pending with
  | none => .ok v
  | some (option, kind, value) => add v option kind value

/-- Whether an option waits for a value. -/
def isWaiting (v : Values) : Bool :=
  v.pending.any fun p => p.2.2.isNone

/-- The values with one for the option that waits. -/
def supply (v : Values) (value : String) : Values :=
  { v with pending := v.pending.map fun p => (p.1, p.2.1, some value) }

/-- The values with a name. -/
def addName (v : Values) (name : String) : Except Usage Values :=
  v.settle.map fun v => { v with settled := Keyed.put nameKey name v.settled }

/-- Looks at options that exclude each other, and then at those that must be there. -/
def judge (v : Values) (excluding : List (String × String)) (needed : List String) :
    Except Usage Unit :=
  if excluding.any fun e => v.has e.1 && v.has e.2 then .error .conflict
  else if needed.all v.has then .ok ()
  else .error .missingArgument

end Values

/-- An argument by its form. -/
inductive Argument where
  | rest
  | long (name : String) (value : Option String)
  | short (letter : Char)
  | plain
deriving DecidableEq, Repr

/-- The form of a text as an argument. -/
def Argument.of (arg : String) : Argument :=
  match arg.toList with
  | ['-', '-'] => .rest
  | '-' :: '-' :: s =>
    let name := String.ofList (s.takeWhile fun c => c ≠ '=')
    match s.dropWhile fun c => c ≠ '=' with
    | [] => .long name none
    | _ :: value => .long name (some (String.ofList value))
  | '-' :: c :: _ => .short c
  | _ => .plain

namespace Grammar

/-- The values with an option, and with its value if that is attached. -/
def takeOption (g : Grammar) (v : Values) (name : String) (value : Option String) :
    Except Usage Values :=
  match g.options.lookup name, value with
  | none, _ => .error .unknownArgument
  | some .flag, some _ => .error .needlessValue
  | some (.stop _), some _ => .error .needlessValue
  | some (.stop usage), none => v.settle.bind fun _ => .error usage
  | some .flag, none => v.settle.bind fun v => v.add name .flag (some "")
  | some kind, some value => v.settle.bind fun v => v.add name kind (some value)
  | some kind, none => v.settle.map fun v => { v with pending := some (name, kind, none) }

/-- Ends the program because of a letter. -/
def takeLetter (g : Grammar) (v : Values) (letter : Char) : Except Usage Values :=
  match g.letters.lookup letter with
  | none => .error .unknownArgument
  | some usage => v.settle.bind fun _ => .error usage

/-- The values with an argument that is no option; `isRest` if options have come to an end. -/
def place (g : Grammar) (v : Values) (isRest : Bool) (arg : String) : Except Usage Values :=
  if g.takesName && !v.has nameKey then v.addName arg
  else if g.below.isEmpty || (isRest && g.below.contains arg) then .error .unknownArgument
  else .error .invalidSubcommand

/-- The values of arguments, and the command below with the arguments for it, if one is named.
`isRest` if options have come to an end. -/
def scan (g : Grammar) (isRest : Bool) (v : Values) :
    List String → Except Usage (Values × Option (String × List String))
  | [] => .ok (v, none)
  | arg :: args =>
    if isRest then (g.place v true arg).bind fun v => scan g true v args
    else if !v.isWaiting && g.below.contains arg then .ok (v, some (arg, args))
    else
      match Argument.of arg with
      | .rest => scan g true v args
      | .long name value => (g.takeOption v name value).bind fun v => scan g false v args
      | .short letter => (g.takeLetter v letter).bind fun v => scan g false v args
      | .plain =>
        if v.isWaiting then scan g false (v.supply arg) args
        else (g.place v false arg).bind fun v => scan g false v args

end Grammar

end TaskDesk.CommandLine
