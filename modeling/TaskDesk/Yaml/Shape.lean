import TaskDesk.Yaml.Node

/-!
# Records in YAML documents

A mapping is taken as a record of named fields as in JSON; in addition, a place where nothing
is written is a record without fields, and a list without items.  A text is any scalar as it
is written.  Truth values are the words `true` and `false`, and `null` and `~` stand for an
absent value, all in lower case, upper case or with a capital letter.

An alias is read as the node behind it.  Since a few aliases may stand for very many nodes, a
`Node.Read` can follow only so many of them.
-/

namespace TaskDesk.Yaml

namespace Node

/-- How deep the collections of a document may be nested. -/
def depthLimit : Nat := 128

/-- How many aliases may be followed for every node of a document. -/
def aliasLimit : Nat := 100

/-- Something read from the nodes of a document, where aliases stand for the given nodes.  The
state is how many aliases may still be followed. -/
abbrev Read (α : Type) : Type := ReaderT (List (Nat × Node)) (StateT Nat Option) α

/-- A node, or the node behind it if it is an alias. -/
def follow : Node → Read Node
  | .alias number => do
    match ← get, (← read).lookup number with
    | left + 1, some n => do
      set left
      pure n
    | _, _ => failure
  | n => pure n

/-- The words for an absent value. -/
def isNullWord (s : String) : Bool :=
  s = "null" || s = "Null" || s = "NULL" || s = "~"

/-- The truth value that a word stands for. -/
def boolWord? (s : String) : Option Bool :=
  if s = "true" ∨ s = "True" ∨ s = "TRUE" then some true
  else if s = "false" ∨ s = "False" ∨ s = "FALSE" then some false
  else none

/-- The tag of the type of the given name. -/
def coreTag (name : String) : String :=
  "tag:yaml.org,2002:" ++ name

/-- The text of a scalar. -/
def readText (n : Node) : Read String := do
  match ← n.follow with
  | .scalar _ _ s => pure s
  | _ => failure

/-- A truth value; it must be plain, or a literal block with its tag. -/
def readBool (n : Node) : Read Bool := do
  match ← n.follow with
  | .scalar tag style s =>
    match boolWord? s with
    | some b =>
      if style = .plain ∨ (style = .literal ∧ tag = some (coreTag "bool")) then pure b else failure
    | none => failure
  | _ => failure

/-- Whether a plain scalar stands for an absent value; one with the tag of null must. -/
def isAbsent (tag : Option String) (s : String) : Read Bool :=
  match tag with
  | some tag =>
    if tag ≠ coreTag "null" then pure false
    else if isNullWord s then pure true
    else failure
  | none => pure (s = "" || isNullWord s)

/-- A node that may be absent: empty, or a plain word for an absent value. -/
def readOption {α : Type} (read : Node → Read α) (n : Node) : Read (Option α) := do
  let n ← n.follow
  let absent ← match n with
    | .scalar tag .plain s => isAbsent tag s
    | _ => pure false
  if absent then pure none else some <$> read n

/-- The items of a sequence, each read. -/
def readList {α : Type} (read : Node → Read α) (n : Node) : Read (List α) := do
  match ← n.follow with
  | .sequence _ items => items.mapM read
  | .scalar _ .plain "" => pure []
  | _ => failure

/-- A node as a record with the given field names: for each name its node, if it is there.
Entries of other names are passed over, a name of the record must not occur twice. -/
def readShape (names : List String) (n : Node) : Read (List (Option Node)) := do
  match ← n.follow with
  | .mapping _ entries =>
    let entries ← entries.mapM fun (k, v) => (·, v) <$> readText k
    let known := entries.filter fun e => names.contains e.1
    if (known.map Prod.fst).Nodup then pure (names.map fun n => known.lookup n) else failure
  | .scalar _ .plain "" => pure (names.map fun _ => none)
  | _ => failure

/-- A field with a default for its absence. -/
def orElse {α : Type} (default : α) (read : Node → Read α) : Option Node → Read α
  | none => pure default
  | some n => read n

end Node

/-- What is read from the root of a document. -/
def Document.read? {α : Type} (d : Document) (read : Node → Node.Read α) : Option α :=
  (((read d.root).run d.targets).run (Node.aliasLimit * d.root.size)).map Prod.fst

end TaskDesk.Yaml
