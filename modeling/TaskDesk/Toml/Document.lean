import TaskDesk.Toml.Scalar

/-!
# TOML documents

A document is a list of lines: a header names the table, or the list of tables, to which the
entries below it belong; an entry gives a value to a key, which can be a path.  A table is
`Open` as long as others may add to it, which depends on how it came about.
`Toml.ofText?` is the table that a text stands for.
-/

namespace TaskDesk.Toml

open TaskDesk.Text

/-- How a table came about: on the way to another one, by a header, or on the way in a key. -/
inductive Origin where
  | implied
  | header
  | dotted
deriving DecidableEq, Repr

/-- A part of a document while it is read: a value, a table, or a list of tables. -/
inductive Part where
  | value (s : Setting)
  | table (origin : Origin) (fields : List (String × Part))
  | tables (items : List (List (String × Part)))
deriving Inhabited

/-- The fields of a table. -/
abbrev Fields := List (String × Part)

/-- Changes the last item of a list. -/
def changeLast {α : Type} (f : α → Option α) : List α → Option (List α)
  | [] => none
  | [a] => (f a).map fun a => [a]
  | a :: rest => (changeLast f rest).map (a :: ·)

/-- Puts an entry under a path of names; tables on the way come about in the key. -/
def putEntry (value : Setting) : List String → Fields → Option Fields
  | [], _ => none
  | [name], fields =>
    if Keyed.has name fields then none else some (Keyed.put name (.value value) fields)
  | name :: path, fields =>
    let inside? : Option Fields := match Keyed.find? name fields with
      | none => some []
      | some (.table .dotted inner) => some inner
      | _ => none
    inside?.bind fun inner => (putEntry value path inner).map fun inner =>
      Keyed.put name (.table .dotted inner) fields

/-- Changes the fields of the table under a path of names; tables on the way are made if they
are missing, and of a list of tables the last one is meant. -/
def within (f : Fields → Option Fields) : List String → Fields → Option Fields
  | [], fields => f fields
  | name :: path, fields =>
    let put (p : Part) : Fields := Keyed.put name p fields
    match Keyed.find? name fields with
    | none => (within f path []).map fun inner => put (.table .implied inner)
    | some (.table origin inner) => (within f path inner).map fun inner => put (.table origin inner)
    | some (.tables items) =>
      (changeLast (within f path) items).map fun items => put (.tables items)
    | some (.value _) => none

/-- Opens a table by its header. -/
def openTable (name : String) (fields : Fields) : Option Fields :=
  match Keyed.find? name fields with
  | none => some (Keyed.put name (.table .header []) fields)
  | some (.table .implied inner) => some (Keyed.put name (.table .header inner) fields)
  | _ => none

/-- Opens one more table of a list. -/
def openItem (name : String) (fields : Fields) : Option Fields :=
  match Keyed.find? name fields with
  | none => some (Keyed.put name (.tables [[]]) fields)
  | some (.tables items) => some (Keyed.put name (.tables (items ++ [[]])) fields)
  | _ => none

mutual

/-- The setting that a part stands for. -/
def Part.setting : Part → Setting
  | .value s => s
  | .table _ fields => .table (settings fields)
  | .tables items => .list (tables items)

/-- The settings that fields stand for. -/
def settings : List (String × Part) → List (String × Setting)
  | [] => []
  | (name, p) :: rest => (name, p.setting) :: settings rest

/-- The tables that lists of fields stand for. -/
def tables : List (List (String × Part)) → List Setting
  | [] => []
  | fields :: rest => .table (settings fields) :: tables rest

end

/-- Whether a character may stand in a name without quotes. -/
def isBare (c : Char) : Bool :=
  c.isAlphanum || c = '_' || c = '-'

/-- A name and what follows it. -/
def name? (s : List Char) : Option (String × List Char) :=
  match s with
  | '"' :: _ | '\x27' :: _ => (text? false s).map fun (cs, r) => (String.ofList cs, r)
  | s =>
    match s.takeWhile isBare with
    | [] => none
    | cs => some (String.ofList cs, s.dropWhile isBare)

/-- How many names a key may have, and how deep values may be nested. -/
def depthLimit : Nat := 80

/-- A key as a path of at most so many names, and what follows it. -/
def names? : Nat → List Char → Option (List String × List Char)
  | 0, _ => none
  | most + 1, s =>
    (name? (dropSpace s)).bind fun (name, r) =>
      match dropSpace r with
      | '.' :: r => (names? most r).map fun (path, r) => (name :: path, r)
      | r => some ([name], r)

/-- A key as a path of names, and what follows it. -/
def key? (s : List Char) : Option (List String × List Char) :=
  names? depthLimit s

/-- The text after a comment, which holds no controls. -/
def dropComment? (s : List Char) : Option (List Char) :=
  match s with
  | '#' :: s =>
    let r := s.dropWhile isShown
    if r = [] || (afterBreak? r).isSome then some r else none
  | s => some s

/-- The text after blanks, line ends and comments. -/
def dropLines? : Nat → List Char → Option (List Char)
  | 0, _ => none
  | fuel + 1, s =>
    (dropComment? (dropSpace s)).bind fun s =>
      match afterBreak? s with
      | some s => dropLines? fuel s
      | none => some s

/-- Whether a character may stand in a scalar without quotes. -/
def isScalarChar (c : Char) : Bool :=
  isBare c || c = '+' || c = '.' || c = ':'

/-- The characters of a scalar without quotes, and what follows; a blank stands between a date
and a time. -/
def scalarChars (s : List Char) : List Char × List Char :=
  let word := s.takeWhile isScalarChar
  match s.dropWhile isScalarChar with
  | ' ' :: c :: r =>
    if word.length = 10 ∧ isDate word ∧ c.isDigit then
      (word ++ ' ' :: (c :: r).takeWhile isScalarChar, (c :: r).dropWhile isScalarChar)
    else (word, ' ' :: c :: r)
  | r => (word, r)

mutual

/-- A value with at most `depth` levels below it, and what follows it. -/
def value? : Nat → Nat → List Char → Option (Setting × List Char)
  | 0, _, _ => none
  | fuel + 1, depth, s =>
    match s with
    | '"' :: _ | '\x27' :: _ => (text? true s).map fun (cs, r) => (.text (String.ofList cs), r)
    | '[' :: s =>
      match depth with
      | 0 => none
      | depth + 1 => (items? fuel depth s).map fun (items, r) => (.list items, r)
    | '{' :: s =>
      match depth with
      | 0 => none
      | depth + 1 => (fields? fuel depth [] s).map fun (fields, r) => (.table (settings fields), r)
    | s =>
      let (word, r) := scalarChars s
      (scalar? word).map fun v => (v, r)

/-- The items of a list up to its closing bracket, and what follows. -/
def items? : Nat → Nat → List Char → Option (List Setting × List Char)
  | 0, _, _ => none
  | fuel + 1, depth, s => do
    match ← dropLines? fuel s with
    | ']' :: r => some ([], r)
    | s =>
      let (v, r) ← value? fuel depth s
      match ← dropLines? fuel r with
      | ']' :: r => some ([v], r)
      | ',' :: r => (items? fuel depth r).map fun (vs, r) => (v :: vs, r)
      | _ => none

/-- The fields of a table in braces up to the closing one, and what follows. -/
def fields? : Nat → Nat → Fields → List Char → Option (Fields × List Char)
  | 0, _, _, _ => none
  | fuel + 1, depth, fields, s => do
    match ← dropLines? fuel s with
    | '}' :: r => some (fields, r)
    | s =>
      let (path, r) ← key? s
      match ← dropLines? fuel r with
      | '=' :: r =>
        let (v, r) ← value? fuel depth (← dropLines? fuel r)
        let fields ← putEntry v path fields
        match ← dropLines? fuel r with
        | '}' :: r => some (fields, r)
        | ',' :: r => fields? fuel depth fields r
        | _ => none
      | _ => none

end

/-- An entry on a line as the path of its key and its value, and what follows. -/
def assignment? (fuel : Nat) (s : List Char) : Option (List String × Setting × List Char) :=
  (key? s).bind fun (path, r) =>
    match r with
    | '=' :: r => (value? fuel depthLimit (dropSpace r)).map fun (v, r) => (path, v, r)
    | _ => none

/-- The path of a header up to its closing brackets, and what follows. -/
def header? (closing : List Char) (s : List Char) : Option (List String × List Char) :=
  (key? s).bind fun (path, r) =>
    if closing.isPrefixOf r then some (path, r.drop closing.length) else none

/-- Opens what a header names, in the table on the way to it. -/
def openAt (f : String → Fields → Option Fields) (path : List String) (doc : Fields) :
    Option Fields :=
  path.getLast?.bind fun name => within (f name) path.dropLast doc

/-- The text after the end of a line, which may have a comment. -/
def lineEnd? (s : List Char) : Option (List Char) :=
  (dropComment? (dropSpace s)).bind fun s => if s = [] then some [] else afterBreak? s

/-- The document with the lines of a text; `here` is the path of the table that is open. -/
def lines? : Nat → List String → Fields → List Char → Option Fields
  | 0, _, _, _ => none
  | fuel + 1, here, doc, s => do
    match ← dropLines? fuel s with
    | [] => some doc
    | '[' :: '[' :: s =>
      (header? [']', ']'] s).bind fun (path, r) => (openAt openItem path doc).bind fun doc =>
        (lineEnd? r).bind (lines? fuel path doc)
    | '[' :: s =>
      (header? [']'] s).bind fun (path, r) => (openAt openTable path doc).bind fun doc =>
        (lineEnd? r).bind (lines? fuel path doc)
    | s =>
      (assignment? fuel s).bind fun (path, v, r) =>
        (within (putEntry v path) here doc).bind fun doc =>
          (lineEnd? r).bind (lines? fuel here doc)

/-- The table that a text stands for, which may begin with a byte order mark. -/
def ofText? (text : String) : Option (List (String × Setting)) :=
  let s := match text.toList with
    | '\ufeff' :: s => s
    | s => s
  (lines? (2 * s.length + 2) [] [] s).map settings

end TaskDesk.Toml
