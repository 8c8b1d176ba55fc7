import TaskDesk.Settings.Value
import TaskDesk.Text.Blank

/-!
# INI documents

A document consists of entries, `key = value` or `key : value`, below the names of sections in
brackets.  A comment is a line of its own.  All values are texts; a part of a value in quotes is
taken as it is, apart from escapes.  `Ini.ofText?` is the table that a text stands for: the
entries in front of the first section, and a table for each section.
-/

namespace TaskDesk.Ini

open TaskDesk.Text

/-- The character that a letter after a backslash stands for. -/
def escaped (c : Char) : Char :=
  match c with
  | '0' => '\x00'
  | 'a' => '\x07'
  | 'b' => '\x08'
  | 't' => '\t'
  | 'r' => '\r'
  | 'n' => '\n'
  | c => c

/-- The character whose number four characters write. -/
def numbered? (cs : List Char) : Option Char :=
  let digits := match cs with
    | '+' :: ds => ds
    | ds => ds
  (inBase? 16 digits).bind fun n => if n.isValidChar then some (Char.ofNat n) else none

/-- The text up to the first character that ends it, and the rest from there; `atEnd` says whether
the end of the document ends it, too.  A backslash at the end of a line joins the next one to
it. -/
def textUntil? (ends : Char → Bool) (atEnd : Bool) : List Char → Option (List Char × List Char)
  | [] => if atEnd then some ([], []) else none
  | '\\' :: '\n' :: s => textUntil? ends atEnd s
  | '\\' :: 'x' :: a :: b :: c :: d :: s =>
    (numbered? [a, b, c, d]).bind fun c => (textUntil? ends atEnd s).map fun (t, r) => (c :: t, r)
  | '\\' :: 'x' :: _ => none
  | '\\' :: c :: s => (textUntil? ends atEnd s).map fun (t, r) => (escaped c :: t, r)
  | ['\\'] => none
  | c :: s =>
    if ends c then some ([], c :: s)
    else (textUntil? ends atEnd s).map fun (t, r) => (c :: t, r)

/-- The text without blanks at its end. -/
def dropLastBlanks (s : List Char) : List Char :=
  (dropBlanks s.reverse).reverse

/-- Whether a character ends a line. -/
def isLineEnd (c : Char) : Bool :=
  c = '\n' || c = '\r'

/-- The parts of a value up to the end of the line, and the rest from there. -/
def value? : Nat → Bool → List Char → Option (List Char × List Char)
  | 0, _, _ => none
  | _, _, [] => some ([], [])
  | fuel + 1, first, c :: s =>
    if c = '"' || c = '\x27' then
      (textUntil? (· = c) false s).bind fun (part, r) =>
        (value? fuel false (r.drop 1)).map fun (rest, r) => (part ++ rest, r)
    else
      (textUntil? isLineEnd true (c :: s)).map fun (part, r) =>
        (dropLastBlanks (if first then dropBlanks part else part), r)

/-- The text after blanks, with whether it begins a line; `fresh` says that of the text itself. -/
def dropLines (fresh : Bool) : List Char → Bool × List Char
  | [] => (fresh, [])
  | c :: s => if isBlank c then dropLines (c = '\n') s else (fresh, c :: s)

/-- What was read of a document: the entries in front of the first section, and the sections
with their entries, the last one first. -/
structure Document where
  top : List (String × String)
  sections : List (String × List (String × String))
deriving Repr, Inhabited

namespace Document

/-- The document with one more entry at the end. -/
def add (d : Document) (key value : String) : Document :=
  match d.sections with
  | [] => { d with top := d.top ++ [(key, value)] }
  | (name, entries) :: rest => { d with sections := (name, entries ++ [(key, value)]) :: rest }

/-- The document with one more section. -/
def openSection (d : Document) (name : String) : Document :=
  { d with sections := (name, []) :: d.sections }

/-- The entries as settings; of entries with the same key the last one counts. -/
def settingsOf (entries : List (String × String)) : List (String × Setting) :=
  Keyed.ofList (entries.map fun e => (e.1, Setting.text e.2))

/-- The table that a document stands for; of sections with the same name the last one counts. -/
def table (d : Document) : List (String × Setting) :=
  Keyed.ofList (settingsOf d.top
    ++ d.sections.reverse.map fun s => (s.1, Setting.table (settingsOf s.2)))

end Document

/-- The document with what a text adds to it.  `fresh` says whether the text begins a line, and
`key` is the key that waits for its value. -/
def read? : Nat → Bool → List Char → Document → List Char → Option Document
  | 0, _, _, _, _ => none
  | fuel + 1, fresh, key, d, s =>
    match dropLines fresh s with
    | (_, []) => some d
    | (fresh, c :: r) =>
      if c = ';' || c = '#' then
        if fresh then read? fuel true key d ((r.dropWhile fun c => c ≠ '\n').drop 1) else none
      else if c = '[' then
        (textUntil? (· = ']') false r).bind fun (name, r) =>
          read? fuel false key
            (d.openSection (String.ofList (dropLastBlanks (dropBlanks name)))) (r.drop 1)
      else if c = '=' || c = ':' then
        if key = [] then none
        else
          let r := r.dropWhile fun c => isBlank c && !isLineEnd c
          (value? (r.length + 1) true r).bind fun (v, r) =>
            read? fuel false [] (d.add (String.ofList key) (String.ofList v)) r
      else
        (textUntil? (fun c => c = '=' || c = ':') false (c :: r)).bind fun (k, r) =>
          read? fuel false (dropLastBlanks (dropBlanks k)) d r

/-- The table that a text stands for. -/
def ofText? (text : String) : Option (List (String × Setting)) :=
  let s := text.toList
  (read? (s.length + 1) true [] ⟨[], []⟩ s).map Document.table

end TaskDesk.Ini
