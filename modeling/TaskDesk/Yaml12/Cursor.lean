import TaskDesk.Yaml.Token

/-!
# Places in a YAML 1.2 text

In YAML 1.2 only a line feed and a carriage return end a line.  A `Cursor` is a place in a
text; it knows whether only blanks stand in front of it in its line, since there a tab does
not count as indentation.
-/

namespace TaskDesk.Yaml12

open Yaml (isBlank)

/-- The characters that end a line. -/
def isBreak (c : Char) : Bool :=
  c = '\n' || c = '\r'

/-- Whether a text begins with a line end, or is at its end. -/
def breakAhead : List Char → Bool
  | [] => true
  | c :: _ => isBreak c

/-- Whether a text begins with a blank or a line end, or is at its end. -/
def blankAhead : List Char → Bool
  | [] => true
  | c :: _ => isBlank c || isBreak c

/-- A place in a text: the characters that follow, the index, the line and the column, and
whether nothing but blanks stands in front of it in its line. -/
structure Cursor where
  rest : List Char
  index : Nat
  line : Nat
  column : Nat
  leading : Bool
deriving Repr

namespace Cursor

/-- The beginning of a text. -/
def start (s : List Char) : Cursor :=
  ⟨s, 0, 0, 0, true⟩

/-- The place after some characters of a line. -/
def skip (c : Cursor) (n : Nat) : Cursor :=
  { c with
    rest := c.rest.drop n, index := c.index + n, column := c.column + n,
    leading := c.leading && n = 0 }

/-- The place after some blanks of a line. -/
def skipBlanks (c : Cursor) (n : Nat) : Cursor :=
  { c.skip n with leading := c.leading }

/-- The place after the line break at a place. -/
def skipBreak (c : Cursor) : Cursor :=
  let after (n : Nat) : Cursor := ⟨c.rest.drop n, c.index + n, c.line + 1, 0, true⟩
  match c.rest with
  | '\r' :: '\n' :: _ => after 2
  | b :: _ => if isBreak b then after 1 else c
  | [] => c

/-- The place at the end of the line. -/
def skipLine (c : Cursor) : Cursor :=
  c.skip (c.rest.takeWhile fun d => !isBreak d).length

/-- The place after the blanks and the comment that may follow a token in its line; a comment
must be separated from the token. -/
def passBlanks? (c : Cursor) : Option Cursor :=
  let blanks := c.rest.takeWhile isBlank
  let after := c.skipBlanks blanks.length
  match after.rest with
  | '#' :: _ => if blanks = [] then none else some after.skipLine
  | _ => some after

/-- The place at the end of a line that holds nothing more than blanks and a comment. -/
def finishLine? (c : Cursor) : Option Cursor :=
  c.passBlanks?.filter fun c => breakAhead c.rest

/-- Whether a line begins here with a mark of a document. -/
def atMark (c : Cursor) (mark : Char) : Bool :=
  c.column = 0 &&
    match c.rest with
    | a :: b :: d :: r => a = mark && b = mark && d = mark && blankAhead r
    | _ => false

/-- Whether a line begins here with a mark of the start or the end of a document. -/
def atDocumentMark (c : Cursor) : Bool :=
  c.atMark '-' || c.atMark '.'

end Cursor

end TaskDesk.Yaml12
