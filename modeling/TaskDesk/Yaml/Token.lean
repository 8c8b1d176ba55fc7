import TaskDesk.Text.Digits

/-!
# YAML tokens

The tokens of a YAML text: marks of documents, directives, the beginnings and ends of
collections, indicators, properties of nodes and scalars.  A collection in block style has
no written begin and end; its tokens follow from the indentation.
-/

namespace TaskDesk.Yaml

/-- How a scalar is written. -/
inductive Style where
  | plain
  | singleQuoted
  | doubleQuoted
  | literal
  | folded
deriving DecidableEq, Repr

/-- A token of a YAML text. -/
inductive Token where
  | streamEnd
  | versionDirective (major minor : Nat)
  | tagDirective (handle tagStart : String)
  | documentStart
  | documentEnd
  | blockSequenceStart
  | blockMappingStart
  | blockEnd
  | flowSequenceStart
  | flowSequenceEnd
  | flowMappingStart
  | flowMappingEnd
  | blockEntry
  | flowEntry
  | key
  | value
  | alias (name : String)
  | anchor (name : String)
  | tag (handle suffix : String)
  | scalar (text : String) (style : Style)
deriving DecidableEq, Repr

/-- Whether a token stands in front of a document or behind it. -/
def Token.isOutside : Token → Bool
  | .versionDirective _ _ | .tagDirective _ _ | .documentStart | .documentEnd | .streamEnd => true
  | _ => false

/-- A place where a key may begin: the number of its token, its index, line and column, and
whether a key must begin there. -/
structure KeyPlace where
  number : Nat
  index : Nat
  line : Nat
  column : Nat
  required : Bool

/-- A place in a text: the characters that follow, and the index, the line and the column. -/
structure Cursor where
  rest : List Char
  index : Nat
  line : Nat
  column : Nat
deriving Repr

/-- The characters that end a line. -/
def isBreak (c : Char) : Bool :=
  c = '\n' || c = '\r' || c = '\x85' || c = '\u2028' || c = '\u2029'

/-- A space or a tab. -/
def isBlank (c : Char) : Bool :=
  c = ' ' || c = '\t'

/-- Whether a text begins with a blank or a line end, or is at its end. -/
def blankAhead : List Char → Bool
  | [] => true
  | c :: _ => isBlank c || isBreak c

/-- Whether a text begins with a line end, or is at its end. -/
def breakAhead : List Char → Bool
  | [] => true
  | c :: _ => isBreak c

/-- The characters that a YAML text may hold. -/
def isAllowed (c : Char) : Bool :=
  let n := c.toNat
  n = 0x09 || n = 0x0A || n = 0x0D || (0x20 ≤ n && n ≤ 0x7E) || n = 0x85
    || (0xA0 ≤ n && n ≤ 0xD7FF) || (0xE000 ≤ n && n ≤ 0xFFFD) || 0x10000 ≤ n

namespace Cursor

/-- The beginning of a text. -/
def start (s : List Char) : Cursor := ⟨s, 0, 0, 0⟩

/-- The place after one character of a line. -/
def next (c : Cursor) : Cursor :=
  { c with rest := c.rest.drop 1, index := c.index + 1, column := c.column + 1 }

/-- The place after some characters of a line. -/
def skip (c : Cursor) (n : Nat) : Cursor :=
  { c with rest := c.rest.drop n, index := c.index + n, column := c.column + n }

/-- The characters of the line break at a place, and the place after it.  All breaks but the
separators of lines and paragraphs are read as a line feed. -/
def takeBreak (c : Cursor) : List Char × Cursor :=
  let after (n : Nat) : Cursor :=
    { rest := c.rest.drop n, index := c.index + n, line := c.line + 1, column := 0 }
  match c.rest with
  | '\r' :: '\n' :: _ => (['\n'], after 2)
  | b :: _ =>
    if b = '\u2028' ∨ b = '\u2029' then ([b], after 1)
    else if isBreak b then (['\n'], after 1)
    else ([], c)
  | [] => ([], c)

/-- The place after the line break at a place. -/
def skipBreak (c : Cursor) : Cursor := c.takeBreak.2

/-- The place after the characters of a line that satisfy a test. -/
def skipWhile (c : Cursor) (p : Char → Bool) : Cursor :=
  c.skip (c.rest.takeWhile p).length

/-- Whether a line begins here with a mark of a document. -/
def atMark (c : Cursor) (mark : Char) : Bool :=
  c.column = 0 &&
    match c.rest with
    | a :: b :: d :: r => a = mark && b = mark && d = mark && blankAhead r
    | _ => false

/-- Whether a line begins here with a mark of the start or the end of a document. -/
def atDocumentMark (c : Cursor) : Bool :=
  c.atMark '-' || c.atMark '.'

end Cursor

end TaskDesk.Yaml
