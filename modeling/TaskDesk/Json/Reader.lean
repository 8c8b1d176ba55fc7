import TaskDesk.Json.Form

/-!
# Reading JSON texts

`Form.read?` takes a JSON text apart and `Json.read?` gives it a value.  A text holds one
value with blanks around it; numbers have no leading zero, strings no control character,
and lists and objects no comma at their end.
-/

namespace TaskDesk

open TaskDesk.Text

namespace Form

/-- The text after the blanks of JSON in front of it. -/
def dropSpace (s : List Char) : List Char :=
  s.dropWhile fun c => c = ' ' ∨ c = '\n' ∨ c = '\t' ∨ c = '\r'

/-- The character that a letter after a backslash stands for. -/
def escaped? : Char → Option Char
  | '"' => some '"'
  | '\\' => some '\\'
  | '/' => some '/'
  | 'b' => some '\x08'
  | 'f' => some '\x0c'
  | 'n' => some '\n'
  | 'r' => some '\r'
  | 't' => some '\t'
  | _ => none

/-- The unit that four hexadecimal digits stand for. -/
def unit? (a b c d : Char) : Option Nat :=
  inBase? 16 [a, b, c, d]

/-- The pieces of a string up to its closing quote, and what follows. -/
def readPieces : List Char → Option (List Piece × List Char)
  | [] => none
  | '"' :: s => some ([], s)
  | '\\' :: 'u' :: a :: b :: c :: d :: s =>
    (unit? a b c d).bind fun n => (readPieces s).map fun (ps, r) => (.unit n :: ps, r)
  | '\\' :: e :: s =>
    (escaped? e).bind fun c => (readPieces s).map fun (ps, r) => (.char c :: ps, r)
  | c :: s =>
    if c.toNat < 0x20 ∨ c = '\\' then none
    else (readPieces s).map fun (ps, r) => (.char c :: ps, r)

/-- The digits after a point, at least one. -/
def readPart : List Char → Option (Option (List Char) × List Char)
  | '.' :: s =>
    let (ds, r) := splitDigits s
    if ds = [] then none else some (some ds, r)
  | s => some (none, s)

/-- The exponent of a number. -/
def readExponent : List Char → Option (Option (Bool × List Char) × List Char)
  | [] => some (none, [])
  | c :: s =>
    if c = 'e' ∨ c = 'E' then
      let (negative, s) := splitSign s
      let (ds, r) := splitDigits s
      if ds = [] then none else some (some (negative, ds), r)
    else some (none, c :: s)

/-- A number and what follows it. -/
def readNumeral (s : List Char) : Option (Numeral × List Char) :=
  let (negative, s) := match s with
    | '-' :: s => (true, s)
    | s => (false, s)
  let (whole, s) := splitDigits s
  let leadingZero := match whole with
    | '0' :: _ :: _ => true
    | _ => false
  if whole = [] ∨ leadingZero then none
  else
    (readPart s).bind fun (part, s) => (readExponent s).map fun (exponent, s) =>
      (⟨negative, whole, part, exponent⟩, s)

mutual

/-- A value and what follows it; `fuel` bounds the characters that may be read. -/
def readValue : Nat → List Char → Option (Form × List Char)
  | 0, _ => none
  | fuel + 1, s =>
    match dropSpace s with
    | 'n' :: 'u' :: 'l' :: 'l' :: r => some (.null, r)
    | 't' :: 'r' :: 'u' :: 'e' :: r => some (.bool true, r)
    | 'f' :: 'a' :: 'l' :: 's' :: 'e' :: r => some (.bool false, r)
    | '"' :: r => (readPieces r).map fun (ps, r) => (.str ps, r)
    | '[' :: r =>
      match dropSpace r with
      | ']' :: r => some (.arr [], r)
      | r => (readItems fuel r).map fun (items, r) => (.arr items, r)
    | '{' :: r =>
      match dropSpace r with
      | '}' :: r => some (.obj [], r)
      | r => (readFields fuel r).map fun (fields, r) => (.obj fields, r)
    | r => (readNumeral r).map fun (n, r) => (.num n, r)

/-- The items of a list up to its closing bracket. -/
def readItems : Nat → List Char → Option (List Form × List Char)
  | 0, _ => none
  | fuel + 1, s =>
    (readValue fuel s).bind fun (f, r) =>
      match dropSpace r with
      | ']' :: r => some ([f], r)
      | ',' :: r => (readItems fuel r).map fun (fs, r) => (f :: fs, r)
      | _ => none

/-- The fields of an object up to its closing brace. -/
def readFields : Nat → List Char → Option (List (List Piece × Form) × List Char)
  | 0, _ => none
  | fuel + 1, s =>
    match dropSpace s with
    | '"' :: r =>
      (readPieces r).bind fun (k, r) =>
        match dropSpace r with
        | ':' :: r =>
          (readValue fuel r).bind fun (f, r) =>
            match dropSpace r with
            | '}' :: r => some ([(k, f)], r)
            | ',' :: r => (readFields fuel r).map fun (fs, r) => ((k, f) :: fs, r)
            | _ => none
        | _ => none
    | _ => none

end

/-- The form of a text that holds one value. -/
def read? (s : String) : Option Form :=
  let cs := s.toList
  match readValue (cs.length + 1) cs with
  | some (f, r) => if dropSpace r = [] then some f else none
  | none => none

end Form

/-- The value of a text that holds one value. -/
def Json.read? (s : String) : Option Json :=
  (Form.read? s).bind (Form.value? Form.depthLimit)

end TaskDesk
