import TaskDesk.Json.Value
import TaskDesk.Decimal.Shortest

/-!
# Writing JSON

`Json.compact` writes a value without blanks, `Json.pretty` with every item and every field
on a line of its own, indented by two blanks a level.  Both write the fields of an object in
order, escape quotes, backslashes and control characters, and leave all other characters as
they are.
-/

namespace TaskDesk

open TaskDesk.Text TaskDesk.Decimal

namespace Json

/-- Doubles have a point or an exponent; they are written by position from `1e-5` below
`1e16`. -/
def doubleLayout : Layout :=
  ⟨some (-5), some 16, ['.', '0']⟩

/-- A number in JSON; a double that is no number is `null`. -/
def numberChars : Number → List Char
  | .whole i => intDigits i
  | .double d =>
    match d.decode with
    | .finite _ _ _ => d.text doubleLayout
    | _ => "null".toList

/-- A character inside a string. -/
def charChars (c : Char) : List Char :=
  match c with
  | '"' => ['\\', '"']
  | '\\' => ['\\', '\\']
  | '\x08' => ['\\', 'b']
  | '\x0c' => ['\\', 'f']
  | '\n' => ['\\', 'n']
  | '\r' => ['\\', 'r']
  | '\t' => ['\\', 't']
  | c =>
    if c.toNat < 0x20 then ['\\', 'u'] ++ hexPadded hexDigit 4 c.toNat
    else [c]

/-- A string in quotes. -/
def stringChars (s : String) : List Char :=
  '"' :: (s.toList.flatMap charChars ++ ['"'])

mutual

/-- A value without blanks. -/
def compactChars : Json → List Char
  | .null => "null".toList
  | .bool true => "true".toList
  | .bool false => "false".toList
  | .num n => numberChars n
  | .str s => stringChars s
  | .arr items => '[' :: compactItems items
  | .obj fields => '{' :: compactFields fields

/-- The items of a list and its closing bracket. -/
def compactItems : List Json → List Char
  | [] => [']']
  | [v] => compactChars v ++ [']']
  | v :: rest => compactChars v ++ ',' :: compactItems rest

/-- The fields of an object and its closing brace. -/
def compactFields : List (String × Json) → List Char
  | [] => ['}']
  | [(k, v)] => stringChars k ++ ':' :: (compactChars v ++ ['}'])
  | (k, v) :: rest => stringChars k ++ ':' :: (compactChars v ++ ',' :: compactFields rest)

end

/-- A new line with the given indentation. -/
def newLine (depth : Nat) : List Char :=
  '\n' :: List.replicate (2 * depth) ' '

mutual

/-- A value at the given depth. -/
def prettyChars (depth : Nat) : Json → List Char
  | .null => "null".toList
  | .bool true => "true".toList
  | .bool false => "false".toList
  | .num n => numberChars n
  | .str s => stringChars s
  | .arr [] => ['[', ']']
  | .arr items => '[' :: prettyItems (depth + 1) items ++ newLine depth ++ [']']
  | .obj [] => ['{', '}']
  | .obj fields => '{' :: prettyFields (depth + 1) fields ++ newLine depth ++ ['}']

/-- The items of a list, each on its line. -/
def prettyItems (depth : Nat) : List Json → List Char
  | [] => []
  | [v] => newLine depth ++ prettyChars depth v
  | v :: rest => newLine depth ++ prettyChars depth v ++ ',' :: prettyItems depth rest

/-- The fields of an object, each on its line. -/
def prettyFields (depth : Nat) : List (String × Json) → List Char
  | [] => []
  | [(k, v)] => newLine depth ++ stringChars k ++ [':', ' '] ++ prettyChars depth v
  | (k, v) :: rest =>
    newLine depth ++ stringChars k ++ [':', ' '] ++ prettyChars depth v
      ++ ',' :: prettyFields depth rest

end

/-- The text of a value without blanks. -/
def compact (v : Json) : String :=
  String.ofList (compactChars v)

/-- The text of a value over several lines. -/
def pretty (v : Json) : String :=
  String.ofList (prettyChars 0 v)

end Json

end TaskDesk
