import TaskDesk.Text.Digits
import TaskDesk.Text.Printable

/-!
# Quoted texts

`quoted` writes a text in double quotes so that every character can be told: quotes,
backslashes, tabs and line ends are escaped with a backslash, and characters that do not
print are written by their number in braces.
-/

namespace TaskDesk.Text

/-- The hexadecimal digits of a number, without zeros in front. -/
def hexDigits (n : Nat) : List Char :=
  if n < 16 then [hexDigit n] else hexDigits (n / 16) ++ [hexDigit (n % 16)]
termination_by n
decreasing_by omega

/-- A character inside a quoted text. -/
def quotedChar (c : Char) : List Char :=
  match c with
  | '\x00' => ['\\', '0']
  | '\t' => ['\\', 't']
  | '\n' => ['\\', 'n']
  | '\r' => ['\\', 'r']
  | '"' => ['\\', '"']
  | '\\' => ['\\', '\\']
  | c =>
    if isPrintable c then [c]
    else ['\\', 'u', '{'] ++ hexDigits c.toNat ++ ['}']

/-- A text in double quotes. -/
def quoted (s : String) : String :=
  String.ofList ('"' :: (s.toList.flatMap quotedChar ++ ['"']))

end TaskDesk.Text
