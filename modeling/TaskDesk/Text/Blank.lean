/-!
# Blank characters

`isBlank` holds of the characters with the White_Space property of the Unicode standard,
which is more than the blanks of `Char.isWhitespace`.  A text is `blank` if it holds nothing
else.
-/

namespace TaskDesk.Text

/-- The characters with the White_Space property. -/
def isBlank (c : Char) : Bool :=
  let n := c.toNat
  (0x09 ≤ n && n ≤ 0x0D) || n == 0x20 || n == 0x85 || n == 0xA0 || n == 0x1680
    || (0x2000 ≤ n && n ≤ 0x200A) || n == 0x2028 || n == 0x2029 || n == 0x202F || n == 0x205F
    || n == 0x3000

/-- Nothing but blank characters. -/
def blank (s : String) : Bool :=
  s.toList.all isBlank

/-- The text without the blanks in front. -/
def dropBlanks (s : List Char) : List Char :=
  s.dropWhile isBlank

end TaskDesk.Text
