/-!
# Digits and whole numbers

`splitDigits` parts a text after its leading decimal digits, `digitsValue` is the number
that digits stand for, and `natText` writes a number without leading zeros.  `padded` writes
it with at least a given number of digits.  `wholeNumber?` reads a text that is an optional
sign and digits, and nothing else.
-/

namespace TaskDesk.Text

/-- The value of a decimal digit. -/
def digitValue (c : Char) : Nat :=
  c.toNat - 48

/-- The digit of a number below ten. -/
def digitChar (n : Nat) : Char :=
  Char.ofNat (48 + n)

/-- The leading decimal digits of a text, and what follows them. -/
def splitDigits (s : List Char) : List Char × List Char :=
  (s.takeWhile Char.isDigit, s.dropWhile Char.isDigit)

/-- The number that decimal digits stand for. -/
def digitsValue (s : List Char) : Nat :=
  s.foldl (fun n c => 10 * n + digitValue c) 0

/-- The decimal digits of a number. -/
def natDigits (n : Nat) : List Char :=
  if n < 10 then [digitChar n] else natDigits (n / 10) ++ [digitChar (n % 10)]
termination_by n
decreasing_by omega

/-- A number in decimal digits. -/
def natText (n : Nat) : String :=
  String.ofList (natDigits n)

/-- A number in decimal digits, filled up with zeros in front to the given width. -/
def padded (width n : Nat) : List Char :=
  let ds := natDigits n
  List.replicate (width - ds.length) '0' ++ ds

/-- An integer in decimal digits, with a minus sign if it is negative. -/
def intDigits (i : Int) : List Char :=
  if i < 0 then '-' :: natDigits i.natAbs else natDigits i.natAbs

/-- An integer in decimal digits, as text. -/
def intText (i : Int) : String :=
  String.ofList (intDigits i)

/-- A sign in front of a text: `true` for minus, and what follows it. -/
def splitSign : List Char → Bool × List Char
  | '+' :: s => (false, s)
  | '-' :: s => (true, s)
  | s => (false, s)

/-- The number written by a text of nothing but digits. -/
def digits? (s : List Char) : Option Nat :=
  if s ≠ [] ∧ s.all Char.isDigit then some (digitsValue s) else none

/-- The integer written by a text of an optional sign and digits. -/
def wholeNumber? (s : List Char) : Option Int :=
  let (negative, ds) := splitSign s
  (digits? ds).map fun n => if negative then -(n : Int) else n

/-- The greatest number of an unsigned 64-bit word. -/
def maxWord : Nat := 0xFFFFFFFFFFFFFFFF

/-- The number below `2 ^ 64` written by a text of an optional plus sign and digits. -/
def word? (s : List Char) : Option Nat :=
  let ds := match s with
    | '+' :: ds => ds
    | ds => ds
  (digits? ds).bind fun n => if n ≤ maxWord then some n else none

/-- Whether an integer fits in a signed 64-bit word. -/
def isSignedWord (i : Int) : Bool :=
  -0x8000000000000000 ≤ i ∧ i < 0x8000000000000000

/-- The signed 64-bit number written by a text of an optional sign and digits. -/
def signedWord? (s : List Char) : Option Int :=
  (wholeNumber? s).filter isSignedWord

/-- The value of a hexadecimal digit. -/
def hexValue? (c : Char) : Option Nat :=
  if c.isDigit then some (c.toNat - 48)
  else if 'a' ≤ c ∧ c ≤ 'f' then some (c.toNat - 87)
  else if 'A' ≤ c ∧ c ≤ 'F' then some (c.toNat - 55)
  else none

/-- The hexadecimal digit of a number below sixteen, in lower case. -/
def hexDigit (n : Nat) : Char :=
  if n < 10 then Char.ofNat (48 + n) else Char.ofNat (87 + n)

/-- A number in hexadecimal digits, filled up with zeros in front to the given width. -/
def hexPadded (digit : Nat → Char) : Nat → Nat → List Char
  | 0, _ => []
  | w + 1, n => hexPadded digit w (n / 16) ++ [digit (n % 16)]

/-- The number that digits of a base up to sixteen stand for; at least one digit is needed. -/
def inBase? (base : Nat) (s : List Char) : Option Nat :=
  if s = [] then none
  else s.foldlM (fun n c => (hexValue? c).bind fun d =>
    if d < base then some (base * n + d) else none) 0

/-- A character in lower case, where that is a letter from a to z; so it is for the capitals from
A to Z and for the Kelvin sign. -/
def lowerCase (c : Char) : Char :=
  if c = '\u212a' then 'k' else c.toLower

/-- The text in lower case, as far as that is made of letters from a to z. -/
def lowered (s : String) : String :=
  String.ofList (s.toList.map lowerCase)

end TaskDesk.Text
