import TaskDesk.Decimal.Reading
import TaskDesk.Settings.Value
import TaskDesk.Time.Timestamp

/-!
# Scalars of TOML

A scalar without quotes is a truth value, a whole number of 64 bits, a double, or a date or
time, which stands for its text.  `Toml.scalar?` tells them apart.  A text in quotes has one
line or, in triple quotes, several; backslashes say something only in double quotes.
-/

namespace TaskDesk.Toml

open TaskDesk.Text TaskDesk.Decimal

/-- The text after the blanks of a line in front of it. -/
def dropSpace (s : List Char) : List Char :=
  s.dropWhile fun c => c = ' ' ∨ c = '\t'

/-- Whether a character may stand in a text. -/
def isShown (c : Char) : Bool :=
  c = '\t' || (0x20 ≤ c.toNat && c.toNat ≠ 0x7F)

/-- The digits of a number, where an underscore may stand between two of them. -/
def digits? (isDigit : Char → Bool) : List Char → Option (List Char)
  | [] => none
  | [c] => if isDigit c then some [c] else none
  | c :: '_' :: s => if isDigit c then (digits? isDigit s).map (c :: ·) else none
  | c :: s => if isDigit c then (digits? isDigit s).map (c :: ·) else none

/-- The digits of a decimal number, which has no needless zero in front. -/
def decimal? (s : List Char) : Option (List Char) :=
  (digits? Char.isDigit s).filter fun ds => ds.head? ≠ some '0' || ds.length = 1

/-- A whole number in the range of signed 64-bit words. -/
def inRange? (i : Int) : Option Int :=
  if isSignedWord i then some i else none

/-- A whole number of a base. -/
def based? (base : Nat) (s : List Char) : Option Int :=
  let isDigit (c : Char) : Bool := (hexValue? c).any fun d => d < base
  ((digits? isDigit s).bind (inBase? base)).bind fun n => inRange? n

/-- A whole number. -/
def whole? : List Char → Option Int
  | '0' :: 'x' :: s => based? 16 s
  | '0' :: 'o' :: s => based? 8 s
  | '0' :: 'b' :: s => based? 2 s
  | s =>
    let (negative, body) := splitSign s
    (decimal? body).bind fun ds =>
      let n := digitsValue ds
      inRange? (if negative then -(n : Int) else n)

/-- The characters before and after the first one that satisfies a test, with that one. -/
def splitAt (test : Char → Bool) (s : List Char) : List Char × Option Char × List Char :=
  let front := s.takeWhile fun c => !test c
  match s.dropWhile fun c => !test c with
  | [] => (front, none, [])
  | c :: rest => (front, some c, rest)

/-- The exponent of a double, without its letter. -/
def exponent? (s : List Char) : Option (List Char) :=
  match s with
  | '+' :: s => digits? Char.isDigit s
  | '-' :: s => (digits? Char.isDigit s).map ('-' :: ·)
  | s => digits? Char.isDigit s

/-- A double that is a number: it has a part after a point, an exponent, or both, and is not
beyond the greatest one. -/
def number? (negative : Bool) (s : List Char) : Option Double := do
  let (mantissa, letter, exponent) := splitAt (fun c => c = 'e' || c = 'E') s
  let (whole, point, part) := splitAt (· = '.') mantissa
  if letter.isNone && point.isNone then none
  let whole ← decimal? whole
  let part ← if point.isSome then digits? Char.isDigit part else some []
  let exponent ← if letter.isSome then exponent? exponent else some ['0']
  let d ← Double.read? (String.ofList ((if negative then ['-'] else []) ++ whole ++ '.' :: part
    ++ 'e' :: exponent))
  match d.decode with
  | .finite _ _ _ => some d
  | _ => none

/-- A double. -/
def double? (s : List Char) : Option Double :=
  let (negative, body) := splitSign s
  match String.ofList body with
  | "inf" => some (Double.ofMagnitude negative Double.infiniteBits)
  | "nan" => some (if negative then Double.nan.neg else Double.nan)
  | _ => number? negative body

/-- Whether a text has a shape, in which `0` stands for a digit and any other character for
itself; what follows is given. -/
def afterShape? : List Char → List Char → Option (List Char)
  | [], s => some s
  | '0' :: shape, c :: s => if c.isDigit then afterShape? shape s else none
  | p :: shape, c :: s => if p = c then afterShape? shape s else none
  | _ :: _, [] => none

/-- The number that two digits at a place of a text stand for. -/
def twoDigits (s : List Char) (i : Nat) : Nat :=
  digitsValue ((s.drop i).take 2)

/-- Whether the hour and the minute at the start of a text are those of a time of day. -/
def isInDay (s : List Char) : Bool :=
  twoDigits s 0 < 24 && twoDigits s 3 < 60

/-- Whether a text that has the shape of a date names a day of a year. -/
def isInYear (s : List Char) : Bool :=
  let month := twoDigits s 5
  let day := twoDigits s 8
  0 < month && month ≤ 12 && 0 < day && day ≤ Timestamp.daysIn (digitsValue (s.take 4)) month

/-- Whether a text is an offset from UTC. -/
def isOffset (s : List Char) : Bool :=
  s = ['Z']
    || ((afterShape? "+00:00".toList s = some [] || afterShape? "-00:00".toList s = some [])
      && twoDigits s 1 < 24 && twoDigits s 4 < 60)

/-- What follows the seconds of a time of day and their decimals, if there are any. -/
def afterSeconds? (s : List Char) : Option (List Char) :=
  match s with
  | ':' :: r =>
    match afterShape? "00".toList r with
    | none => none
    | some rest =>
      if 60 < twoDigits r 0 then none
      else
        match rest with
        | '.' :: c :: rest => if c.isDigit then some (rest.dropWhile Char.isDigit) else none
        | rest => some rest
  | s => some s

/-- Whether a text is a time of day and maybe an offset from UTC. -/
def isTime (offset : Bool) (s : List Char) : Bool :=
  isInDay s && ((afterShape? "00:00".toList s).bind afterSeconds?).any fun rest =>
    rest = [] || (offset && isOffset rest)

/-- Whether a text is a date, a time of day, or both, in capital letters. -/
def isDate (s : List Char) : Bool :=
  match afterShape? "0000-00-00".toList s with
  | some [] => isInYear s
  | some (c :: rest) => isInYear s && (c = 'T' || c = ' ') && isTime true rest
  | none => isTime false s

/-- The decimals of a second as they are written: nine at most, without needless zeros at the
end. -/
def decimalsText (ds : List Char) : List Char :=
  match ((ds.take 9).reverse.dropWhile fun c => c = '0').reverse with
  | [] => ['0']
  | ds => ds

/-- The text of a date or time: a capital letter stands between the two, and no offset is
negative and zero. -/
def dateText (s : List Char) : String :=
  let s := s.map fun c => if c = ' ' then 'T' else c
  let s := if "-00:00".toList.isSuffixOf s then s.dropLast.take (s.length - 6) ++ "+00:00".toList
    else s
  match splitAt (· = '.') s with
  | (front, some point, rest) =>
    String.ofList (front ++ point :: (decimalsText (rest.takeWhile Char.isDigit)
      ++ rest.dropWhile Char.isDigit))
  | _ => String.ofList s

/-- What a scalar without quotes stands for. -/
def scalar? (s : List Char) : Option Setting :=
  match String.ofList s with
  | "true" => some (.bool true)
  | "false" => some (.bool false)
  | _ =>
    let upper := s.map Char.toUpper
    if isDate upper then some (.text (dateText upper))
    else ((whole? s).map Setting.int).orElse fun _ => (double? s).map Setting.double

/-- The character that a letter after a backslash stands for. -/
def escaped? : Char → Option Char
  | 'b' => some '\x08'
  | 't' => some '\t'
  | 'n' => some '\n'
  | 'f' => some '\x0c'
  | 'r' => some '\r'
  | 'e' => some '\x1b'
  | '"' => some '"'
  | '\\' => some '\\'
  | _ => none

/-- The character with a number. -/
def char? (n : Nat) : Option Char :=
  if n.isValidChar then some (Char.ofNat n) else none

/-- The character with a number of the given count of hexadecimal digits, and what follows. -/
def numbered? (count : Nat) (s : List Char) : Option (Char × List Char) :=
  if s.length < count then none
  else ((inBase? 16 (s.take count)).bind char?).map fun c => (c, s.drop count)

/-- What follows the end of a line. -/
def afterBreak? : List Char → Option (List Char)
  | '\n' :: s => some s
  | '\r' :: '\n' :: s => some s
  | _ => none

/-- The text after all blanks and line ends. -/
def dropBreaks : List Char → List Char
  | '\r' :: '\n' :: s => dropBreaks s
  | c :: s => if c = ' ' ∨ c = '\t' ∨ c = '\n' then dropBreaks s else c :: s
  | [] => []

/-- What follows a backslash at the end of a line: the text after all blanks and line ends. -/
def afterLineEnd? (s : List Char) : Option (List Char) :=
  (afterBreak? (dropSpace s)).map dropBreaks

/-- A text in quotes up to where it is closed, and what follows.  `quote` is the mark; a text of
`several` lines is closed by three of them, of which up to two more before belong to it. -/
def quoted? (quote : Char) (several : Bool) : Nat → List Char → Option (List Char × List Char)
  | 0, _ => none
  | _, [] => none
  | fuel + 1, c :: s =>
    let go (c : Char) (s : List Char) : Option (List Char × List Char) :=
      (quoted? quote several fuel s).map fun (cs, r) => (c :: cs, r)
    if c = quote then
      if !several then some ([], s)
      else
        match s.takeWhile fun c => c = quote with
        | [_, _] | [_, _, _] | [_, _, _, _] =>
          let marks := s.takeWhile fun c => c = quote
          some (marks.drop 2, s.drop marks.length)
        | marks => if marks.length < 2 then go c s else none
    else if c = '\\' ∧ quote = '"' then
      match s with
      | 'x' :: s => (numbered? 2 s).bind fun (c, s) => go c s
      | 'u' :: s => (numbered? 4 s).bind fun (c, s) => go c s
      | 'U' :: s => (numbered? 8 s).bind fun (c, s) => go c s
      | e :: rest =>
        match escaped? e with
        | some c => go c rest
        | none => if several then (afterLineEnd? s).bind (quoted? quote several fuel) else none
      | [] => none
    else if isShown c ∨ (several ∧ (afterBreak? (c :: s)).isSome) then go c s
    else none

/-- A text in quotes, of one line or of several, and what follows. -/
def text? (mayBeSeveral : Bool) (s : List Char) : Option (List Char × List Char) :=
  match s with
  | q :: a :: b :: rest =>
    if mayBeSeveral ∧ q = a ∧ q = b then
      let rest := (afterBreak? rest).getD rest
      quoted? q true (rest.length + 1) rest
    else quoted? q false s.length (a :: b :: rest)
  | q :: rest => quoted? q false s.length rest
  | [] => none

end TaskDesk.Toml
