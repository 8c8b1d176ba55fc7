import TaskDesk.Text.Blank
import TaskDesk.Text.Digits

/-!
# Points in time

A `Timestamp` is a date of the Gregorian calendar and a time of day in UTC, down to the
nanosecond; the second may be the sixtieth, for a leap second.  `Timestamp.text` writes it
in the form of RFC 3339 with as many digits after the point as are needed, in groups of
three.  `Timestamp.read?` reads that form with any offset from UTC and is lenient about
blanks, the letter case, the number of digits and the sign of a year.
-/

namespace TaskDesk

open TaskDesk.Text

/-- A date and a time of day in UTC. -/
structure Timestamp where
  year : Int
  month : Nat
  day : Nat
  hour : Nat
  minute : Nat
  second : Nat
  nanos : Nat
deriving DecidableEq, Repr, Inhabited

namespace Timestamp

/-- Whether a year has a leap day. -/
def isLeap (year : Int) : Bool :=
  year % 4 = 0 && (year % 100 ≠ 0 || year % 400 = 0)

/-- The number of days of a month. -/
def daysIn (year : Int) (month : Nat) : Nat :=
  if month = 2 then (if isLeap year then 29 else 28)
  else if month = 4 ∨ month = 6 ∨ month = 9 ∨ month = 11 then 30
  else 31

/-- The years that a timestamp may have. -/
def yearInRange (year : Int) : Bool :=
  -262143 ≤ year && year ≤ 262142

/-- The same time of the day before. -/
def dayBefore (t : Timestamp) : Timestamp :=
  if 1 < t.day then { t with day := t.day - 1 }
  else if 1 < t.month then { t with month := t.month - 1, day := daysIn t.year (t.month - 1) }
  else { t with year := t.year - 1, month := 12, day := 31 }

/-- The same time of the day after. -/
def dayAfter (t : Timestamp) : Timestamp :=
  if t.day < daysIn t.year t.month then { t with day := t.day + 1 }
  else if t.month < 12 then { t with month := t.month + 1, day := 1 }
  else { t with year := t.year + 1, month := 1, day := 1 }

/-- The point in time whose local time, the given number of minutes ahead of UTC, is `t`. -/
def fromLocal (t : Timestamp) (ahead : Int) : Timestamp :=
  let minutes : Int := (60 * t.hour + t.minute : Nat) - ahead
  let day := if minutes < 0 then t.dayBefore else if 1440 ≤ minutes then t.dayAfter else t
  let minutes := (minutes % 1440).toNat
  { day with hour := minutes / 60, minute := minutes % 60 }

/-- The digits after the point of a second, in groups of three; none for a whole second. -/
def fractionChars (nanos : Nat) : List Char :=
  if nanos = 0 then []
  else if nanos % 1000000 = 0 then '.' :: padded 3 (nanos / 1000000)
  else if nanos % 1000 = 0 then '.' :: padded 6 (nanos / 1000)
  else '.' :: padded 9 nanos

/-- A year in four digits; a year of more digits or before the year 0 has a sign. -/
def yearChars (year : Int) : List Char :=
  if 0 ≤ year ∧ year ≤ 9999 then padded 4 year.toNat
  else (if year < 0 then '-' else '+') :: padded 4 year.natAbs

/-- The form of RFC 3339. -/
def chars (t : Timestamp) : List Char :=
  yearChars t.year ++ '-' :: padded 2 t.month ++ '-' :: padded 2 t.day
    ++ 'T' :: padded 2 t.hour ++ ':' :: padded 2 t.minute ++ ':' :: padded 2 t.second
    ++ fractionChars t.nanos ++ ['Z']

/-- The form of RFC 3339, as text. -/
def text (t : Timestamp) : String :=
  String.ofList t.chars

/-- The date and the time of day to the minute. -/
def minuteText (t : Timestamp) : String :=
  String.ofList (yearChars t.year ++ '-' :: padded 2 t.month ++ '-' :: padded 2 t.day
    ++ ' ' :: padded 2 t.hour ++ ':' :: padded 2 t.minute)

/-- A number of at most `width` digits after blanks, and what follows it. -/
def number? (width : Nat) (s : List Char) : Option (Nat × List Char) :=
  let s := dropBlanks s
  let ds := (s.take width).takeWhile Char.isDigit
  if ds = [] then none else some (digitsValue ds, s.drop ds.length)

/-- A year after blanks: with a sign any number of digits, without one at most four. -/
def year? (s : List Char) : Option (Int × List Char) :=
  let signed (negative : Bool) (s : List Char) : Option (Int × List Char) :=
    let (ds, r) := splitDigits s
    if ds = [] then none
    else some (if negative then -(digitsValue ds : Int) else digitsValue ds, r)
  match dropBlanks s with
  | '-' :: s => signed true s
  | '+' :: s => signed false s
  | s => (number? 4 s).map fun (n, r) => ((n : Int), r)

/-- A character after blanks. -/
def expect? (c : Char) (s : List Char) : Option (List Char) :=
  match dropBlanks s with
  | c' :: r => if c = c' then some r else none
  | [] => none

/-- The nanoseconds after the point of a second; digits beyond the ninth are dropped. -/
def nanos? : List Char → Option (Nat × List Char)
  | '.' :: s =>
    let (ds, r) := splitDigits s
    if ds = [] then none
    else
      let kept := ds.take 9
      some (digitsValue kept * Nat.pow 10 (9 - kept.length), r)
  | s => some (0, s)

/-- An offset from UTC in minutes: the letter `Z`, or a sign, two digits of hours and two of
minutes with colons or blanks between them. -/
def offset? : List Char → Option (Int × List Char)
  | 'Z' :: r => some (0, r)
  | 'z' :: r => some (0, r)
  | sign :: a :: b :: s =>
    if (sign = '+' ∨ sign = '-' ∨ sign = '\u2212') ∧ a.isDigit ∧ b.isDigit then
      match s.dropWhile fun c => c = ':' ∨ isBlank c with
      | c :: d :: r =>
        let minutes := digitsValue [c, d]
        if c.isDigit ∧ d.isDigit ∧ minutes < 60 then
          let total : Int := (60 * digitsValue [a, b] + minutes : Nat)
          some (if sign = '+' then total else -total, r)
        else none
      | _ => none
    else none
  | _ => none

/-- An offset from UTC after blanks, in minutes; the letters `UTC` are no offset. -/
def zone? (s : List Char) : Option (Int × List Char) :=
  match dropBlanks s with
  | a :: b :: c :: r =>
    if a.toLower = 'u' ∧ b.toLower = 't' ∧ c.toLower = 'c' then some (0, r)
    else offset? (a :: b :: c :: r)
  | s => offset? s

/-- Whether the fields are those of a date and a time of day. -/
def valid (t : Timestamp) : Bool :=
  yearInRange t.year && 1 ≤ t.month && t.month ≤ 12 && 1 ≤ t.day && t.day ≤ daysIn t.year t.month
    && t.hour ≤ 23 && t.minute ≤ 59 && t.second ≤ 60 && t.nanos < 1000000000

/-- The point in time that a text of RFC 3339 stands for. -/
def read? (text : String) : Option Timestamp := do
  let (year, s) ← year? text.toList
  let (month, s) ← number? 2 (← expect? '-' s)
  let (day, s) ← number? 2 (← expect? '-' s)
  let s ← match s with
    | c :: s => if c = 't' ∨ c = 'T' ∨ c = ' ' then some s else none
    | [] => none
  let (hour, s) ← number? 2 s
  let (minute, s) ← number? 2 (← expect? ':' s)
  let (second, s) ← number? 2 (← expect? ':' s)
  let (nanos, s) ← nanos? s
  let (ahead, s) ← zone? s
  let there : Timestamp := ⟨year, month, day, hour, minute, second, nanos⟩
  let here := there.fromLocal ahead
  if dropBlanks s = [] ∧ there.valid ∧ ahead.natAbs < 1440 ∧ yearInRange here.year then
    some here
  else none

end Timestamp

end TaskDesk
