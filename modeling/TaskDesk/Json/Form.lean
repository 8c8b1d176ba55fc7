import TaskDesk.Json.Value
import TaskDesk.Text.Digits

/-!
# JSON texts before they have a value

A `Form` is a JSON text taken apart: numbers are still digits, escaped units of strings are
still numbers, and an object still has all its fields.  `Form.value?` gives it a value, if
its numbers are in range, its escapes make up characters and it is not nested too deep.
`Form.shape?` takes a form as a record of named fields; a field with another name stays a
form and need not have a value.
-/

namespace TaskDesk

open TaskDesk.Text TaskDesk.Decimal

namespace Form

/-- A character of a string, or a unit of UTF-16 written by its number. -/
inductive Piece where
  | char (c : Char)
  | unit (n : Nat)
deriving DecidableEq, Repr

/-- A number as it is written: its sign, the digits before and after the point, and the sign
and the digits of its exponent. -/
structure Numeral where
  negative : Bool
  whole : List Char
  part : Option (List Char)
  exponent : Option (Bool × List Char)
deriving DecidableEq, Repr

/-- The characters that pieces make up: two units that are a surrogate pair are one
character, and no other surrogate is allowed. -/
def characters? : List Piece → Option (List Char)
  | [] => some []
  | .char c :: rest => (characters? rest).map (c :: ·)
  | .unit n :: rest =>
    if n < 0xD800 ∨ 0xE000 ≤ n then (characters? rest).map (Char.ofNat n :: ·)
    else
      match rest with
      | .unit low :: rest =>
        if n < 0xDC00 ∧ 0xDC00 ≤ low ∧ low < 0xE000 then
          (characters? rest).map (Char.ofNat (0x10000 + (n - 0xD800) * 0x400 + (low - 0xDC00)) :: ·)
        else none
      | _ => none

/-- The text that pieces make up. -/
def pieces? (ps : List Piece) : Option String :=
  (characters? ps).map String.ofList

namespace Numeral

/-- Takes digits into a significand as long as it stays below `2 ^ 64`; the count is that of
the digits taken, and the rest is what did not fit. -/
def gather (n taken : Nat) : List Char → Nat × Nat × List Char
  | [] => (n, taken, [])
  | c :: cs =>
    let m := 10 * n + digitValue c
    if m ≤ maxWord then gather m (taken + 1) cs else (n, taken, c :: cs)

/-- The double `significand * 10 ^ exponent`, each factor rounded before they are multiplied
or divided; none if it is too great. -/
private def scaled? (negative : Bool) (significand : Nat) (exponent : Int) : Option Double :=
  let sign (d : Double) : Double := if negative then d.neg else d
  let divide (m : Nat) (e : Int) (k : Nat) : Double :=
    match (Double.ofDecimal false 1 k).decode with
    | .finite _ m' e' => Double.div m e m' e'
    | _ => Double.ofNat 0
  match (Double.ofNat significand).decode with
  | .finite _ m e =>
    if m = 0 then some (sign (Double.ofNat 0))
    else if 308 < exponent then none
    else if 0 ≤ exponent then
      match (Double.ofDecimal false 1 exponent).decode with
      | .finite _ m' e' =>
        let d := Double.mul m e m' e'
        if d.isInfinite then none else some (sign d)
      | _ => none
    else if -308 ≤ exponent then some (sign (divide m e (-exponent).toNat))
    else
      match (divide m e 308).decode with
      | .finite _ m e =>
        if m = 0 ∨ exponent < -616 then some (sign (Double.ofNat 0))
        else some (sign (divide m e (-exponent - 308).toNat))
      | _ => none
  | _ => none

/-- The exponent that the digits of an exponent stand for; none if it is beyond 31 bits. -/
private def smallExponent? (ds : List Char) : Option Nat :=
  let n := digitsValue ds
  if n < 0x80000000 then some n else none

/-- The value of a number.  One without point and exponent is whole if it fits in 64 bits,
with or without sign; any other is a double. -/
def value? (n : Numeral) : Option Number :=
  let (significand, _, left) := gather 0 0 n.whole
  match n.part, n.exponent with
  | none, none =>
    if left ≠ [] then (scaled? n.negative significand left.length).map .double
    else if !n.negative then some (.whole significand)
    else if significand = 0 ∨ 0x8000000000000000 < significand then
      some (.double (Double.ofNat significand).neg)
    else some (.whole (-(significand : Int)))
  | part, exponent =>
    let (significand, used, _) := gather significand 0 (part.getD [])
    let start : Int := (left.length : Int) - used
    match exponent with
    | none => (scaled? n.negative significand start).map .double
    | some (negative, ds) =>
      match smallExponent? ds with
      | some e =>
        let e := if negative then start - e else start + e
        (scaled? n.negative significand e).map .double
      | none =>
        if significand ≠ 0 ∧ !negative then none
        else
          let zero := Double.ofNat 0
          some (.double (if n.negative then zero.neg else zero))

end Numeral

end Form

/-- A JSON text taken apart. -/
inductive Form where
  | null
  | bool (b : Bool)
  | num (n : Form.Numeral)
  | str (s : List Form.Piece)
  | arr (items : List Form)
  | obj (fields : List (List Form.Piece × Form))
deriving Repr, Inhabited

namespace Form

/-- How deep a text may be nested that is read into records. -/
def depthLimit : Nat := 127

mutual

/-- How deep the lists and objects of a form are nested. -/
def depth : Form → Nat
  | .null | .bool _ | .num _ | .str _ => 0
  | .arr items => depths items + 1
  | .obj fields => depthsOf fields + 1

/-- How deep the items of a list are nested. -/
def depths : List Form → Nat
  | [] => 0
  | f :: fs => max (depth f) (depths fs)

/-- How deep the fields of an object are nested. -/
def depthsOf : List (List Piece × Form) → Nat
  | [] => 0
  | (_, f) :: fs => max (depth f) (depthsOf fs)

end

mutual

/-- The value of a form that is nested at most `levels` deep. -/
def value? (levels : Nat) : Form → Option Json
  | .null => some .null
  | .bool b => some (.bool b)
  | .num n => n.value?.map .num
  | .str s => (pieces? s).map .str
  | .arr items =>
    match levels with
    | 0 => none
    | levels + 1 => (values? levels items).map .arr
  | .obj fields =>
    match levels with
    | 0 => none
    | levels + 1 => (entries? levels fields).map fun es => .obj (Keyed.ofList es)

/-- The values of a list of forms. -/
def values? (levels : Nat) : List Form → Option (List Json)
  | [] => some []
  | f :: fs => (value? levels f).bind fun v => (values? levels fs).map (v :: ·)

/-- The fields of an object with their values. -/
def entries? (levels : Nat) : List (List Piece × Form) → Option (List (String × Json))
  | [] => some []
  | (k, f) :: fs =>
    (pieces? k).bind fun k => (value? levels f).bind fun v =>
      (entries? levels fs).map ((k, v) :: ·)

end

/-- The fields of an object, their names read. -/
def named? (fields : List (List Piece × Form)) : Option (List (String × Form)) :=
  fields.mapM fun e => (pieces? e.1).map fun k => (k, e.2)

/-- A form as a record with the given field names: for each name its form, if it is there.
Fields of other names are passed over, a name of the record must not occur twice.  A list is
taken as the first fields of the record in order. -/
def shape? (names : List String) : Form → Option (List (Option Form))
  | .obj fields =>
    (named? fields).bind fun fields =>
      let known := fields.filter fun e => names.contains e.1
      if (Keyed.keys known).Nodup then some (names.map fun n => Keyed.find? n known) else none
  | .arr items =>
    if items.length ≤ names.length then
      some (items.map some ++ List.replicate (names.length - items.length) none)
    else none
  | _ => none

/-- The text of a form that is a string. -/
def text? : Form → Option String
  | .str s => pieces? s
  | _ => none

/-- The truth value of a form that is one. -/
def bool? : Form → Option Bool
  | .bool b => some b
  | _ => none

/-- The number of a form that is a whole number from 0 below `2 ^ 64`. -/
def word? : Form → Option Nat
  | .num n =>
    match n.value? with
    | some (.whole i) => if 0 ≤ i then some i.toNat else none
    | _ => none
  | _ => none

/-- A form that is absent when it is `null`. -/
def option? {α : Type} (read : Form → Option α) : Form → Option (Option α)
  | .null => some none
  | f => (read f).map some

/-- The items of a form that is a list, each read. -/
def list? {α : Type} (read : Form → Option α) : Form → Option (List α)
  | .arr items => items.mapM read
  | _ => none

/-- The items of a form that is a list, nested at most `levels` deep. -/
def nested? {α : Type} (read : Nat → Form → Option α) : Nat → Form → Option (List α)
  | 0, _ => none
  | levels + 1, f => list? (read levels) f

/-- A field with a default for its absence. -/
def orElse {α : Type} (default : α) (read : Form → Option α) : Option Form → Option α
  | none => some default
  | some f => read f

end Form

end TaskDesk
