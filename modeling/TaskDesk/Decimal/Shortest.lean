import TaskDesk.Decimal.Double

/-!
# The shortest decimal of a double

`shortest m e` is the shortest decimal that reads back as the double `m * 2 ^ e`, as its
digits `ds` and the place `k` of its point: the decimal is `0.ds * 10 ^ k`.  Among the
decimals of that length the one nearest to the double is taken.  A `Layout` says how such
a decimal is written, and `Double.text` writes a double.
-/

namespace TaskDesk.Decimal

open TaskDesk.Text

/-- The reals that round to the double `m * 2 ^ e`, as fractions of `2 ^ (e - 2)`: the lower
end, the double itself and the upper end. -/
def interval (m : Nat) (e : Int) : Nat × Nat × Nat :=
  let below := if m = Double.leadingBit ∧ -1074 < e then 1 else 2
  (4 * m - below, 4 * m, 4 * m + 2)

/-- The place of the point of `num / den`: the least `k` with `num / den < 10 ^ k`. -/
def pointPlace (num den : Nat) : Int :=
  if den ≤ num then ((natDigits (num / den)).length : Int)
  else
    let width := (natDigits (den / num)).length
    if den = num * Nat.pow 10 (width - 1) then 2 - (width : Int) else 1 - (width : Int)

/-- The fraction multiplied by a power of ten. -/
def shift (num den : Nat) (k : Int) : Nat × Nat :=
  if 0 ≤ k then (num * Nat.pow 10 k.toNat, den) else (num, den * Nat.pow 10 (-k).toNat)

/-- A decimal of `n` digits that lies in the interval, if there is one; of two the nearer. -/
def candidate? (low mid high den : Nat) (closed : Bool) (place : Int) (n : Nat) :
    Option Nat :=
  let scale := (n : Int) - place
  let (l, d) := shift low den scale
  let (v, _) := shift mid den scale
  let (h, _) := shift high den scale
  let inside (q : Nat) : Bool :=
    if closed then l ≤ q * d && q * d ≤ h else l < q * d && q * d < h
  let down := v / d
  let up := down + 1
  match inside down, inside up with
  | true, true =>
    let r := v % d
    if 2 * r < d ∨ (2 * r = d ∧ down % 2 = 0) then some down else some up
  | true, false => some down
  | false, true => some up
  | false, false => none

/-- The first candidate with at most the given number of digits left to try. -/
def search (low mid high den : Nat) (closed : Bool) (place : Int) : Nat → Nat → Nat × Nat
  | 0, n => (mid / den, n)
  | left + 1, n =>
    match candidate? low mid high den closed place n with
    | some q => (q, n)
    | none => search low mid high den closed place left (n + 1)

/-- The digits of a number without the zeros at its end. -/
def significant (n : Nat) : List Char :=
  ((natDigits n).reverse.dropWhile (· == '0')).reverse

/-- The shortest decimal that reads back as `m * 2 ^ e`: its digits and the place of its
point. -/
def shortest (m : Nat) (e : Int) : List Char × Int :=
  let (low, mid, high) := interval m e
  let e := e - 2
  let den := if 0 ≤ e then 1 else Nat.pow 2 (-e).toNat
  let scale := if 0 ≤ e then Nat.pow 2 e.toNat else 1
  let (low, mid, high) := (low * scale, mid * scale, high * scale)
  let place := pointPlace mid den
  let (q, n) := search low mid high den (m % 2 = 0) place 17 1
  let digits := natDigits q
  (significant q, place + ((digits.length : Int) - n))

/-- How decimals are written.  A decimal whose point has a place above `positionalAbove` and
at most `positionalUpTo` is written by position, any other with an exponent; `none` sets no
limit.  A whole number written by position ends in `wholeEnd`. -/
structure Layout where
  positionalAbove : Option Int
  positionalUpTo : Option Int
  wholeEnd : List Char
deriving DecidableEq, Repr

/-- The decimal `0.ds * 10 ^ k` in the given layout. -/
def Layout.write (layout : Layout) (ds : List Char) (k : Int) : List Char :=
  let positional :=
    (layout.positionalAbove.all fun l => l < k) && (layout.positionalUpTo.all fun u => k ≤ u)
  if positional then
    if k ≤ 0 then '0' :: '.' :: (List.replicate (-k).toNat '0' ++ ds)
    else if ds.length ≤ k.toNat then
      ds ++ List.replicate (k.toNat - ds.length) '0' ++ layout.wholeEnd
    else ds.take k.toNat ++ '.' :: ds.drop k.toNat
  else
    let mantissa := match ds with
      | [d] => [d]
      | d :: rest => d :: '.' :: rest
      | [] => []
    mantissa ++ 'e' :: intDigits (k - 1)

/-- The text of a double in the given layout. -/
def Double.text (layout : Layout) (d : Double) : List Char :=
  match d.decode with
  | .nan => "NaN".toList
  | .infinite negative => if negative then "-inf".toList else "inf".toList
  | .finite negative m e =>
    let body :=
      if m = 0 then '0' :: layout.wholeEnd
      else
        let (ds, k) := shortest m e
        layout.write ds k
    if negative then '-' :: body else body

end TaskDesk.Decimal
