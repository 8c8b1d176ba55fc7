import TaskDesk.Text.Digits

/-!
# Double precision numbers

A `Double` is a binary floating-point number of 64 bits, held as its bits.  `decode` reads
the bits as a sign, a whole number and a power of two.  `nearest` is the double nearest to
a fraction, a tie going to the even neighbour, computed with whole numbers only; the product
and the quotient of two doubles and the value of a decimal are roundings of exact fractions
by it.
-/

namespace TaskDesk.Decimal

open TaskDesk.Text

/-- A floating-point number of 64 bits. -/
structure Double where
  bits : UInt64
deriving DecidableEq, Repr, Inhabited

namespace Double

/-- What the bits of a double stand for; `finite` is the number `± m * 2 ^ e`. -/
inductive Value where
  | nan
  | infinite (negative : Bool)
  | finite (negative : Bool) (m : Nat) (e : Int)
deriving DecidableEq, Repr

/-- The bit of the sign. -/
def signBit : Nat := 0x8000000000000000

/-- The bit above the 52 bits of the fraction. -/
def leadingBit : Nat := 0x10000000000000

/-- The number that the bits stand for. -/
def decode (d : Double) : Value :=
  let n := d.bits.toNat
  let negative := decide (signBit ≤ n)
  let exponent : Nat := n / leadingBit % 2048
  let fraction : Nat := n % leadingBit
  if exponent = 2047 then
    if fraction = 0 then .infinite negative else .nan
  else if exponent = 0 then .finite negative fraction (-1074)
  else .finite negative (leadingBit + fraction) ((exponent : Int) - 1075)

/-- The double with the given sign and the given bits below it. -/
def ofMagnitude (negative : Bool) (bits : Nat) : Double :=
  ⟨UInt64.ofNat (if negative then signBit + bits else bits)⟩

/-- The bits of infinity. -/
def infiniteBits : Nat := 2047 * leadingBit

/-- The quotient rounded to the nearest whole number, a tie to the even one. -/
def roundHalfEven (num den : Nat) : Nat :=
  let q := num / den
  let r := num % den
  if den < 2 * r ∨ (2 * r = den ∧ q % 2 = 1) then q + 1 else q

/-- The fraction `num / den` divided by `2 ^ e`. -/
def unscale (num den : Nat) (e : Int) : Nat × Nat :=
  if 0 ≤ e then (num, den * Nat.pow 2 e.toNat) else (num * Nat.pow 2 (-e).toNat, den)

/-- The bits of the non-negative double nearest to the fraction `num / den`. -/
def nearest (num den : Nat) : Nat :=
  if num = 0 then 0
  else
    let guess : Int := (num.log2 : Int) - den.log2 - 52
    let (n, d) := unscale num den guess
    let exact := if n / d < leadingBit then guess - 1 else guess
    let e := max exact (-1074)
    let (n, d) := unscale num den e
    let q := roundHalfEven n d
    let bits := if q < leadingBit then q else (e + 1075).toNat * leadingBit + (q - leadingBit)
    min bits infiniteBits

/-- The double nearest to `± digits * 10 ^ exponent`. -/
def ofDecimal (negative : Bool) (digits : Nat) (exponent : Int) : Double :=
  if digits = 0 then ofMagnitude negative 0
  else if 400 < exponent then ofMagnitude negative infiniteBits
  else if exponent < -(400 + digits.log2 : Int) then ofMagnitude negative 0
  else if 0 ≤ exponent then ofMagnitude negative (nearest (digits * Nat.pow 10 exponent.toNat) 1)
  else ofMagnitude negative (nearest digits (Nat.pow 10 (-exponent).toNat))

/-- The double nearest to a natural number. -/
def ofNat (n : Nat) : Double :=
  ofMagnitude false (nearest n 1)

/-- The fraction that a non-negative finite number `m * 2 ^ e` is. -/
def fraction (m : Nat) (e : Int) : Nat × Nat :=
  if 0 ≤ e then (m * Nat.pow 2 e.toNat, 1) else (m, Nat.pow 2 (-e).toNat)

/-- The rounded product of two finite non-negative doubles, given by their numbers. -/
def mul (m₁ : Nat) (e₁ : Int) (m₂ : Nat) (e₂ : Int) : Double :=
  let (n, d) := fraction (m₁ * m₂) (e₁ + e₂)
  ofMagnitude false (nearest n d)

/-- The rounded quotient of two finite non-negative doubles, given by their numbers. -/
def div (m₁ : Nat) (e₁ : Int) (m₂ : Nat) (e₂ : Int) : Double :=
  let (n₁, d₁) := fraction m₁ e₁
  let (n₂, d₂) := fraction m₂ e₂
  ofMagnitude false (nearest (n₁ * d₂) (d₁ * n₂))

/-- The number `m * 2 ^ e` rounded to a whole number, a half going up. -/
def roundHalfUp (m : Nat) (e : Int) : Nat :=
  let (n, d) := fraction m e
  (2 * n + d) / (2 * d)

/-- The double with the other sign. -/
def neg (d : Double) : Double :=
  ⟨d.bits ^^^ 0x8000000000000000⟩

/-- Not a number. -/
def nan : Double := ⟨0x7ff8000000000000⟩

/-- Whether a double is infinite. -/
def isInfinite (d : Double) : Bool :=
  match d.decode with
  | .infinite _ => true
  | _ => false

end Double

end TaskDesk.Decimal
