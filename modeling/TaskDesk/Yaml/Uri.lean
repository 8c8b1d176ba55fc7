import TaskDesk.Text.Digits

/-!
# Escapes in tags

A tag is a URI, in which a character may be written as its octets, each as a percent sign and
two hexadecimal digits.  What character some octets stand for is said by the caller.
-/

namespace TaskDesk.Yaml.Uri

open TaskDesk.Text

/-- The octet of an escape at the beginning of a text. -/
def octet? : List Char → Option Nat
  | '%' :: a :: b :: _ => inBase? 16 [a, b]
  | _ => none

/-- How many octets a character has of which the first octet is given. -/
def width? (octet : Nat) : Option Nat :=
  if octet < 0x80 then some 1
  else if octet < 0xC0 then none
  else if octet < 0xE0 then some 2
  else if octet < 0xF0 then some 3
  else if octet < 0xF8 then some 4
  else none

/-- The octets of as many escapes at the beginning of a text, none of them a first octet. -/
def trailing? : Nat → List Char → Option (List Nat)
  | 0, _ => some []
  | n + 1, s =>
    (octet? s).bind fun o =>
      if 0x80 ≤ o ∧ o < 0xC0 then (trailing? n (s.drop 3)).map (o :: ·) else none

/-- The octets of the escaped character at the beginning of a text. -/
def octets? (s : List Char) : Option (List Nat) := do
  let first ← octet? s
  let width ← width? first
  let others ← trailing? (width - 1) (s.drop 3)
  some (first :: others)

/-- The characters at the beginning of a text that satisfy a test, escapes decoded, and how
many characters of the text they are. -/
def take? (test : Char → Bool) (decode : List Nat → Option (List Char)) :
    Nat → List Char → Option (List Char × Nat)
  | 0, _ => none
  | _ + 1, [] => some ([], 0)
  | fuel + 1, c :: r =>
    if !test c then some ([], 0)
    else if c = '%' then do
      let octets ← octets? (c :: r)
      let decoded ← decode octets
      let (more, n) ← take? test decode fuel ((c :: r).drop (3 * octets.length))
      some (decoded ++ more, 3 * octets.length + n)
    else (take? test decode fuel r).map fun (more, n) => (c :: more, n + 1)

end TaskDesk.Yaml.Uri
