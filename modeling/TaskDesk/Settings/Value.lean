import TaskDesk.Decimal.Shortest
import TaskDesk.Decimal.Reading
import TaskDesk.Keyed

/-!
# Values of settings

A `Setting` is a value in a settings file or in the environment.  A setting is read as the
kind that its place asks for: `bool?`, `word?` and `text?` also accept values of other kinds
that can be taken for one.
-/

namespace TaskDesk

open TaskDesk.Text TaskDesk.Decimal

/-- A value of a setting. -/
inductive Setting where
  | absent
  | bool (b : Bool)
  | int (i : Int)
  | double (d : Double)
  | text (s : String)
  | list (items : List Setting)
  | table (fields : List (String × Setting))
deriving Repr, Inhabited

namespace Setting

/-- The words for yes. -/
def yesWords : List String := ["true", "on", "yes"]

/-- The words for no. -/
def noWords : List String := ["false", "off", "no"]

/-- Doubles are written by position, whole ones without a point. -/
def doubleLayout : Layout := ⟨none, none, []⟩

/-- A truth value; of numbers only zero is false. -/
def bool? : Setting → Option Bool
  | .bool b => some b
  | .int i => some (i ≠ 0)
  | .double d =>
    match d.decode with
    | .finite _ m _ => some (m ≠ 0)
    | _ => some true
  | .text s =>
    let word := lowered s
    if word = "1" ∨ word ∈ yesWords then some true
    else if word = "0" ∨ word ∈ noWords then some false
    else none
  | _ => none

/-- The whole number nearest to a double, a half going away from zero, within the range from 0
below `2 ^ 64`; no number is 0. -/
def nearestWord (d : Double) : Nat :=
  match d.decode with
  | .nan => 0
  | .infinite negative => if negative then 0 else maxWord
  | .finite negative m e => if negative then 0 else min maxWord (Double.roundHalfUp m e)

/-- A whole number from 0 below `2 ^ 64`. -/
def word? : Setting → Option Nat
  | .bool b => some (if b then 1 else 0)
  | .int i => if 0 ≤ i then some i.toNat else none
  | .double d => some (nearestWord d)
  | .text s =>
    let word := lowered s
    if word ∈ yesWords then some 1
    else if word ∈ noWords then some 0
    else Text.word? s.toList
  | _ => none

/-- A text; truth values and numbers are written out. -/
def text? : Setting → Option String
  | .bool b => some (if b then "true" else "false")
  | .int i => some (intText i)
  | .double d => some (String.ofList (d.text doubleLayout))
  | .text s => some s
  | _ => none

/-- A setting that may be absent. -/
def option? {α : Type} (read : Setting → Option α) : Setting → Option (Option α)
  | .absent => some none
  | s => (read s).map some

/-- The items of a list, each read. -/
def list? {α : Type} (read : Setting → Option α) : Setting → Option (List α)
  | .list items => items.mapM read
  | _ => none

/-- A setting as a record with the given field names: for each name its value, if it is there.
A list is taken as the first fields of the record in order. -/
def shape? (names : List String) : Setting → Option (List (Option Setting))
  | .table fields => some (names.map fun n => Keyed.find? n fields)
  | .list items => some (names.zipIdx.map fun (_, i) => items[i]?)
  | _ => none

/-- A field with a default for its absence. -/
def orElse {α : Type} (default : α) (read : Setting → Option α) : Option Setting → Option α
  | none => some default
  | some s => read s

end Setting

end TaskDesk
