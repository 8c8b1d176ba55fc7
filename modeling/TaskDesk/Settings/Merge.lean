import TaskDesk.Settings.Value

/-!
# Putting settings together

A name of a setting can be a `Key`: a name, followed by names after points and places in
brackets.  `Setting.put` puts a value under such a key.  Tables are merged field by field, any
other value replaces what was there; tables and lists on the way are made where they are
missing.
-/

namespace TaskDesk

open TaskDesk.Text

/-- A step from a setting to a part of it. -/
inductive KeyStep where
  | name (n : String)
  | place (i : Int)
deriving DecidableEq, Repr

/-- A name and steps from there. -/
structure Key where
  name : String
  steps : List KeyStep
deriving DecidableEq, Repr

namespace Key

/-- The characters of names in keys. -/
def isNameChar (c : Char) : Bool :=
  c.isAlphanum || c = '_' || c = '-'

/-- A name and what follows it. -/
def name? (s : List Char) : Option (String × List Char) :=
  match s.takeWhile isNameChar with
  | [] => none
  | cs => some (String.ofList cs, s.dropWhile isNameChar)

/-- The text without spaces and tabs in front. -/
def dropSpaces (s : List Char) : List Char :=
  s.dropWhile fun c => c = ' ' || c = '\t'

/-- A place in brackets, after the opening one: a number, without a plus sign, that may have
spaces around it. -/
def place? (s : List Char) : Option (Int × List Char) :=
  let inside := (dropSpaces (dropSpaces (s.takeWhile fun c => c ≠ ']')).reverse).reverse
  match s.dropWhile fun c => c ≠ ']' with
  | [] => none
  | _ :: rest =>
    if inside.head? = some '+' then none else (signedWord? inside).map fun i => (i, rest)

/-- The steps that a text of at most `fuel` characters is made of. -/
def steps? : Nat → List Char → Option (List KeyStep)
  | _, [] => some []
  | 0, _ => none
  | fuel + 1, '.' :: s =>
    (name? s).bind fun (n, r) => (steps? fuel r).map (KeyStep.name n :: ·)
  | fuel + 1, '[' :: s =>
    (place? s).bind fun (i, r) => (steps? fuel r).map (KeyStep.place i :: ·)
  | _, _ => none

/-- The key that a text stands for; a text that is none stands for itself as a name. -/
def ofText (s : String) : Key :=
  let cs := s.toList
  match (name? cs).bind fun (n, r) => (steps? r.length r).map fun steps => Key.mk n steps with
  | some k => k
  | none => ⟨s, []⟩

end Key

namespace Setting

/-- The fields of a table; any other setting has none. -/
def fields : Setting → List (String × Setting)
  | .table fs => fs
  | _ => []

/-- The items of a list; any other setting has none. -/
def items : Setting → List Setting
  | .list xs => xs
  | _ => []

/-- The items with one at a place; places below zero count from the end. -/
def changeItem (f : Setting → Setting) (i : Int) (xs : List Setting) : List Setting :=
  if i < 0 ∧ i + xs.length < 0 then
    let missing := (-(i + xs.length)).toNat
    f .absent :: (List.replicate (missing - 1) .absent ++ xs)
  else
    let n := (if i < 0 then i + xs.length else i).toNat
    if h : n < xs.length then xs.set n (f xs[n])
    else xs ++ List.replicate (n - xs.length) .absent ++ [f .absent]

/-- The setting with a part changed. -/
def change (f : Setting → Setting) : List KeyStep → Setting → Setting
  | [], s => f s
  | .name n :: steps, s =>
    .table (Keyed.put n (change f steps ((Keyed.find? n s.fields).getD .absent)) s.fields)
  | .place i :: steps, s => .list (changeItem (change f steps) i s.items)

mutual

/-- A value put where another one was. -/
def merge (old : Setting) : Setting → Setting
  | .table fs => .table (mergeFields old.fields fs)
  | s => s

/-- The fields of a table put where other ones were. -/
def mergeFields (old : List (String × Setting)) :
    List (String × Setting) → List (String × Setting)
  | [] => old
  | (n, s) :: rest =>
    mergeFields (Keyed.put n (merge ((Keyed.find? n old).getD .absent) s) old) rest

end

/-- A setting with a value under a key. -/
def put (s : Setting) (key : String) (value : Setting) : Setting :=
  let k := Key.ofText key
  s.change (fun old => old.merge value) (.name k.name :: k.steps)

/-- A setting with values under keys, one after the other. -/
def putAll (s : Setting) (values : List (String × Setting)) : Setting :=
  values.foldl (fun s e => s.put e.1 e.2) s

end Setting

end TaskDesk
