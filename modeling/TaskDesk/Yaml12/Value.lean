import TaskDesk.Decimal.Reading
import TaskDesk.Text.Digits
import TaskDesk.Yaml.Token

/-!
# Values of YAML 1.2

A `Value` is what a node of a YAML 1.2 document stands for.  A plain scalar without a tag is
null, a truth value, a whole number of 64 bits, a real number or a text; a tag of the core
schema asks for one of these kinds.  Every other scalar is a text.  In a mapping no key may
occur twice.
-/

namespace TaskDesk.Yaml12

open TaskDesk.Text TaskDesk.Decimal

/-- What a node stands for.  A `real` number is kept as it is written; a scalar that is not of
the kind that its tag asks for, and an alias inside its own node, is `bad`. -/
inductive Value where
  | bad
  | null
  | bool (b : Bool)
  | int (i : Int)
  | real (s : String)
  | text (s : String)
  | list (items : List Value)
  | table (entries : List (Value × Value))
deriving Repr, BEq, Inhabited

namespace Value

/-- A whole number as it is written: with `0x`, with `0o`, or decimal. -/
def wholeNumber? (s : List Char) : Option Int :=
  let based (base : Nat) (s : List Char) : Option Int :=
    let (negative, ds) := splitSign s
    (inBase? base ds).bind fun n =>
      let i : Int := if negative then -n else n
      if isSignedWord i then some i else none
  let special := match s with
    | '0' :: 'x' :: s => based 16 s
    | '0' :: 'o' :: s => based 8 s
    | '+' :: s => signedWord? s
    | _ => none
  special.orElse fun _ => signedWord? s

/-- Whether a text is a real number; the words for infinity and for no number begin with a
point. -/
def isReal (s : String) : Bool :=
  [".inf", ".Inf", ".INF", "+.inf", "+.Inf", "+.INF", "-.inf", "-.Inf", "-.INF", ".nan", ".NaN",
    ".NAN"].contains s
    || (s.toList.any Char.isDigit && (Double.read? s).isSome)

/-- The truth value that a word stands for. -/
def boolWord? (s : String) : Option Bool :=
  if s = "true" ∨ s = "True" ∨ s = "TRUE" then some true
  else if s = "false" ∨ s = "False" ∨ s = "FALSE" then some false
  else none

/-- The value of a plain scalar without a tag. -/
def ofPlain (s : String) : Value :=
  match wholeNumber? s.toList, boolWord? s with
  | some i, _ => .int i
  | none, some b => .bool b
  | none, none =>
    if s = "" ∨ s = "~" ∨ s = "null" then .null
    else if isReal s then .real s
    else .text s

/-- The value of a plain scalar with a tag: what its handle stands for, and its suffix. -/
def ofTagged (handle suffix s : String) : Value :=
  if handle = "tag:yaml.org,2002:" then
    match suffix with
    | "bool" => (boolWord? s).elim .bad .bool
    | "int" => (signedWord? s.toList).elim .bad .int
    | "float" => if isReal s then .real s else .bad
    | "null" => if s = "~" ∨ s = "null" then .null else .bad
    | _ => .text s
  else .text s

/-- The value of a scalar. -/
def ofScalar (tag : Option (String × String)) (style : Yaml.Style) (s : String) : Value :=
  if style ≠ .plain then .text s
  else
    match tag with
    | some (handle, suffix) => ofTagged handle suffix s
    | none => ofPlain s

/-- The entries of a mapping whose nodes are keys and values in turn.  A bad value is no key,
and the next node takes its place; a key at the end without a value is left out. -/
def paired : List Value → List (Value × Value)
  | .bad :: rest => paired rest
  | k :: v :: rest => (k, v) :: paired rest
  | _ => []

/-- The mapping with the given nodes, unless a key occurs twice. -/
def ofNodes? (nodes : List Value) : Option Value :=
  let rec repeats : List Value → Bool
    | [] => false
    | k :: ks => ks.contains k || repeats ks
  let entries := paired nodes
  if repeats (entries.map Prod.fst) then none else some (.table entries)

end Value

end TaskDesk.Yaml12
