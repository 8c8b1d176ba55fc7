import TaskDesk.Keyed
import TaskDesk.Decimal.Double

/-!
# JSON values

A `Json` value keeps whole numbers and doubles apart and keeps the fields of an object in
order.  The fields of an object have distinct names in every value that is read from a text.
-/

namespace TaskDesk

/-- A number: a whole one, or a double. -/
inductive Number where
  | whole (i : Int)
  | double (d : Decimal.Double)
deriving DecidableEq, Repr

/-- A JSON value. -/
inductive Json where
  | null
  | bool (b : Bool)
  | num (n : Number)
  | str (s : String)
  | arr (items : List Json)
  | obj (fields : List (String × Json))
deriving Repr, Inhabited

namespace Json

/-- A whole number as a value. -/
def whole (i : Int) : Json := .num (.whole i)

/-- A natural number as a value. -/
def nat (n : Nat) : Json := .num (.whole n)

/-- A list of texts as a value. -/
def texts (xs : List String) : Json := .arr (xs.map .str)

/-- The value of an option, `null` for none. -/
def ofOption {α : Type} (f : α → Json) : Option α → Json
  | none => .null
  | some a => f a

/-- The text of a value that is a text. -/
def text? : Json → Option String
  | .str s => some s
  | _ => none

end Json

end TaskDesk
