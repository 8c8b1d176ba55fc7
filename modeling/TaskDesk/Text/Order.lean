/-!
# The order of names

Names are ordered by their characters, which is the order of their UTF-8 bytes.  `nameLe`
is this order as a test, `sortOn name` sorts a list by a name and keeps the order of equal
names, and `insertName` and `eraseName` are the operations of a set of names held as a
strictly increasing list.
-/

namespace TaskDesk.Text

/-- The order of names by their characters. -/
def nameLe (a b : String) : Bool :=
  decide (a ≤ b)

/-- A list sorted by name; entries of one name keep their order. -/
def sortOn {α : Type} (name : α → String) (xs : List α) : List α :=
  xs.mergeSort fun x y => nameLe (name x) (name y)

/-- A name put into a strictly increasing list of names; a name that is present stays once. -/
def insertName (n : String) : List String → List String
  | [] => [n]
  | m :: ms => if n = m then m :: ms else if n < m then n :: m :: ms else m :: insertName n ms

/-- A name taken out of a list of names. -/
def eraseName (n : String) (names : List String) : List String :=
  names.filter fun m => m ≠ n

/-- The names of a list, each once, in increasing order. -/
def nameSet (names : List String) : List String :=
  names.foldl (fun set n => insertName n set) []

theorem mem_insertName {n m : String} {names : List String} :
  m ∈ insertName n names ↔ m = n ∨ m ∈ names
  := by
  induction names with
  | nil => simp [insertName]
  | cons k ks ih =>
    simp only [insertName]
    split
    · simp_all
    · split
      · simp
      · simp only [List.mem_cons, ih]
        grind

theorem mem_eraseName {n m : String} {names : List String} :
  m ∈ eraseName n names ↔ m ∈ names ∧ m ≠ n
  := by
  simp [eraseName]

end TaskDesk.Text
