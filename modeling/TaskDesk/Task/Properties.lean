import TaskDesk.Json.Form

/-!
# Properties of a task

`Properties` are named JSON values in order.  A value put under a name that is present keeps
the place of the name; a new name goes to the end.  Taking a name out moves the last entry
into the freed place.
-/

namespace TaskDesk

/-- Named values, in order. -/
structure Properties where
  entries : List (String × Json)
deriving Repr, Inhabited

namespace Properties

/-- No properties. -/
def empty : Properties := ⟨[]⟩

/-- The properties with the given entries; a repeated name takes its last value. -/
def ofList (entries : List (String × Json)) : Properties :=
  ⟨Keyed.ofList entries⟩

/-- The value under a name. -/
def get? (p : Properties) (key : String) : Option Json :=
  Keyed.find? key p.entries

/-- The value under a name, if it is a text. -/
def text? (p : Properties) (key : String) : Option String :=
  (p.get? key).bind Json.text?

/-- The properties with a value under a name. -/
def insert (p : Properties) (key : String) (value : Json) : Properties :=
  ⟨Keyed.put key value p.entries⟩

/-- The properties without a name. -/
def erase (p : Properties) (key : String) : Properties :=
  ⟨Keyed.swapErase key p.entries⟩

/-- The names, in order. -/
def keys (p : Properties) : List String :=
  Keyed.keys p.entries

/-- The number of names. -/
def size (p : Properties) : Nat :=
  p.entries.length

/-- Whether there are no properties. -/
def isEmpty (p : Properties) : Bool :=
  p.entries.isEmpty

/-- The properties as a JSON object. -/
def toJson (p : Properties) : Json :=
  .obj p.entries

/-- The properties that an object nested at most `levels` deep holds. -/
def ofForm? (levels : Nat) : Form → Option Properties
  | .obj fields =>
    match (Form.obj fields).value? levels with
    | some (.obj entries) => some ⟨entries⟩
    | _ => none
  | _ => none

theorem isEmpty_iff {p : Properties} :
  p.isEmpty = true ↔ p = empty
  := by
  cases p
  simp [isEmpty, empty]

theorem get?_insert (p : Properties) (k k' : String) (v : Json) :
  (p.insert k' v).get? k = if k = k' then some v else p.get? k
  := Keyed.find?_put k k' v p.entries

end Properties

end TaskDesk
