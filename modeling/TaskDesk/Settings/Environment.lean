import TaskDesk.Settings.Value

/-!
# Settings in the environment

A variable whose name starts with `DBTASK__` in any case is a setting; in the rest of its
name a double underscore stands for a point.  The value is taken as a truth value, a whole
number or a double if it is one, and as a text otherwise.
-/

namespace TaskDesk

open TaskDesk.Text TaskDesk.Decimal

/-- The variables of a process. -/
abbrev Environment := List (String × String)

namespace Environment

/-- The start of the names of variables that are settings, in lower case. -/
def mark : List Char := "dbtask__".toList

/-- The characters after a given start, if a text begins with it. -/
def afterStart? : List Char → List Char → Option (List Char)
  | [], s => some s
  | c :: start, d :: s => if c = d then afterStart? start s else none
  | _ :: _, [] => none

/-- A text with points for double underscores. -/
def withPoints : List Char → List Char
  | '_' :: '_' :: s => '.' :: withPoints s
  | c :: s => c :: withPoints s
  | [] => []

/-- The name of the setting that a variable is. -/
def settingName? (name : String) : Option String :=
  (afterStart? mark (lowered name).toList).map fun rest => String.ofList (withPoints rest)

/-- The setting that a value is. -/
def settingOf (value : String) : Setting :=
  if lowered value = "true" then .bool true
  else if lowered value = "false" then .bool false
  else
    match signedWord? value.toList with
    | some i => .int i
    | none =>
      match Double.read? value with
      | some d => .double d
      | none => .text value

/-- The settings among the variables. -/
def settings (env : Environment) : List (String × Setting) :=
  env.filterMap fun (name, value) => (settingName? name).map fun n => (n, settingOf value)

end Environment

end TaskDesk
