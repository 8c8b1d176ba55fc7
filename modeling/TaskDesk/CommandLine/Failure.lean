import TaskDesk.Catalog.Builder
import TaskDesk.Settings.Load
import TaskDesk.Target.Basic
import TaskDesk.Wizard.Basic

/-!
# Failures of commands

A `Failure` says what was being done, from the outside in, and the error that it came from,
if there is one.
-/

namespace TaskDesk.CommandLine

/-- The error that a failure came from. -/
inductive Cause where
  | settings (e : SettingsError)
  | logFilter
  | file (e : FileError)
  | catalog (e : CatalogError)
  | storage (e : StorageError)
  | manager (e : ManagerError)
  | wizard (e : WizardError)
  | lookup (e : LookupError)
  | resolve (e : ResolveError)

/-- Why a command was not done. -/
structure Failure where
  doing : List String
  cause : Option Cause

namespace Failure

/-- A failure that is nothing but an error. -/
def of (cause : Cause) : Failure := ⟨[], some cause⟩

/-- A failure that only says what is wrong. -/
def saying (text : String) : Failure := ⟨[text], none⟩

/-- A failure in the course of something else. -/
def within (text : String) (f : Failure) : Failure :=
  { f with doing := text :: f.doing }

/-- A failure to load settings. -/
def ofSettings (e : SettingsError) : Failure :=
  ⟨[e.message], some (.settings e)⟩

end Failure

/-- The text of the error that a failure came from. -/
def Cause.message : Cause → String
  | .settings _ => "<config>"
  | .logFilter => "<log filter>"
  | .file e => e.message
  | .catalog e => e.message
  | .storage e => e.message
  | .manager e => e.message
  | .wizard e => e.message
  | .lookup e => e.message
  | .resolve e => e.message

end TaskDesk.CommandLine
