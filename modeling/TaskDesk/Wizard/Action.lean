import TaskDesk.Wizard.Basic

/-!
# Operations of a wizard as values

A `Wizard.Action` is what a user can do to the fields of a wizard.  `Wizard.act` does it: an
action that is refused leaves the wizard as it was and tells nobody.
-/

namespace TaskDesk.Wizard

/-- An operation on the fields of a wizard. -/
inductive Action where
  | name (text : String)
  | description (text : String)
  | folder (name : Option String)
  | limit (limit : Option Span)
  | category (id : String)
  | type (id : String)
  | property (key : String) (value : Json)
  | validate

/-- What an action comes to: the wizard, whether something was done or found valid, or why not,
and what others are told. -/
structure Effect where
  wizard : Wizard
  answer : Except WizardError Bool
  events : List WizardEvent

/-- The effect of a selection. -/
def Effect.ofSelection (w : Wizard) : Except WizardError Selection → Effect
  | .ok s => ⟨s.wizard, .ok s.changed, s.events⟩
  | .error e => ⟨w, .error e, []⟩

/-- Does an action. -/
def act (m : Manager) (w : Wizard) : Action → Effect
  | .name text => let (w, done) := w.setName m text; ⟨w, .ok done, []⟩
  | .description text => ⟨w.setDescription m text, .ok true, []⟩
  | .folder name => ⟨w.setFolder m name, .ok true, []⟩
  | .limit limit => ⟨w.setLimit m limit, .ok true, []⟩
  | .category id => .ofSelection w (w.selectCategory m id)
  | .type id => .ofSelection w (w.selectType m id)
  | .property key value => ⟨w.putProperty key value, .ok true, []⟩
  | .validate => let w := w.settle m; ⟨w, .ok w.problem.isNone, []⟩

end TaskDesk.Wizard
