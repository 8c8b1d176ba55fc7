import TaskDesk.Wizard.Action
import Mathlib.Tactic.Common

/-!
# What the operations of a wizard leave alone

A `Wizard.Operation` is anything that can be done to a wizard between commits: an action on its
fields, any change of the properties, and the choices made in advance.  None of them touches the
record, the sessions, the catalog and the mode, which are settled when the wizard is made.
-/

namespace TaskDesk.Wizard

/-- What can be done to a wizard between commits. -/
inductive Operation where
  | act (a : Action)
  | properties (p : Properties)
  | withFolder (folder : Option String)
  | withFiltering (filtering : Bool)
  | withDefaultLimit (defaultLimit : Span)

/-- The wizard after an operation. -/
def operate (m : Manager) (w : Wizard) : Operation → Wizard
  | .act a => (w.act m a).wizard
  | .properties p => { w with properties := p }
  | .withFolder folder => w.withFolder folder
  | .withFiltering filtering => w.withFiltering filtering
  | .withDefaultLimit defaultLimit => w.withDefaultLimit defaultLimit

/-! ### Selections -/

/-- A category that is accepted is selected already without a task type, or it is selected now. -/
theorem selectCategory_eq_ok {m : Manager} {w : Wizard} {id : String} {s : Selection}
    (h : w.selectCategory m id = .ok s) :
  s = ⟨w, false, []⟩
    ∨ (¬(w.category = some id ∧ w.taskType = none)
      ∧ s = ⟨settle m
          { w with category := some id, taskType := none, state := .categorySelected }, true,
          [.category id]⟩)
  := by
  rw [selectCategory] at h
  split at h
  · cases h
  · split at h
    · exact .inl (Except.ok.inj h).symm
    · next hnew => exact .inr ⟨hnew, (Except.ok.inj h).symm⟩

/-- A task type that is accepted is in the catalog, and it is selected already, or it is selected
now with its category and the properties go away if there are any and they are not for it. -/
theorem selectType_eq_ok {m : Manager} {w : Wizard} {id : String} {s : Selection}
    (h : w.selectType m id = .ok s) :
  let resets := w.changesType id && !w.properties.isEmpty
  ∃ t, w.catalog.type? id = some t
    ∧ ((w.taskType = some id ∧ s = ⟨w, false, []⟩)
      ∨ (w.taskType ≠ some id
        ∧ s = ⟨settle m { w with
            category := some t.category
            taskType := some id
            state := .typeSelected
            properties := if resets then Properties.empty else w.properties }, true,
            .type t.category id :: if resets then [.reset id] else []⟩))
  := by
  intro resets
  rw [selectType] at h
  split at h
  · cases h
  · next t ht =>
    refine ⟨t, ht, ?_⟩
    split at h
    · next hsame => exact .inl ⟨hsame, (Except.ok.inj h).symm⟩
    · next hnew => exact .inr ⟨hnew, (Except.ok.inj h).symm⟩

/-! ### The task of a wizard -/

/-- Whether two wizards stand for the same task and have the same sessions. -/
structure SameTask (w w' : Wizard) : Prop where
  record : w'.record = w.record
  sessions : w'.sessions = w.sessions
  mode : w'.mode = w.mode
  catalog : w'.catalog = w.catalog

theorem SameTask.refl (w : Wizard) :
  w.SameTask w
  := ⟨rfl, rfl, rfl, rfl⟩

theorem SameTask.taskId? {w w' : Wizard} (h : w.SameTask w') :
  w'.taskId? = w.taskId?
  := by
  rw [Wizard.taskId?, h.record, Wizard.taskId?]

theorem sameTask_selectCategory {m : Manager} {w : Wizard} {id : String} {s : Selection}
    (h : w.selectCategory m id = .ok s) :
  w.SameTask s.wizard
  := by
  obtain rfl | ⟨-, rfl⟩ := selectCategory_eq_ok h <;> exact ⟨rfl, rfl, rfl, rfl⟩

theorem sameTask_selectType {m : Manager} {w : Wizard} {id : String} {s : Selection}
    (h : w.selectType m id = .ok s) :
  w.SameTask s.wizard
  := by
  obtain ⟨t, -, ⟨-, rfl⟩ | ⟨-, rfl⟩⟩ := selectType_eq_ok h <;> exact ⟨rfl, rfl, rfl, rfl⟩

theorem sameTask_ofSelection {w : Wizard} {x : Except WizardError Selection}
    (h : ∀ {s}, x = .ok s → w.SameTask s.wizard) :
  w.SameTask (Effect.ofSelection w x).wizard
  := by
  cases x with
  | error e => apply SameTask.refl
  | ok s => apply h rfl

theorem sameTask_act (m : Manager) (w : Wizard) (a : Action) :
  w.SameTask (w.act m a).wizard
  := by
  cases a with
  | name text =>
    have heffect : (w.act m (.name text)).wizard = (w.setName m text).1 := rfl
    rw [heffect, setName]
    split <;> exact ⟨rfl, rfl, rfl, rfl⟩
  | category id =>
    apply sameTask_ofSelection
    apply sameTask_selectCategory
  | type id =>
    apply sameTask_ofSelection
    apply sameTask_selectType
  | _ => exact ⟨rfl, rfl, rfl, rfl⟩

/-- An operation leaves the task and the sessions of a wizard alone. -/
theorem sameTask_operate (m : Manager) (w : Wizard) (o : Operation) :
  w.SameTask (w.operate m o)
  := by
  cases o with
  | act a => apply sameTask_act
  | _ => exact ⟨rfl, rfl, rfl, rfl⟩

/-! ### The wizard for a record -/

/-- A wizard for a record has the record, its type, and no sessions. -/
theorem edit_ok {catalog : Catalog} {r : Record} {w : Wizard} (h : edit catalog r = .ok w) :
  w.record = some r ∧ w.sessions = [] ∧ w.catalog = catalog
    ∧ ∃ t, catalog.type? r.taskType = some t ∧ w.taskType = some t.id
  := by
  rw [edit] at h
  split at h
  · cases h
  · next t ht =>
    obtain rfl := Except.ok.inj h
    exact ⟨rfl, rfl, rfl, t, ht, rfl⟩

end TaskDesk.Wizard
