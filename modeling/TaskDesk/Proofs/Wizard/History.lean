import TaskDesk.Proofs.Wizard.Outcome

/-!
# Which properties outlive a change of the task type

A wizard holds its selected task type, but not the one that was selected before a category was
picked.  A `History` adds that past to an unsaved wizard.  When another type is selected, the
properties go away unless a category was picked in between, or, for a wizard with a record,
unless the record is of the newly selected type; and what is left then, with the entries made
since, is what a new task gets: `properties_of_start`.
-/

namespace TaskDesk

namespace Wizard

/-- What an operation does to the selection. -/
inductive Choice where
  | category
  | type (id : String)
  | none

/-- The choice that an operation makes; an action that is answered otherwise than by "done" makes
none. -/
def choice (w : Wizard) (m : Manager) : Operation → Choice
  | .act (.category id) =>
    match (w.act m (.category id)).answer with
    | .ok true => .category
    | _ => .none
  | .act (.type id) =>
    match (w.act m (.type id)).answer with
    | .ok true => .type id
    | _ => .none
  | _ => .none

/-- The properties after an operation that selects no type. -/
def Operation.enter (p : Properties) : Operation → Properties
  | .act (.property key value) => p.insert key value
  | .properties q => q
  | _ => p

theorem selectCategory_cases {w : Wizard} {m : Manager} {id : String} {s : Selection}
    (h : w.selectCategory m id = .ok s) :
  (s.changed = false ∧ s.wizard = w)
    ∨ (s.changed = true ∧ s.wizard.taskType = none ∧ s.wizard.properties = w.properties)
  := by
  obtain rfl | ⟨-, rfl⟩ := selectCategory_eq_ok h
  · exact .inl ⟨rfl, rfl⟩
  · exact .inr ⟨rfl, rfl, rfl⟩

theorem selectType_cases {w : Wizard} {m : Manager} {id : String} {s : Selection}
    (h : w.selectType m id = .ok s) :
  (s.changed = false ∧ s.wizard = w)
    ∨ (s.changed = true ∧ s.wizard.taskType = some id
      ∧ s.wizard.properties = if w.changesType id then Properties.empty else w.properties)
  := by
  obtain ⟨t, -, ⟨-, rfl⟩ | ⟨-, rfl⟩⟩ := selectType_eq_ok h
  · exact .inl ⟨rfl, rfl⟩
  · refine .inr ⟨rfl, rfl, ?_⟩
    simp only [settle, Bool.and_eq_true, Bool.not_eq_true']
    split
    · next hresets => rw [if_pos hresets.1]
    · next hresets =>
      split
      · next hchanges =>
        -- Properties are left as they are if there are none.
        have hnone : w.properties.isEmpty = true := by simpa [hchanges] using hresets
        exact Properties.isEmpty_iff.mp hnone
      · rfl

/-- Without a choice the selected type stays.  A category takes it away, and the properties are
what is entered in either case; a type keeps the properties if it does not count as another one. -/
theorem operate_choice (w : Wizard) (m : Manager) (o : Operation) :
  let after := w.operate m o
  match w.choice m o with
  | .category => after.taskType = none ∧ after.properties = o.enter w.properties
  | .type id => after.taskType = some id
      ∧ after.properties = if w.changesType id then Properties.empty else w.properties
  | .none => after.taskType = w.taskType ∧ after.properties = o.enter w.properties
  := by
  cases o with
  | act a =>
    cases a with
    | name text =>
      have heffect : w.operate m (.act (.name text)) = (w.setName m text).1 := rfl
      rw [heffect, setName]
      split <;> exact ⟨rfl, rfl⟩
    | category id =>
      simp only [choice, operate, act]
      cases h : w.selectCategory m id with
      | error e => exact ⟨rfl, rfl⟩
      | ok s =>
        obtain ⟨hidle, hsame⟩ | ⟨hchanged, htype, hproperties⟩ := selectCategory_cases h
        · simp [Effect.ofSelection, hidle, hsame, Operation.enter]
        · simp [Effect.ofSelection, hchanged, htype, hproperties, Operation.enter]
    | type id =>
      simp only [choice, operate, act]
      cases h : w.selectType m id with
      | error e => exact ⟨rfl, rfl⟩
      | ok s =>
        obtain ⟨hidle, hsame⟩ | ⟨hchanged, htype, hproperties⟩ := selectType_cases h
        · simp [Effect.ofSelection, hidle, hsame, Operation.enter]
        · simp [Effect.ofSelection, hchanged, htype, hproperties]
    | _ => exact ⟨rfl, rfl⟩
  | _ => exact ⟨rfl, rfl⟩

end Wizard

open Wizard (Operation)

/-- A wizard with the task types that were selected, the last one first, and with whether a
category was picked since. -/
structure History where
  wizard : Wizard
  types : List String
  categoryPicked : Bool

namespace History

/-- The history after an operation. -/
def step (h : History) (m : Manager) (o : Operation) : History :=
  let after := h.wizard.operate m o
  match h.wizard.choice m o with
  | .category => ⟨after, h.types, true⟩
  | .type id => ⟨after, id :: h.types, false⟩
  | .none => ⟨after, h.types, h.categoryPicked⟩

/-- The history after operations, the first one first; each finds a manager of its own. -/
def run (h : History) (steps : List (Manager × Operation)) : History :=
  steps.foldl (fun h s => h.step s.1 s.2) h

/-- A history that begins with a wizard for a new task, or for a record that is not saved, whose
type counts as selected. -/
inductive Start : History → Prop where
  | create (catalog : Catalog) : Start ⟨Wizard.create catalog, [], false⟩
  | edit {catalog : Catalog} {r : Record} {w : Wizard} (h : Wizard.edit catalog r = .ok w)
      (hr : r.isSaved = false) : Start ⟨w, [r.taskType], false⟩

/-- Whether the properties outlive the selection of a type: a category was picked since the last
one, or there is a record and it is of that type. -/
def spares (h : History) (id : String) : Bool :=
  match h.wizard.record with
  | none => h.categoryPicked
  | some r => r.taskType = id

/-! ### What histories keep -/

/-- The selected type is the last one of the history, unless a category was picked since; and
nothing is saved. -/
structure Kept (h : History) : Prop where
  taskType : h.wizard.taskType = if h.categoryPicked then none else h.types.head?
  unsaved : h.wizard.taskId? = none

theorem Start.kept {h : History} (hs : h.Start) :
  h.Kept
  := by
  cases hs with
  | create catalog => exact ⟨rfl, rfl⟩
  | @edit catalog r w hw hr =>
    obtain ⟨hrecord, -, -, t, ht, htype⟩ := Wizard.edit_ok hw
    rw [Wizard.id_of_type? ht] at htype
    refine ⟨htype, ?_⟩
    have hempty : r.id = "" := by simpa [Record.isSaved] using hr
    simp [Wizard.taskId?, hrecord, hempty]

variable {h : History}

@[simp]
theorem wizard_step (h : History) (m : Manager) (o : Operation) :
  (h.step m o).wizard = h.wizard.operate m o
  := by
  rw [step]
  cases h.wizard.choice m o <;> rfl

theorem Kept.step (hk : h.Kept) (m : Manager) (o : Operation) :
  (h.step m o).Kept
  where
  taskType := by
    have hoperate := h.wizard.operate_choice m o
    rw [History.step]
    cases hchoice : h.wizard.choice m o with
    | category =>
      rw [hchoice] at hoperate
      exact hoperate.1
    | type id =>
      rw [hchoice] at hoperate
      exact hoperate.1
    | none =>
      rw [hchoice] at hoperate
      exact hoperate.1.trans hk.taskType
  unsaved := by
    rw [wizard_step, (Wizard.sameTask_operate m h.wizard o).taskId?, hk.unsaved]

theorem Kept.run (hk : h.Kept) (steps : List (Manager × Operation)) :
  (h.run steps).Kept
  := by
  induction steps generalizing h with
  | nil => exact hk
  | cons s rest ih => exact ih (hk.step s.1 s.2)

/-- Types are only ever added to a history. -/
theorem types_step (h : History) (m : Manager) (o : Operation) :
  h.types <:+ (h.step m o).types
  := by
  rw [step]
  cases h.wizard.choice m o with
  | type id => apply List.suffix_cons
  | _ => exact List.suffix_rfl

theorem types_run (h : History) (steps : List (Manager × Operation)) :
  h.types <:+ (h.run steps).types
  := by
  induction steps generalizing h with
  | nil => exact List.suffix_rfl
  | cons s rest ih => exact (h.types_step s.1 s.2).trans (ih (h.step s.1 s.2))

theorem properties_step {m : Manager} {o : Operation} (hsame : (h.step m o).types = h.types) :
  (h.step m o).wizard.properties = o.enter h.wizard.properties
  := by
  have hoperate := h.wizard.operate_choice m o
  rw [wizard_step]
  rw [step] at hsame
  cases hchoice : h.wizard.choice m o with
  | type id => simp [hchoice] at hsame
  | category | none =>
    rw [hchoice] at hoperate
    exact hoperate.2

/-- As long as no type is selected, the properties are what is entered. -/
theorem properties_run {steps : List (Manager × Operation)}
    (hsame : (h.run steps).types = h.types) :
  (h.run steps).wizard.properties
    = steps.foldl (fun p s => s.2.enter p) h.wizard.properties
  := by
  induction steps generalizing h with
  | nil => rfl
  | cons s rest ih =>
    -- Types are never taken out, so there are no new ones after the first step either.
    have hrest : (h.step s.1 s.2).types <:+ h.types := by
      rw [← hsame]
      apply types_run
    have hfirst : (h.step s.1 s.2).types = h.types :=
      hrest.eq_of_length_le (h.types_step s.1 s.2).length_le
    have hnow : (h.step s.1 s.2).wizard.properties = s.2.enter h.wizard.properties :=
      properties_step hfirst
    have hlater := ih (hsame.trans hfirst.symm)
    rw [hnow] at hlater
    exact hlater

theorem changesType_eq (hk : h.Kept) {first : String} (hlast : h.types.head? = some first)
    (id : String) :
  h.wizard.changesType id = !h.spares id
  := by
  rw [Wizard.changesType, spares]
  cases h.wizard.record with
  | some r => simp
  | none =>
    rw [hk.taskType, hlast]
    cases h.categoryPicked <;> rfl

/-- If a task type is selected in a history in which a type was selected before, the properties
outlive that exactly if the history spares them for the new type.  A task that is made later,
before the next selection, is of the new type and has them with what was entered since. -/
theorem properties_of_start {start : History} (hstart : start.Start)
    (done : List (Manager × Operation)) (m : Manager) (first second : String)
    (hlast : (start.run done).types.head? = some first)
    (hselects : ((start.run done).wizard.act m (.type second)).answer = .ok true) :
  let h := start.run done
  let selected := h.step m (.act (.type second))
  selected.wizard.properties
      = (if h.spares second then h.wizard.properties else Properties.empty)
    ∧ ∀ (later : List (Manager × Operation)) (m' : Manager) (dir : TaskDir)
        (one two : SaveOutcome) (now : Timestamp) (id : String),
      (selected.run later).types = selected.types →
      let reply := (selected.run later).wizard.commit m' dir one two now id
      reply.answer.isOk →
      ∃ r, reply.manager.tasks.task? id = some r ∧ r.taskType = second
        ∧ r.properties = later.foldl (fun p s => s.2.enter p) selected.wizard.properties
  := by
  intro h selected
  have hk : h.Kept := hstart.kept.run done
  have hchoice : h.wizard.choice m (.act (.type second)) = .type second := by
    simp [Wizard.choice, h, hselects]
  have hselected : selected.types = second :: h.types := by
    simp only [selected]
    rw [step, hchoice]
  constructor
  · have hoperate := h.wizard.operate_choice m (.act (.type second))
    rw [hchoice] at hoperate
    have hproperties : selected.wizard.properties
        = if h.wizard.changesType second then Properties.empty else h.wizard.properties := by
      simp only [selected]
      rw [wizard_step]
      exact hoperate.2
    rw [hproperties, changesType_eq hk hlast]
    cases h.spares second <;> rfl
  · intro later m' dir one two now id hsame reply hok
    have hlater : (selected.run later).Kept := (hk.step m _).run later
    have hending : (selected.run later).wizard.Ending m'.project now id m'.tasks
        reply.manager.tasks reply.events true := by
      rw [← hok]
      exact Wizard.ending_commit _ m' dir one two now id
    obtain ⟨type, htype, hmade⟩ := hending.made hlater.unsaved
    refine ⟨_, hmade, ?_, properties_run hsame⟩
    have hlast' := hlater.taskType
    rw [htype, hsame, hselected, List.head?_cons] at hlast'
    split at hlast'
    · cases hlast'
    · exact Option.some.inj hlast'

/-- Properties that are entered for one type end up in a task of another, if a category is picked
in between. -/
theorem properties_of_start_instance :
  let catalog : Catalog := ⟨[.mk ⟨"common", "Common", "", none, none⟩ []
    [⟨"dump", "Dump", "common", "", none, true, .anyDriver⟩,
      ⟨"shell", "Shell", "common", "", none, true, .anyDriver⟩]]⟩
  let day : Timestamp := ⟨2024, 2, 29, 23, 59, 60, 1⟩
  let m := Manager.new "General"
  let start : History := ⟨Wizard.create catalog, [], false⟩
  let h := start.run [
    (m, .act (.type "shell")), (m, .act (.property "script" (.str "backup.sh"))),
    (m, .act (.category "common"))]
  let selected := h.step m (.act (.type "dump"))
  let reply := (selected.run [(m, .act (.name "Backup"))]).wizard.commit m TaskDir.new
    .saved .saved day "t1"
  start.Start ∧ h.types.head? = some "shell"
    ∧ (h.wizard.act m (.type "dump")).answer = .ok true
    ∧ selected.wizard.properties = Properties.empty.insert "script" (.str "backup.sh")
    ∧ ∃ r, reply.manager.tasks.task? "t1" = some r ∧ r.taskType = "dump"
      ∧ r.properties = Properties.empty.insert "script" (.str "backup.sh")
  := by
  refine ⟨.create _, ?last, ?selects, ?kept, ?carried⟩
  case kept =>
    obtain ⟨hkept, -⟩ := properties_of_start (.create _) [_, _, _] _ "shell" "dump" ?last ?selects
    exact hkept.trans rfl
  case carried =>
    obtain ⟨hkept, hcarried⟩ :=
      properties_of_start (.create _) [_, _, _] _ "shell" "dump" ?last ?selects
    obtain ⟨r, hr, htype, hproperties⟩ := hcarried [(Manager.new "General", .act (.name "Backup"))]
      (Manager.new "General") TaskDir.new .saved .saved ⟨2024, 2, 29, 23, 59, 60, 1⟩ "t1"
      (by decide +kernel) (by decide +kernel)
    exact ⟨r, hr, htype, hproperties.trans (hkept.trans rfl)⟩
  all_goals decide +kernel

end History

end TaskDesk
