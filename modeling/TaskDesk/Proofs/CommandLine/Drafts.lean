import TaskDesk.Proofs.CommandLine.Work
import TaskDesk.Proofs.Wizard.Files

/-!
# The wizards of the commands

A command that creates or edits a task fills a wizard in and commits it.  `Desk.draft` is the wizard
for a new task, `Desk.revision` the one for a task that is there; `run_createTask` and
`run_editTask` say what the commands come to in terms of them.
-/

namespace TaskDesk

namespace Wizard

/-- A new wizard that was judged may be committed exactly if nothing is wrong with its fields. -/
theorem canProceed_settle {m : Manager} {w : Wizard} (h : w.mode = .create) :
  (w.settle m).canProceed = (w.validate m).isNone
  := by
  cases hproblem : w.validate m <;> simp [canProceed, settle, h, hproblem]

/-- The first selection of a task type keeps the properties. -/
theorem selectType_first {m : Manager} {w : Wizard} {id : String} {t : TaskType}
    (hrecord : w.record = none) (htype : w.taskType = none) (ht : w.catalog.type? id = some t) :
  (w.selectType m id).map Selection.wizard
    = .ok (settle m { w with category := some t.category, taskType := some t.id })
  := by
  have hkept : w.changesType id = false := by simp [changesType, hrecord, htype]
  rw [selectType, ht, id_of_type? ht]
  simp [htype, hkept, Except.map, settle, validate, isSaved]

/-- A selection of a task type touches the selection, the properties and how the fields are judged,
and nothing else. -/
theorem selectType_ok {m : Manager} {w v : Wizard} {id : String}
    (h : (w.selectType m id).map Selection.wizard = .ok v) :
  (∃ t, w.catalog.type? id = some t)
    ∧ ∃ category properties state problem,
      v = { w with category, taskType := some id, properties, state, problem }
  := by
  obtain ⟨s, hs, rfl⟩ := map_eq_ok_iff.mp h
  obtain ⟨t, ht, ⟨hsame, rfl⟩ | ⟨-, rfl⟩⟩ := selectType_eq_ok hs
  · refine ⟨⟨t, ht⟩, w.category, w.properties, w.state, w.problem, ?_⟩
    rw [← hsame]
  · exact ⟨⟨t, ht⟩, _, _, _, _, rfl⟩

theorem selectType_unknown {m : Manager} {w : Wizard} {id : String}
    (ht : w.catalog.type? id = none) :
  (w.selectType m id).map Selection.wizard = .error (.unknownTaskType id)
  := by
  rw [selectType, ht]
  rfl

end Wizard

namespace CommandLine

/-! ### New tasks -/

/-- The time limit that a number of seconds asks for: none at all asks for the one that is
offered. -/
def Desk.limitOf (d : Desk) (seconds : Nat) : Span :=
  if seconds = 0 then d.settings.defaultLimit else Span.ofSeconds seconds

theorem limitOf_eq (d : Desk) (seconds : Nat) :
  (if (Span.ofSeconds seconds).isZero then d.settings.defaultLimit else Span.ofSeconds seconds)
    = d.limitOf seconds
  := by
  simp [Desk.limitOf, Span.isZero, Span.ofSeconds]

/-- The wizard for a new task before its type is selected. -/
def Desk.sketch (d : Desk) (name description : String) (folder : Option String)
    (limit : Option Nat) : Wizard :=
  { d.prepare (Wizard.create d.catalog) with
    name, description
    folder := folder.filter fun n => n ≠ ""
    limit := limit.map d.limitOf }

/-- The wizard for a new task of a type, filled in but not judged. -/
def Desk.draft (d : Desk) (name : String) (t : TaskType) (description : String)
    (folder : Option String) (limit : Option Nat) : Wizard :=
  { d.sketch name description folder limit with
    category := some t.category
    taskType := some t.id }

/-- The part of creating a task that follows when the fields, its type apart, are filled in. -/
theorem run_selectType_sketch (name type description : String) (folder : Option String)
    (limit : Option Nat) (d : Desk) {v : Wizard}
    (hv : v = (d.sketch name description folder limit).settle d.manager) :
  (do
      let w ← selectType v type
      if w.canProceed then commit "created" w
      else throw (.saying ((w.problem.map Problem.message).getD "task wizard is not complete"))
      : Work String).run.run d
    = match d.catalog.type? type with
      | none => (.error (Failure.of (.wizard (.unknownTaskType type))), d)
      | some t =>
        let w := d.draft name t description folder limit
        match w.validate d.manager with
        | some p => (.error (.saying p.message), d)
        | none => (commit "created" (w.settle d.manager)).run.run d
  := by
  subst hv
  rw [run_bind, run_selectType]
  cases ht : d.catalog.type? type with
  | none =>
    rw [Wizard.selectType_unknown ht]
    rfl
  | some t =>
    have hdraft : Wizard.settle d.manager
        { (d.sketch name description folder limit).settle d.manager with
          category := some t.category, taskType := some t.id }
        = (d.draft name t description folder limit).settle d.manager := rfl
    rw [Wizard.selectType_first rfl rfl ht, hdraft]
    simp only [Except.mapError]
    rw [Wizard.canProceed_settle rfl]
    cases hproblem : (d.draft name t description folder limit).validate d.manager with
    | none => rfl
    | some p =>
      simp only [Wizard.settle, hproblem]
      rfl

theorem run_createTask (name type description : String) (folder : Option String)
    (limit : Option Nat) (d : Desk) :
  (createTask name type description folder limit).run.run d
    = match (ensureFolder folder).run.run d with
      | (.error f, d') => (.error f, d')
      | (.ok (), d') =>
        match d'.catalog.type? type with
        | none => (.error (Failure.of (.wizard (.unknownTaskType type))), d')
        | some t =>
          let w := d'.draft name t description folder limit
          match w.validate d'.manager with
          | some p => (.error (.saying p.message), d')
          | none => (commit "created" (w.settle d'.manager)).run.run d'
  := by
  rw [createTask, run_bind]
  obtain ⟨answer, d'⟩ := (ensureFolder folder).run.run d
  cases answer with
  | error f => rfl
  | ok u =>
    dsimp only
    rw [run_bind, run_get]
    -- The fields are judged after each of them is set, so in the end they are judged once.
    cases limit with
    | none => exact run_selectType_sketch name type description folder none d' rfl
    | some n =>
      apply run_selectType_sketch name type description folder (some n) d'
      rw [Desk.sketch, Option.map_some, ← limitOf_eq]
      rfl

/-! ### Tasks that are there -/

/-- The wizard with the fields that are given set, its type apart. -/
def filled (m : Manager) (w : Wizard) (description folder : Option String)
    (limit : Option (Option Nat)) : Wizard :=
  let w := match description with
    | none => w
    | some text => w.setDescription m text
  let w := match folder with
    | none => w
    | some name => w.setFolder m (some name)
  match limit with
  | none => w
  | some n => w.setLimit m (n.map Span.ofSeconds)

/-- The wizard for the changes of a task, filled in. -/
def Desk.revision (d : Desk) (r : Record) (type description folder : Option String)
    (limit : Option (Option Nat)) : Except WizardError Wizard := do
  let w ← Wizard.edit d.catalog r
  let w := d.prepare w
  let w ← match type with
    | none => pure w
    | some id => (w.selectType d.manager id).map Wizard.Selection.wizard
  pure (filled d.manager w description folder limit)

theorem run_editTask (name : String) (type description folder : Option String)
    (limit : Option (Option Nat)) (d : Desk) :
  (editTask name type description folder limit).run.run d
    = match (findTask name).run.run d with
      | (.error f, _) => (.error f, d)
      | (.ok r, _) =>
        match (ensureFolder folder).run.run d with
        | (.error f, d') => (.error f, d')
        | (.ok (), d') =>
          match d'.revision r type description folder limit with
          | .error e => (.error (Failure.of (.wizard e)), d')
          | .ok w => (commit "updated" w).run.run d'
  := by
  rw [editTask, run_bind, run_findTask]
  cases d.manager.tasks.taskNamed? name with
  | none => rfl
  | some r =>
    dsimp only
    rw [run_bind]
    obtain ⟨answer, d'⟩ := (ensureFolder folder).run.run d
    cases answer with
    | error f => rfl
    | ok u =>
      dsimp only
      rw [run_bind, run_get]
      dsimp only
      rw [run_bind, run_check, Desk.revision]
      cases Wizard.edit d'.catalog r with
      | error e => rfl
      | ok w =>
        dsimp only [Except.mapError]
        cases type with
        | none => rfl
        | some id =>
          dsimp only
          rw [run_bind, run_selectType]
          dsimp only [bind, Except.bind]
          cases (d'.prepare w).selectType d'.manager id <;> rfl

/-- A wizard holds the changes of a task: what is given, and otherwise what the task has. -/
structure Desk.Revised (d : Desk) (r : Record) (type description folder : Option String)
    (limit : Option (Option Nat)) (w : Wizard) : Prop where
  record : w.record = some r
  catalog : w.catalog = d.catalog
  taskType : w.taskType = some (type.getD r.taskType)
  name : w.name = r.name
  description : w.description = description.getD r.description
  folder : w.folder = folder.elim r.folder fun n => if n = "" then none else some n
  limit : w.taskLimit = limit.elim r.limit fun n => n.elim Span.zero d.limitOf

/-- Of the fields only those that are given are set. -/
theorem filled_eq (m : Manager) (w : Wizard) (description folder : Option String)
    (limit : Option (Option Nat)) :
  ∃ state problem, filled m w description folder limit
    = { w with
        description := description.getD w.description
        folder := folder.elim w.folder fun n => (some n).filter fun f => f ≠ ""
        limit := limit.elim w.limit fun n =>
          (n.map Span.ofSeconds).map fun l => if l.isZero then w.defaultLimit else l
        state, problem }
  := by
  cases description <;> cases folder <;> cases limit <;> exact ⟨_, _, rfl⟩

/-- Setting the fields that are given makes a wizard that holds what the task has, up to the type,
one that holds the changes. -/
theorem revised_filled {d : Desk} {r : Record} {type : Option String} {w : Wizard}
    (h : d.Revised r type none none none w) (hdefault : w.defaultLimit = d.settings.defaultLimit)
    (description folder : Option String) (limit : Option (Option Nat)) :
  d.Revised r type description folder limit (filled d.manager w description folder limit)
  := by
  obtain ⟨hrecord, hcatalog, htype, hname, hdescription, hfolder, hlimit⟩ := h
  obtain ⟨state, problem, hfilled⟩ := filled_eq d.manager w description folder limit
  rw [hfilled]
  refine ⟨hrecord, hcatalog, htype, hname, ?_, ?_, ?_⟩
  · simp [hdescription]
  · cases folder with
    | none => exact hfolder
    | some n => by_cases hn : n = "" <;> simp [hn]
  · cases limit with
    | none => exact hlimit
    | some n =>
      cases n with
      | none => rfl
      | some s =>
        simp only [Wizard.taskLimit, Option.elim_some, Option.map_some, Option.getD_some, hdefault]
        exact limitOf_eq d s

/-- A wizard that is filled in for a task holds its changes, and the types that were looked up for
it are known. -/
theorem revision_ok {d : Desk} {r : Record} {type description folder : Option String}
    {limit : Option (Option Nat)} {w : Wizard}
    (h : d.revision r type description folder limit = .ok w) :
  (∃ t, d.catalog.type? r.taskType = some t)
    ∧ (∀ id, type = some id → ∃ t, d.catalog.type? id = some t)
    ∧ d.Revised r type description folder limit w
  := by
  rw [Desk.revision] at h
  cases hedit : Wizard.edit d.catalog r with
  | error e => simp [hedit, bind, Except.bind] at h
  | ok v =>
    simp only [hedit, bind, Except.bind] at h
    obtain ⟨hrecord, -, hcatalog, t, ht, -⟩ := Wizard.edit_ok hedit
    obtain ⟨hlimit, hname, hdescription, hfolder, htype⟩ := Wizard.fields_edit hedit
    refine ⟨⟨t, ht⟩, ?_⟩
    cases type with
    | none =>
      obtain rfl := Except.ok.inj h
      refine ⟨nofun, ?_⟩
      apply revised_filled _ rfl
      exact ⟨hrecord, hcatalog, htype, hname, hdescription, hfolder, hlimit⟩
    | some id =>
      simp only at h
      cases hselect : ((d.prepare v).selectType d.manager id).map Wizard.Selection.wizard with
      | error e => simp [hselect] at h
      | ok u =>
        rw [hselect] at h
        obtain rfl := Except.ok.inj h
        obtain ⟨⟨t', ht'⟩, category, properties, state, problem, rfl⟩ :=
          Wizard.selectType_ok hselect
        refine ⟨?_, ?_⟩
        · rintro _ ⟨⟩
          exact ⟨t', by rwa [← hcatalog]⟩
        · apply revised_filled _ rfl
          exact ⟨hrecord, hcatalog, rfl, hname, hdescription, hfolder, hlimit⟩

theorem revision_of_known {d : Desk} {r : Record} {type : Option String}
    (description folder : Option String) (limit : Option (Option Nat)) {t : TaskType}
    (ht : d.catalog.type? r.taskType = some t)
    (htype : ∀ id, type = some id → ∃ t, d.catalog.type? id = some t) :
  ∃ w, d.revision r type description folder limit = .ok w
  := by
  obtain ⟨v, hedit, hcatalog⟩ : ∃ v, Wizard.edit d.catalog r = .ok v ∧ v.catalog = d.catalog := by
    rw [Wizard.edit, ht]
    exact ⟨_, rfl, rfl⟩
  rw [Desk.revision]
  simp only [hedit, bind, Except.bind]
  cases type with
  | none => exact ⟨_, rfl⟩
  | some id =>
    obtain ⟨t', ht'⟩ := htype id rfl
    have hknown : (d.prepare v).catalog.type? id = some t' := by rwa [← hcatalog] at ht'
    obtain ⟨s, hs⟩ : ∃ s, (d.prepare v).selectType d.manager id = .ok s := by
      rw [Wizard.selectType, hknown]
      simp only
      split <;> exact ⟨_, rfl⟩
    simp only [hs]
    exact ⟨_, rfl⟩

end CommandLine

end TaskDesk
