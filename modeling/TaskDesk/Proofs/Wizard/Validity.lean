import TaskDesk.Proofs.Wizard.Commit

/-!
# What a wizard finds good and what the manager accepts

A wizard compares its name with those of the tasks only as long as its record is not saved, while
the manager does so whenever a task gets another name.  So the fields of a wizard may be found good
although the manager refuses them: `isOk_commit_iff` says exactly when the commit of a wizard with
good fields succeeds, if the saves do.
-/

namespace TaskDesk

namespace Wizard

/-! ### The selected task type -/

/-- The selected task type, if there is one, is in the catalog. -/
def Offered (w : Wizard) : Prop :=
  ∀ id, w.taskType = some id → ∃ t, w.catalog.type? id = some t

theorem Offered.of_eq {w w' : Wizard} (h : w.Offered) (htype : w'.taskType = w.taskType)
    (hcatalog : w'.catalog = w.catalog) :
  w'.Offered
  := by
  rwa [Offered, htype, hcatalog]

theorem offered_create (catalog : Catalog) :
  (create catalog).Offered
  := by
  intro id hid
  cases hid

theorem id_of_type? {catalog : Catalog} {id : String} {t : TaskType}
    (h : catalog.type? id = some t) :
  t.id = id
  := by
  simpa using List.find?_some h

theorem taskType_of_taskType? {w : Wizard} {t : TaskType} (h : w.taskType? = some t) :
  w.taskType = some t.id
  := by
  obtain ⟨type, htype, ht⟩ := Option.bind_eq_some_iff.mp h
  rw [htype, id_of_type? ht]

theorem type?_of_taskType? {w : Wizard} {t : TaskType} (h : w.taskType? = some t) :
  w.catalog.type? t.id = some t
  := by
  obtain ⟨id, -, ht⟩ := Option.bind_eq_some_iff.mp h
  rwa [id_of_type? ht]

theorem offered_edit {catalog : Catalog} {r : Record} {w : Wizard}
    (h : edit catalog r = .ok w) :
  w.Offered
  := by
  obtain ⟨-, -, hcatalog, t, ht, htype⟩ := edit_ok h
  rw [Offered, hcatalog, htype]
  rintro _ ⟨⟩
  use t
  rwa [id_of_type? ht]

/-- The wizard for a task has the limit of the task, and its name, description and folder. -/
theorem fields_edit {catalog : Catalog} {r : Record} {w : Wizard}
    (h : edit catalog r = .ok w) :
  w.taskLimit = r.limit ∧ w.name = r.name ∧ w.description = r.description ∧ w.folder = r.folder
    ∧ w.taskType = some r.taskType
  := by
  rw [edit] at h
  split at h
  · cases h
  · next t ht =>
    obtain rfl := Except.ok.inj h
    refine ⟨?_, rfl, rfl, rfl, congrArg some (id_of_type? ht)⟩
    rw [taskLimit]
    simp only
    split
    · next hzero => exact (Span.isZero_iff.mp hzero).symm
    · rfl

theorem offered_selectCategory {m : Manager} {w : Wizard} (h : w.Offered) {id : String}
    {s : Selection} (hs : w.selectCategory m id = .ok s) :
  s.wizard.Offered
  := by
  obtain rfl | ⟨-, rfl⟩ := selectCategory_eq_ok hs
  · exact h
  · rintro _ ⟨⟩

theorem offered_selectType {m : Manager} {w : Wizard} (h : w.Offered) {id : String}
    {s : Selection} (hs : w.selectType m id = .ok s) :
  s.wizard.Offered
  := by
  obtain ⟨t, ht, ⟨-, rfl⟩ | ⟨-, rfl⟩⟩ := selectType_eq_ok hs
  · exact h
  · rintro _ ⟨⟩
    exact ⟨t, ht⟩

theorem offered_ofSelection {w : Wizard} (hw : w.Offered) {x : Except WizardError Selection}
    (h : ∀ {s}, x = .ok s → s.wizard.Offered) :
  (Effect.ofSelection w x).wizard.Offered
  := by
  cases x with
  | error e => exact hw
  | ok s => apply h rfl

/-- Whatever is done to a wizard, a selected task type is in the catalog. -/
theorem offered_operate (m : Manager) {w : Wizard} (h : w.Offered) (o : Operation) :
  (w.operate m o).Offered
  := by
  cases o with
  | act a =>
    cases a with
    | name text =>
      have heffect : w.operate m (.act (.name text)) = (w.setName m text).1 := rfl
      rw [heffect, setName]
      split <;> exact h.of_eq rfl rfl
    | category id => exact offered_ofSelection h (offered_selectCategory h)
    | type id => exact offered_ofSelection h (offered_selectType h)
    | _ => exact h.of_eq rfl rfl
  | _ => exact h.of_eq rfl rfl

theorem offered_finish {w : Wizard} (h : w.Offered) (t : TaskType) (r : Record) :
  (w.finish t r).1.Offered
  := by
  rw [finish]
  split <;> exact h.of_eq rfl rfl

/-! ### Good fields -/

theorem isSaved_eq (w : Wizard) :
  w.isSaved = w.taskId?.isSome
  := by
  cases hr : w.record with
  | none => simp [isSaved, taskId?, hr]
  | some r => by_cases hid : r.id = "" <;> simp [isSaved, taskId?, hr, Record.isSaved, hid]

/-- Nothing is wrong with the fields exactly if there are a name and a task type, and no task has
the name unless the record is saved. -/
theorem validate_eq_none {m : Manager} {w : Wizard} :
  w.validate m = none
    ↔ w.name ≠ "" ∧ (w.taskId? = none → m.tasks.isTaken w.name none = false)
      ∧ ∃ id, w.taskType = some id
  := by
  rw [validate]
  rw [isSaved_eq, Tasks.isSome_taskNamed?]
  by_cases hname : w.name = ""
  · simp [hname]
  · cases m.tasks.isTaken w.name none with
    | false => cases w.taskType <;> simp [hname]
    | true => cases w.taskId? <;> cases w.taskType <;> simp [hname]

/-- A wizard with good fields has a task type for which they were judged. -/
theorem begin_of_validate {m : Manager} {w : Wizard} (hoffered : w.Offered)
    (hvalid : w.validate m = none) :
  ∃ t, w.begin m = (w.settle m, .ok t)
  := by
  obtain ⟨-, -, id, hid⟩ := validate_eq_none.mp hvalid
  obtain ⟨t, ht⟩ := hoffered id hid
  have htype : w.taskType? = some t := by
    rw [taskType?, hid]
    exact ht
  use t
  rw [← fst_begin, ← begin_eq_ok.mpr ⟨hvalid, htype⟩]

/-! ### Writing and moving what was found good -/

section Accepted

variable {w : Wizard} {t : TaskType} {m : Manager} {dir : TaskDir} {now : Timestamp} {id : String}

/-- The manager accepts what the wizard holds: a task of its own is there, is given no name that
another task has, and is found again when it is to be moved. -/
def Accepted (w : Wizard) (s : Tasks) : Prop :=
  ∀ id, w.taskId? = some id → ∃ r, s.task? id = some r
    ∧ (w.name = r.name ∨ s.isTaken w.name (some id) = false)
    ∧ (r.folder = w.folder ∨ ∃ q, s.task? r.id = some q)

/-- A wizard with a name writes a new task, if the name is free. -/
theorem writing_new {s : Tasks} (hid : w.taskId? = none) (hname : w.name ≠ "")
    (hfree : s.isTaken w.name none = false) (project : String) :
  ∃ c, w.writing t project now id s = .ok c
  := by
  rw [writing, hid]
  exact ⟨_, Tasks.createTask_eq_ok.mpr ⟨hname, hfree, rfl⟩⟩

/-- A wizard with a name writes its task, if the task is there and gets no name of another. -/
theorem writing_saved {s : Tasks} {saved : String} (hid : w.taskId? = some saved)
    (hname : w.name ≠ "") {project : String} {c : Change Record} :
  w.writing t project now id s = .ok c
    ↔ ∃ r, s.task? saved = some r ∧ (w.name = r.name ∨ s.isTaken w.name (some saved) = false)
      ∧ c = ⟨s.store saved (Tasks.revised now (w.revise t now) r),
          Tasks.revised now (w.revise t now) r, []⟩
  := by
  rw [writing, hid]
  simp only [Tasks.updateTask_eq_ok]
  obtain ⟨tasks, value, events⟩ := c
  constructor
  · rintro ⟨r, hr, hvalue, -, hfree, htasks, hevents⟩
    simp only at hvalue hfree htasks hevents
    subst hvalue htasks hevents
    rw [Tasks.name_revised, name_revise] at hfree
    exact ⟨r, hr, hfree, rfl⟩
  · rintro ⟨r, hr, hfree, ⟨⟩⟩
    refine ⟨r, hr, rfl, ?_, ?_, rfl, rfl⟩
    · rwa [Tasks.name_revised, name_revise]
    · rwa [Tasks.name_revised, name_revise]

/-- If it is saved, a task is moved exactly if it is there. -/
theorem isOk_move_iff {record : Record} :
  (∃ session, (w.move t record m dir .saved now).answer = .ok session)
    ↔ ∃ q, m.tasks.task? record.id = some q
  := by
  rw [move_eq]
  simp only
  rw [relocate]
  cases hq : m.tasks.task? record.id with
  | none =>
    have hrefused : m.tasks.moveTask now record.id w.folder = .error (.notFound record.id) := by
      rw [Tasks.moveTask, hq]
    rw [Manager.mutate_of_refused hrefused]
    simp
  | some q =>
    obtain ⟨c, hc⟩ : ∃ c, m.tasks.moveTask now record.id w.folder = .ok c :=
      Tasks.exists_moveTask hq
    obtain ⟨p, hthere⟩ : ∃ p, c.tasks.task? record.id = some p := Tasks.exists_task?_moveTask hc
    rw [Manager.mutate_saved hc]
    cases c.value with
    | false => simp
    | true => simp [reread, hthere]

/-- A commit of a wizard with good fields and no saved record succeeds, if its save does. -/
theorem isOk_commit_new {second : SaveOutcome} (hoffered : w.Offered)
    (hvalid : w.validate m = none) (hid : w.taskId? = none) :
  ∃ session, (w.commit m dir .saved second now id).answer = .ok session
  := by
  obtain ⟨t, ht⟩ := begin_of_validate hoffered hvalid
  obtain ⟨hname, hfree, -⟩ := validate_eq_none.mp hvalid
  have hsettled : (w.settle m).taskId? = none := hid
  obtain ⟨c, hc⟩ : ∃ c, (w.settle m).writing t m.project now id m.tasks = .ok c :=
    writing_new hsettled hname (hfree hid) m.project
  rw [commit, ht]
  simp only
  rw [write_eq, Manager.mutate_saved hc]
  simp [hsettled]

/-- A saved record that is accepted is written; it is still to be moved, if it is not in the folder
of the wizard. -/
theorem write_saved (t : TaskType) (dir : TaskDir) (now : Timestamp) (id : String)
    {saved : String} {r : Record} (hid : w.taskId? = some saved) (hname : w.name ≠ "")
    (hr : m.tasks.task? saved = some r)
    (hfree : w.name = r.name ∨ m.tasks.isTaken w.name (some saved) = false) :
  let written := Tasks.revised now (w.revise t now) r
  (w.write t m dir .saved now id).manager.tasks = m.tasks.store saved written
    ∧ (w.write t m dir .saved now id).answer
      = (if r.folder = w.folder then .done (.ok (w.finish t written).2) else .move written)
  := by
  intro written
  have hwriting : w.writing t m.project now id m.tasks
      = .ok ⟨m.tasks.store saved written, written, []⟩ :=
    (writing_saved hid hname).mpr ⟨r, hr, hfree, rfl⟩
  have hfolder : written.folder = r.folder := Tasks.folder_revised now (w.revise t now) r
  rw [write_eq, Manager.mutate_saved hwriting]
  simp only [hid, reduceCtorEq, false_or, hfolder]
  split <;> exact ⟨rfl, rfl⟩

/-- A saved record that is not there, or is to get a name of another, is not written. -/
theorem write_refused {saved : String} (hid : w.taskId? = some saved) (hname : w.name ≠ "")
    (h : ¬∃ r, m.tasks.task? saved = some r
      ∧ (w.name = r.name ∨ m.tasks.isTaken w.name (some saved) = false)) :
  ∃ e, (w.write t m dir .saved now id).answer = .done (.error (.manager (.task e)))
  := by
  cases hwriting : w.writing t m.project now id m.tasks with
  | error e =>
    use e
    rw [write_eq, Manager.mutate_of_refused hwriting]
  | ok c =>
    obtain ⟨r, hr, hfree, -⟩ := (writing_saved hid hname).mp hwriting
    exact absurd ⟨r, hr, hfree⟩ h

/-- A record that was changed is found again, under the id that it has, if it was there before. -/
theorem exists_task?_revised {s : Tasks} {saved : String} {r : Record}
    (hr : s.task? saved = some r) {f : Record → Record} (hf : ∀ r, (f r).id = r.id) :
  (∃ q, (s.store saved (Tasks.revised now f r)).task? (Tasks.revised now f r).id = some q)
    ↔ ∃ q, s.task? r.id = some q
  := by
  rw [Tasks.id_revised now hf, Tasks.task?_store]
  split
  · next hsame => simp [hsame, hr]
  · rfl

/-- If its saves do, a commit of a wizard with good fields and a saved record succeeds exactly if
the record is accepted. -/
theorem isOk_commit_saved {saved : String} (hoffered : w.Offered) (hvalid : w.validate m = none)
    (hid : w.taskId? = some saved) :
  (∃ session, (w.commit m dir .saved .saved now id).answer = .ok session)
    ↔ ∃ r, m.tasks.task? saved = some r
      ∧ (w.name = r.name ∨ m.tasks.isTaken w.name (some saved) = false)
      ∧ (r.folder = w.folder ∨ ∃ q, m.tasks.task? r.id = some q)
  := by
  obtain ⟨t, ht⟩ := begin_of_validate hoffered hvalid
  obtain ⟨hname, -, -⟩ := validate_eq_none.mp hvalid
  have hsettled : (w.settle m).taskId? = some saved := hid
  rw [commit, ht]
  simp only
  by_cases hwritten : ∃ r, m.tasks.task? saved = some r
      ∧ (w.name = r.name ∨ m.tasks.isTaken w.name (some saved) = false)
  · obtain ⟨r, hr, hfree⟩ := hwritten
    obtain ⟨htasks, hanswer⟩ := write_saved t dir now id hsettled hname hr hfree
    have hsame : (w.settle m).folder = w.folder := rfl
    rw [hsame] at hanswer
    by_cases hfolder : r.folder = w.folder
    · rw [hanswer, if_pos hfolder]
      simp [hr, hfree, hfolder]
    · rw [hanswer, if_neg hfolder]
      simp only
      rw [isOk_move_iff, htasks, exists_task?_revised hr (id_revise _ t now)]
      simp [hr, hfree, hfolder]
  · obtain ⟨e, he⟩ : ∃ e, ((w.settle m).write t m dir .saved now id).answer
        = .done (.error (.manager (.task e))) := write_refused hsettled hname hwritten
    rw [he]
    simp only [reduceCtorEq, exists_false, false_iff]
    rintro ⟨r, hr, hfree, -⟩
    exact hwritten ⟨r, hr, hfree⟩

/-- If its saves do, a commit of a wizard with good fields succeeds exactly if the manager accepts
what the wizard holds. -/
theorem isOk_commit_iff (hoffered : w.Offered) (hvalid : w.validate m = none) :
  (∃ session, (w.commit m dir .saved .saved now id).answer = .ok session) ↔ w.Accepted m.tasks
  := by
  cases hid : w.taskId? with
  | none =>
    constructor
    · intro _ saved hsaved
      simp [hid] at hsaved
    · intro _
      apply isOk_commit_new hoffered hvalid hid
  | some saved =>
    rw [isOk_commit_saved hoffered hvalid hid, Accepted, hid]
    simp only [Option.some.injEq, forall_eq']

/-! ### Names of other tasks -/

/-- The task of the wizard is to get a name that another task has. -/
def Clashes (w : Wizard) (s : Tasks) : Prop :=
  ∃ id r, w.taskId? = some id ∧ s.task? id = some r ∧ r.name ≠ w.name ∧ w.Contested s

theorem isTaken_iff_contested {s : Tasks} (hs : s.Indexed) {saved : String}
    (hid : w.taskId? = some saved) :
  s.isTaken w.name (some saved) = true ↔ w.Contested s
  := by
  rw [Tasks.isTaken_iff hs.ids_nodup, Contested, hid]
  constructor
  · rintro ⟨i, r, hr, hname, hother⟩
    rw [hs.id_eq hr] at hother
    exact ⟨i, r, hr, hname, hother.symm⟩
  · rintro ⟨i, r, hr, hname, hother⟩
    refine ⟨i, r, hr, hname, ?_⟩
    rw [hs.id_eq hr]
    exact hother.symm

/-- Where the records have their own ids, the manager accepts whatever a wizard of theirs holds but
a name that another task has. -/
theorem accepted_iff_not_clashes {s : Tasks} (hs : s.Indexed)
    (hown : ∀ id, w.taskId? = some id → ∃ r, s.task? id = some r) :
  w.Accepted s ↔ ¬w.Clashes s
  := by
  constructor
  · rintro haccepted ⟨saved, r, hid, hr, hname, hcontested⟩
    obtain ⟨q, hq, hfree, -⟩ := haccepted saved hid
    obtain rfl := Option.some.inj (hr.symm.trans hq)
    obtain hsame | hfree := hfree
    · exact hname hsame.symm
    · rw [(isTaken_iff_contested hs hid).mpr hcontested] at hfree
      cases hfree
  · intro hclashes saved hid
    obtain ⟨r, hr⟩ := hown saved hid
    refine ⟨r, hr, ?_, .inr ⟨r, by rwa [hs.id_eq hr]⟩⟩
    by_contra hrefused
    rw [not_or, Bool.not_eq_false, isTaken_iff_contested hs hid] at hrefused
    exact hclashes ⟨saved, r, hid, hr, Ne.symm hrefused.1, hrefused.2⟩

/-- A commit that gives a task the name of another is refused by the manager for that name and
changes nothing, though the fields of the wizard were found good. -/
theorem commit_of_clashes {first second : SaveOutcome} (hs : m.tasks.Indexed)
    (hoffered : w.Offered) (hvalid : w.validate m = none) (h : w.Clashes m.tasks) :
  w.commit m dir first second now id
    = ⟨w.settle m, m, dir, .error (.manager (.task (.duplicateName w.name m.project))), []⟩
  := by
  obtain ⟨saved, r, hid, hr, hname, hcontested⟩ := h
  obtain ⟨t, ht⟩ := begin_of_validate hoffered hvalid
  obtain ⟨hne, -, -⟩ := validate_eq_none.mp hvalid
  have hsettled : (w.settle m).taskId? = some saved := hid
  have hwritten : (Tasks.revised now ((w.settle m).revise t now) r).name = w.name := by
    rw [Tasks.name_revised, name_revise]
    rfl
  have hwriting : (w.settle m).writing t m.project now id m.tasks
      = .error (.duplicateName w.name m.project) := by
    rw [writing, hsettled]
    simp only
    rw [Tasks.updateTask, hr]
    simp only [← Tasks.revised.eq_1, hwritten]
    rw [if_neg hne, if_pos ⟨Ne.symm hname, (isTaken_iff_contested hs hid).mpr hcontested⟩]
  rw [commit, ht]
  simp only
  rw [write_eq, Manager.mutate_of_refused hwriting]

end Accepted

end Wizard

end TaskDesk
