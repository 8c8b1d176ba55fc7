import TaskDesk.Wizard.Commit
import TaskDesk.Proofs.Manager.Mutation
import TaskDesk.Proofs.Tasks.Integrity
import TaskDesk.Proofs.Wizard.Operation

/-!
# The steps of a commit

Writing makes a task under the given id, if the wizard has no saved record, and otherwise changes
the record of the wizard: `writing` is that change of the tasks, and `write_eq` says what the step
comes to.  The last step of a commit moves the task, `relocate`, and reads it again, `reread`;
between the two others may change it.  While another task has the name of the wizard, writing
changes nothing, `write_contested`.
-/

namespace TaskDesk

namespace Wizard

theorem taskId?_eq_some {w : Wizard} {id : String} :
  w.taskId? = some id ↔ ∃ r, w.record = some r ∧ r.id = id ∧ id ≠ ""
  := by
  simp only [taskId?, Option.filter_eq_some_iff, Option.map_eq_some_iff, decide_eq_true_eq]
  constructor
  · rintro ⟨⟨r, hr, rfl⟩, hid⟩
    exact ⟨r, hr, rfl, hid⟩
  · rintro ⟨r, hr, rfl, hid⟩
    exact ⟨⟨r, hr, rfl⟩, hid⟩

/-! ### Judging -/

theorem fst_begin (m : Manager) (w : Wizard) :
  (w.begin m).1 = w.settle m
  := by
  unfold begin
  simp only
  split <;> rfl

/-- The fields are found good exactly if nothing is wrong with them and a type is selected. -/
theorem begin_eq_ok {m : Manager} {w : Wizard} {t : TaskType} :
  (w.begin m).2 = .ok t ↔ w.validate m = none ∧ w.taskType? = some t
  := by
  have htype : (w.settle m).taskType? = w.taskType? := rfl
  have hproblem : (w.settle m).problem = w.validate m := rfl
  rw [begin]
  simp only [htype, hproblem]
  cases w.validate m with
  | some p => simp
  | none => cases w.taskType? <;> simp

theorem sameTask_settle (m : Manager) (w : Wizard) :
  w.SameTask (w.settle m)
  := ⟨rfl, rfl, rfl, rfl⟩

theorem sameTask_begin (m : Manager) (w : Wizard) :
  w.SameTask (w.begin m).1
  := by
  rw [fst_begin]
  apply sameTask_settle

/-! ### Finishing -/

@[simp]
theorem record_finish (w : Wizard) (t : TaskType) (r : Record) :
  (w.finish t r).1.record = some r
  := by
  rw [finish]
  split <;> rfl

/-- A wizard whose sessions all belong to one task keeps them so, if that task is committed, and
hands out a session of that task. -/
theorem sessions_finish {w : Wizard} {t : TaskType} {r : Record}
    (h : ∀ e ∈ w.sessions, e.2.taskId = r.id) :
  (∀ e ∈ (w.finish t r).1.sessions, e.2.taskId = r.id) ∧ (w.finish t r).2.taskId = r.id
  := by
  rw [finish]
  split
  · next s hs => exact ⟨h, h _ (Keyed.mem_of_find? hs)⟩
  · refine ⟨?_, rfl⟩
    intro e he
    obtain rfl | he := Keyed.mem_put he
    · rfl
    · exact h e he

/-! ### Writing -/

section Write

variable {w : Wizard} {t : TaskType} {m : Manager} {dir : TaskDir} {outcome : SaveOutcome}
  {now : Timestamp} {id : String}

/-- The change that a wizard makes in order to write its task. -/
def writing (w : Wizard) (t : TaskType) (project : String) (now : Timestamp) (id : String)
    (s : Tasks) : Except TaskError (Change Record) :=
  match w.taskId? with
  | none => s.createTask project now id (w.newTask t)
  | some saved => s.updateTask project now saved (w.revise t now)

/-- A task that was made is finished, a task that was changed is moved, if it is not in the
folder of the wizard, and finished otherwise. -/
theorem write_eq :
  w.write t m dir outcome now id
    = let r := m.mutate dir outcome (w.writing t m.project now id)
      match r.answer with
      | .error e => ⟨w, r.manager, r.dir, .done (.error (.manager e)), r.events⟩
      | .ok record =>
        if w.taskId? = none ∨ record.folder = w.folder then
          ⟨(w.finish t record).1, r.manager, r.dir, .done (.ok (w.finish t record).2), r.events⟩
        else ⟨w, r.manager, r.dir, .move record, r.events⟩
  := by
  cases hid : w.taskId? with
  | none =>
    have hwriting : w.writing t m.project now id
        = Tasks.createTask m.project now id (w.newTask t) := by
      funext s
      rw [writing, hid]
    rw [write, hid, hwriting]
    obtain ⟨manager, dir, answer, events⟩ :=
      m.mutate dir outcome (Tasks.createTask m.project now id (w.newTask t))
    cases answer with
    | error e => rfl
    | ok record => exact (if_pos (.inl rfl)).symm
  | some saved =>
    have hwriting : w.writing t m.project now id
        = Tasks.updateTask m.project now saved (w.revise t now) := by
      funext s
      rw [writing, hid]
    rw [write, hid, hwriting]
    dsimp only
    obtain ⟨manager, dir, answer, events⟩ :=
      m.mutate dir outcome (Tasks.updateTask m.project now saved (w.revise t now))
    cases answer with
    | error e => rfl
    | ok record =>
      by_cases hfolder : record.folder = w.folder
      · exact (if_pos hfolder).trans (if_pos (.inr hfolder)).symm
      · have hmoves : ¬(some saved = none ∨ record.folder = w.folder) := by simp [hfolder]
        exact (if_neg hfolder).trans (if_neg hmoves).symm

theorem manager_write :
  (w.write t m dir outcome now id).manager
    = (m.mutate dir outcome (w.writing t m.project now id)).manager
  := by
  rw [write_eq]
  simp only
  split
  · rfl
  · split <;> rfl

theorem dir_write :
  (w.write t m dir outcome now id).dir
    = (m.mutate dir outcome (w.writing t m.project now id)).dir
  := by
  rw [write_eq]
  simp only
  split
  · rfl
  · split <;> rfl

/-- The record that a saved task gets in place of `r`; properties of another type are dropped. -/
def amended (w : Wizard) (now : Timestamp) (type : String) (folder : Option String) (r : Record) :
    Record :=
  { r with
    name := w.name
    description := w.description
    taskType := type
    folder
    limit := w.limit.getD Span.zero
    properties := if r.taskType = type then r.properties else Properties.empty
    updatedAt := now }

theorem revise_eq (w : Wizard) (t : TaskType) (now : Timestamp) (r : Record) :
  w.revise t now r = w.amended now t.id r.folder r
  := by
  by_cases h : t.id = r.taskType
  · simp [revise, Record.setName, Record.setDescription, Record.setTaskType, Record.setLimit,
      amended, taskLimit, h]
  · have h' : r.taskType ≠ t.id := Ne.symm h
    simp [revise, Record.setName, Record.setDescription, Record.setTaskType, Record.setLimit,
      amended, taskLimit, h, h']

theorem revised_revise (w : Wizard) (t : TaskType) (now : Timestamp) (r : Record) :
  Tasks.revised now (w.revise t now) r = w.amended now t.id r.folder r
  := by
  have hfolder : (w.revise t now r).folder = r.folder := by rw [revise_eq, amended]
  rw [Tasks.revised, if_pos hfolder, revise_eq]

theorem id_revise (w : Wizard) (t : TaskType) (now : Timestamp) (r : Record) :
  (w.revise t now r).id = r.id
  := by
  rw [revise_eq, amended]

theorem name_revise (w : Wizard) (t : TaskType) (now : Timestamp) (r : Record) :
  (w.revise t now r).name = w.name
  := by
  rw [revise_eq, amended]

/-- A saved task is changed where it is, and nobody is told. -/
theorem writing_eq_store {s : Tasks} {saved : String} (hsaved : w.taskId? = some saved)
    {project : String} {c : Change Record} (h : w.writing t project now id s = .ok c) :
  ∃ r, s.task? saved = some r
    ∧ c = ⟨s.store saved (w.amended now t.id r.folder r), w.amended now t.id r.folder r, []⟩
  := by
  rw [writing, hsaved] at h
  obtain ⟨r, hr, hvalue, -, -, htasks, hevents⟩ := Tasks.updateTask_eq_ok.mp h
  rw [revised_revise] at hvalue
  rw [hvalue] at htasks
  obtain ⟨tasks, value, events⟩ := c
  exact ⟨r, hr, by simp_all⟩

/-- What is written is put under the given id, if the wizard has no saved record, and otherwise
under the id of the record, which is there. -/
theorem records_writing {s : Tasks} (hs : s.Indexed) {project : String} {c : Change Record}
    (h : w.writing t project now id s = .ok c) :
  c.tasks.records = Keyed.put c.value.id c.value s.records
    ∧ ((w.taskId? = none ∧ c.value.id = id)
      ∨ (w.taskId? = some c.value.id ∧ c.value.id ∈ Keyed.keys s.records))
  := by
  rw [writing] at h
  split at h
  · next hid =>
    obtain ⟨hrecords, hvalue⟩ := Tasks.records_createTask h
    rw [hvalue]
    exact ⟨hrecords, .inl ⟨hid, rfl⟩⟩
  · next saved hid =>
    obtain ⟨hrecords, hmem⟩ := Tasks.records_updateTask h
    have hvalue : c.value.id = saved := by
      obtain ⟨r, hr, hvalue, -⟩ := Tasks.updateTask_eq_ok.mp h
      rw [hvalue, Tasks.id_revised now (id_revise w t now), hs.id_eq hr]
    rw [hvalue]
    exact ⟨hrecords, .inr ⟨hid, hmem⟩⟩

/-- What a wizard writes is found under the id that it has. -/
theorem task?_writing {s : Tasks} (hs : s.Indexed) {project : String} {c : Change Record}
    (h : w.writing t project now id s = .ok c) :
  c.tasks.task? c.value.id = some c.value
  := by
  rw [Tasks.task?, (records_writing hs h).1, Keyed.find?_put, if_pos rfl]

theorem taskType_writing {s : Tasks} {project : String} {c : Change Record}
    (h : w.writing t project now id s = .ok c) :
  c.value.taskType = t.id
  := by
  rw [writing] at h
  split at h
  · obtain ⟨-, -, rfl⟩ := Tasks.createTask_eq_ok.mp h
    rfl
  · obtain ⟨r, -, hvalue, -⟩ := Tasks.updateTask_eq_ok.mp h
    rw [hvalue, revised_revise, amended]

theorem indexed_writing {s : Tasks} (hs : s.Indexed) {project : String} {c : Change Record}
    (h : w.writing t project now id s = .ok c) :
  c.tasks.Indexed
  := by
  rw [writing] at h
  split at h
  · apply hs.of_createTask h
  · apply hs.of_updateTask (id_revise w t now) h

theorem sound_writing {s : Tasks} (hs : s.Sound) (hid : id ≠ "") (hfresh : s.task? id = none)
    {project : String} {c : Change Record} (h : w.writing t project now id s = .ok c) :
  c.tasks.Sound
  := by
  rw [writing] at h
  split at h
  · apply hs.of_createTask hid hfresh h
  · apply hs.of_updateTask (id_revise w t now) h

/-- A task other than that of the wizard has the name of the wizard. -/
def Contested (w : Wizard) (s : Tasks) : Prop :=
  ∃ i r, s.task? i = some r ∧ r.name = w.name ∧ w.taskId? ≠ some i

/-- Writing is refused while another task has the name. -/
theorem writing_contested {s : Tasks} (hs : s.Sound) (h : w.Contested s) (project : String) :
  ∃ e, w.writing t project now id s = .error e
  := by
  obtain ⟨i, r, hr, hname, hother⟩ := h
  cases hc : w.writing t project now id s with
  | error e => exact ⟨e, rfl⟩
  | ok c =>
    exfalso
    rw [writing] at hc
    split at hc
    · obtain ⟨-, hfree, -⟩ := Tasks.createTask_eq_ok.mp hc
      have htaken : s.isTaken w.name none = true :=
        (Tasks.isTaken_iff hs.ids_nodup).mpr ⟨i, r, hr, hname, by simp⟩
      simp [newTask, htaken] at hfree
    · next saved hsaved =>
      obtain ⟨current, hcurrent, hvalue, -, hfree, -⟩ := Tasks.updateTask_eq_ok.mp hc
      have hi : saved ≠ i := by
        rintro rfl
        exact hother hsaved
      have hrevised : c.value.name = w.name := by
        rw [hvalue, Tasks.name_revised, name_revise]
      rw [hrevised] at hfree
      obtain hsame | hfree := hfree
      · apply hi
        apply hs.name_injective hcurrent hr
        rw [← hsame, hname]
      · apply hi
        exact (hs.eq_of_not_isTaken hfree hr hname).symm

/-- While another task has the name, writing leaves the tasks and the task file alone and ends
the commit. -/
theorem write_contested (hs : m.tasks.Sound) (h : w.Contested m.tasks) :
  ∃ e, w.write t m dir outcome now id = ⟨w, m, dir, .done (.error (.manager (.task e))), []⟩
  := by
  obtain ⟨e, he⟩ : ∃ e, w.writing t m.project now id m.tasks = .error e :=
    writing_contested hs h m.project
  use e
  rw [write_eq, Manager.mutate_of_refused he]

end Write

/-! ### Moving -/

/-- Moves the task that was written into the folder of the wizard; answers whether the folder
changed. -/
def relocate (w : Wizard) (record : Record) (m : Manager) (dir : TaskDir) (outcome : SaveOutcome)
    (now : Timestamp) : Manager.Reply Bool :=
  m.mutate dir outcome (Tasks.moveTask now record.id w.folder)

/-- Reads the task that was moved and finishes with it. -/
def reread (w : Wizard) (t : TaskType) (record : Record) (m : Manager) :
    Wizard × Except WizardError Session :=
  match m.tasks.task? record.id with
  | none => (w, .error (.manager (.task (.notFound record.id))))
  | some r => ((w.finish t r).1, .ok (w.finish t r).2)

/-- The last step of a commit moves the task and reads it again, if it was moved. -/
theorem move_eq (w : Wizard) (t : TaskType) (record : Record) (m : Manager) (dir : TaskDir)
    (outcome : SaveOutcome) (now : Timestamp) :
  w.move t record m dir outcome now
    = let r := w.relocate record m dir outcome now
      match r.answer with
      | .error e => ⟨w, r.manager, r.dir, .error (.manager e), r.events⟩
      | .ok false =>
        ⟨(w.finish t record).1, r.manager, r.dir, .ok (w.finish t record).2, r.events⟩
      | .ok true =>
        ⟨(w.reread t record r.manager).1, r.manager, r.dir, (w.reread t record r.manager).2,
          r.events⟩
  := by
  unfold move relocate reread
  simp only
  cases (m.mutate dir outcome (Tasks.moveTask now record.id w.folder)).answer with
  | error e => rfl
  | ok moved =>
    cases moved with
    | false => rfl
    | true =>
      simp only [if_true]
      generalize (m.mutate dir outcome (Tasks.moveTask now record.id w.folder)).manager = after
      cases after.tasks.task? record.id <;> rfl

end Wizard

end TaskDesk
