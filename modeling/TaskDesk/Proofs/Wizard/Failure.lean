import TaskDesk.Proofs.Manager.Runs
import TaskDesk.Proofs.Wizard.Conclusion
import TaskDesk.Proofs.Wizard.Validity

/-!
# Commits that fail

A commit that fails tells nobody, and it leaves the tasks and the task file as they were unless it
is `Interrupted`: a saved task was changed where it is, and that was saved, but the task could not
be moved into the folder of the wizard.  Then exactly that task has what the wizard holds, in the
folder where it was: `commit_error`.  The change is not taken back, `error_after_change`; only a
commit whose saves have one outcome is done as a whole or not at all, `commit_of_error`.
-/

namespace TaskDesk

namespace Wizard

/-- A commit failed after the saved task `r` was changed where it is: it could not be saved that the
task was moved, or the task is not there under the id that its record has. -/
structure Interrupted (w : Wizard) (m : Manager) (dir : TaskDir) (first second : SaveOutcome)
    (now : Timestamp) (reply : StepReply (Except WizardError Session)) (saved type : String)
    (r : Record) : Prop where
  taskId : w.taskId? = some saved
  taskType : w.taskType = some type
  found : m.tasks.task? saved = some r
  misplaced : r.folder ≠ w.folder
  written : m.isBacked = true → first = .saved
  unmoved : (m.isBacked = true ∧ second ≠ .saved
      ∧ ∃ e, reply.answer = .error (.manager (.storage e)))
    ∨ (m.tasks.task? r.id = none ∧ reply.answer = .error (.manager (.task (.notFound r.id))))
  manager : reply.manager
    = { m with tasks := m.tasks.store saved (w.amended now type r.folder r) }
  file : reply.dir.file
    = (if m.isBacked then Manager.savedDir reply.manager.tasks else dir).file

variable {w : Wizard} {t : TaskType} {m : Manager} {dir : TaskDir} {first second : SaveOutcome}
  {now : Timestamp} {id : String}

theorem moveTask_eq_error {s : Tasks} {i : String} {name : Option String} {e : TaskError}
    (h : s.moveTask now i name = .error e) :
  s.task? i = none ∧ e = .notFound i
  := by
  cases hr : s.task? i with
  | none =>
    rw [Tasks.moveTask, hr] at h
    exact ⟨rfl, (Except.error.inj h).symm⟩
  | some r =>
    obtain ⟨c, hc⟩ : ∃ c, s.moveTask now i name = .ok c := Tasks.exists_moveTask hr
    rw [hc] at h
    cases h

/-- A commit that fails leaves the wizard with its fields judged and tells nobody; it comes to
nothing, or it was interrupted. -/
theorem Conclusion.of_error {reply : StepReply (Except WizardError Session)}
    (h : w.Conclusion m dir first second now id reply) {e : WizardError}
    (herror : reply.answer = .error e) :
  reply.wizard = w.settle m ∧ reply.events = []
    ∧ ((reply.manager = m ∧ reply.dir.file = dir.file)
      ∨ ∃ saved type r, w.Interrupted m dir first second now reply saved type r)
  := by
  refine ⟨h.wizard_of_error herror, ?_⟩
  cases h with
  | written | moved => cases herror
  | judged | refused => exact ⟨rfl, .inl ⟨rfl, rfl⟩⟩
  | unsaved _ _ _ _ hfile => exact ⟨rfl, .inl ⟨rfl, hfile⟩⟩
  | @missing t c saved e hbegin hc hfirst hsaved hplace hmissing =>
    have htype := taskType_of_taskType? (begin_eq_ok.mp hbegin).2
    obtain ⟨r, hr, rfl⟩ := writing_eq_store hsaved hc
    obtain ⟨hnone, rfl⟩ := moveTask_eq_error hmissing
    have hother : r.id ≠ saved := by
      rintro rfl
      simp [amended] at hnone
    have hthere : m.tasks.task? r.id = none := by
      rw [Tasks.task?_store] at hnone
      exact (if_neg hother).symm.trans hnone
    exact ⟨rfl, .inr ⟨saved, t.id, r, hsaved, htype, hr, hplace, hfirst, .inr ⟨hthere, rfl⟩, rfl,
      rfl⟩⟩
  | @unmoved t c saved _ d e hbegin hc hm hfirst hsaved hplace _ hsecond hfile =>
    have htype := taskType_of_taskType? (begin_eq_ok.mp hbegin).2
    obtain ⟨r, hr, rfl⟩ := writing_eq_store hsaved hc
    refine ⟨rfl, .inr ⟨saved, t.id, r, hsaved, htype, hr, hplace, fun _ => hfirst,
      .inl ⟨hm, hsecond, e, rfl⟩, rfl, ?_⟩⟩
    rw [if_pos hm]
    exact hfile

/-- Whatever becomes of its saves, a commit that fails tells nobody.  The tasks, the folders and the
task file are as they were, or a saved task that is not in the folder of the wizard was changed
where it is and could not be moved. -/
theorem commit_error (w : Wizard) (m : Manager) (dir : TaskDir) (first second : SaveOutcome)
    (now : Timestamp) (id : String) {e : WizardError}
    (h : (w.commit m dir first second now id).answer = .error e) :
  let reply := w.commit m dir first second now id
  reply.events = []
    ∧ ((reply.manager = m ∧ reply.dir.file = dir.file)
      ∨ ∃ saved type r, w.Interrupted m dir first second now reply saved type r)
  := ((w.conclusion_commit m dir first second now id).of_error h).2

/-- A wizard gives a task a description and a folder, and only its second save fails. -/
theorem commit_error_instance :
  let day : Timestamp := ⟨2024, 2, 29, 23, 59, 60, 1⟩
  let backup : Record := { Record.new day "Backup" "shell" with id := "t1" }
  let m : Manager := ⟨"General", ⟨[("t1", backup)], [("Nightly", Folder.new "Nightly")]⟩, true⟩
  let w : Wizard := { create ⟨[.mk ⟨"common", "Common", "", none, none⟩ []
      [⟨"shell", "Shell", "common", "", none, true, .anyDriver⟩]]⟩ with
    mode := .edit, record := some backup, taskType := some "shell", name := "Backup"
    description := "Every night", folder := some "Nightly" }
  let reply := w.commit m TaskDir.new .saved (.notRenamed .isADirectory) day "t2"
  reply.answer.isOk = false ∧ reply.events = []
    ∧ ((reply.manager = m ∧ reply.dir.file = TaskDir.new.file)
      ∨ ∃ saved type r, w.Interrupted m TaskDir.new .saved (.notRenamed .isADirectory) day reply
          saved type r)
  := by
  refine ⟨by decide +kernel, commit_error _ _ _ _ _ _ _ (e := ?_) ?_⟩
  · exact .manager (.storage (.file .isADirectory))
  · rfl

/-- A commit that fails may have changed the task: a wizard gives a task of a run that starts
without tasks a description and a folder, and only the second save fails. -/
theorem error_after_change :
  let catalog : Catalog := ⟨[.mk ⟨"common", "Common", "", none, none⟩ []
    [⟨"shell", "Shell", "common", "", none, true, .anyDriver⟩]]⟩
  let day : Timestamp := ⟨2024, 2, 29, 23, 59, 60, 1⟩
  let backup : NewTask := ⟨"shell", "Backup", "", none, Span.zero, Properties.empty⟩
  let steps : List Manager.Step := [
    ⟨.createFolder "Nightly", day, .saved⟩, ⟨.createTask "t1" backup, day, .saved⟩]
  let s := (Manager.State.start "General" true TaskDir.new).run steps
  let edited := ((s.manager.tasks.task? "t1").map (edit catalog)).bind Except.toOption
  let w := ((edited.getD (create catalog)).setDescription s.manager "Every night").setFolder
    s.manager (some "Nightly")
  let reply := w.commit s.manager s.dir .saved (.notRenamed .isADirectory) day "t2"
  edited.isSome = true ∧ reply.answer.isOk = false
    ∧ ((s.manager.tasks.task? "t1").map fun r => r.description) = some ""
    ∧ ((reply.manager.tasks.task? "t1").map fun r => r.description) = some "Every night"
  := by
  decide +kernel

/-- A commit that fails leaves the tasks and the task file alone, if its saves have one outcome. -/
theorem commit_of_error {outcome : SaveOutcome} {e : WizardError} (hs : m.tasks.Indexed)
    (h : (w.commit m dir outcome outcome now id).answer = .error e) :
  let reply := w.commit m dir outcome outcome now id
  reply.manager = m ∧ reply.dir.file = dir.file
  := by
  intro reply
  obtain ⟨-, -, hkept | ⟨saved, type, r, hinterrupted⟩⟩ :=
    (w.conclusion_commit m dir outcome outcome now id).of_error h
  · exact hkept
  · exfalso
    obtain ⟨hm, hsecond, -⟩ | ⟨hnone, -⟩ := hinterrupted.unmoved
    · exact hsecond (hinterrupted.written hm)
    · -- Where records have their own ids, the task that was changed is there.
      rw [hs.id_eq hinterrupted.found, hinterrupted.found] at hnone
      cases hnone

end Wizard

end TaskDesk
