import TaskDesk.Proofs.Manager.Persistence
import TaskDesk.Proofs.Wizard.Outcome

/-!
# What a commit leaves in the task file

A commit that succeeds leaves the tasks in the task file, `Conclusion.dir_of_ok`.  Whether it
succeeds or not, a commit keeps tasks that can be stored, `Ending.storable`.
-/

namespace TaskDesk

open TaskDesk.Text

namespace Wizard

variable {w : Wizard} {t : TaskType} {m : Manager} {dir : TaskDir} {now : Timestamp} {id : String}

/-- After a commit that succeeds the task file holds the tasks. -/
theorem Conclusion.dir_of_ok {first second : SaveOutcome}
    {reply : StepReply (Except WizardError Session)} (hm : m.isBacked = true)
    (h : w.Conclusion m dir first second now id reply) {session : Session}
    (hok : reply.answer = .ok session) :
  reply.dir = Manager.savedDir reply.manager.tasks
  := by
  cases h with
  | judged | refused | unsaved | missing | unmoved => cases hok
  | written | moved => exact if_pos hm

/-! ### What can be stored -/

/-- A wizard without a saved record holds only what can be stored. -/
def Storable (w : Wizard) : Prop :=
  w.taskLimit.seconds ≤ maxWord
    ∧ (w.taskId? = none → w.properties.isPlain Record.propertyLevels = true)

theorem storable_writing {s : Tasks} (hs : s.Storable) (hw : w.Storable) (hnow : now.valid = true)
    {project : String} {c : Change Record} (h : w.writing t project now id s = .ok c) :
  c.tasks.Storable
  := by
  obtain ⟨hlimit, hproperties⟩ := hw
  rw [writing] at h
  split at h
  · next hnew =>
    obtain ⟨-, -, rfl⟩ := Tasks.createTask_eq_ok.mp h
    apply hs.enroll
    exact ⟨hnow, hnow, hlimit, hproperties hnew⟩
  · next saved hsaved =>
    obtain ⟨r, hr, hvalue, -, -, htasks, -⟩ := Tasks.updateTask_eq_ok.mp h
    have hid : saved = c.value.id := by
      rw [hvalue, Tasks.id_revised now (id_revise w t now), hs.id_eq hr]
    rw [htasks, hid]
    apply hs.store
    rw [hvalue, revised_revise]
    have hbefore := hs.record hr
    refine ⟨hbefore.createdAt, hnow, hlimit, ?_⟩
    rw [amended]
    simp only
    split
    · exact hbefore.properties
    · apply Properties.isPlain_empty

/-- Whether it succeeds or not, a commit keeps tasks that can be stored. -/
theorem Ending.storable {s s' : Tasks} {project : String} {events : List FolderEvent} {ok : Bool}
    (hs : s.Storable) (hw : w.Storable) (hnow : now.valid = true)
    (h : w.Ending project now id s s' events ok) :
  s'.Storable
  := by
  cases h with
  | refused => exact hs
  | written ht hc hplace => exact storable_writing hs hw hnow hc
  | stuck hsaved ht hc => exact storable_writing hs hw hnow hc
  | moved hsaved ht hc hc' =>
    have hwritten := storable_writing hs hw hnow hc
    obtain ⟨r, hr, ⟨-, rfl⟩ | ⟨-, rfl⟩⟩ := Tasks.moveTask_eq_ok.mp hc'
    · exact hwritten
    · exact hwritten.relocate hnow hr _

end Wizard

end TaskDesk
