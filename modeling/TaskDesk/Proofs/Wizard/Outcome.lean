import TaskDesk.Proofs.Manager.Placement
import TaskDesk.Proofs.Wizard.Conclusion
import TaskDesk.Proofs.Wizard.Validity

/-!
# What a commit leaves

A commit is refused, or it writes the task and moves it, if the task is not where the wizard wants
it; between the two it may get stuck: `Ending` lists these ways to end, and `ending_commit` says
that there are no others.  A commit that succeeds puts one record into the tasks, `made` for a new
task and `amended` for a saved one, and changes nothing else.  Whether it succeeds or not, it tells
that the folder of the task changed if it did, and nothing otherwise: `committed_of_start`.
-/

namespace TaskDesk

/-- The folder of the record under an id. -/
def Tasks.home? (s : Tasks) (id : String) : Option String :=
  (s.task? id).bind Record.folder

theorem Tasks.home?_eq {s : Tasks} {id : String} {r : Record} (h : s.task? id = some r) :
  s.home? id = r.folder
  := by
  rw [Tasks.home?, h, Option.bind_some]

theorem Tasks.Replaced.home? {s s' : Tasks} {id : String} {r : Record} (h : s.Replaced s' id r) :
  s'.home? id = r.folder
  := by
  apply Tasks.home?_eq
  rw [h.task, if_pos rfl]

namespace Wizard

/-- The record of a new task. -/
def made (w : Wizard) (now : Timestamp) (id type : String) (folder : Option String) : Record where
  id := id
  name := w.name
  description := w.description
  taskType := type
  folder := folder
  limit := w.limit.getD Span.zero
  properties := w.properties
  createdAt := now
  updatedAt := now

/-- The task of a wizard has what the wizard holds, in the folder of the wizard if that is there;
another task and the rest of a folder are as before. -/
def Committed (w : Wizard) (now : Timestamp) (id : String) (before after : Tasks) : Prop :=
  ∃ type folder, w.taskType = some type
    ∧ (∀ n, folder = some n ↔ w.folder = some n ∧ n ≠ "" ∧ ∃ f, before.folder? n = some f)
    ∧ match w.taskId? with
      | none => before.task? id = none ∧ before.Replaced after id (w.made now id type folder)
      | some saved => ∃ r, before.task? saved = some r
          ∧ before.Replaced after saved (w.amended now type folder r)

section

variable {w : Wizard} {t : TaskType} {project : String} {now : Timestamp} {id saved : String}
  {s : Tasks}

/-! ### How a commit ends -/

/-- How a commit that starts from some tasks can end: the tasks afterwards, what others are told,
and whether it succeeds. -/
inductive Ending (w : Wizard) (project : String) (now : Timestamp) (id : String) (s : Tasks) :
    Tasks → List FolderEvent → Bool → Prop where
  | refused : Ending w project now id s s [] false
  | written {t c} (ht : w.taskType? = some t) (hc : w.writing t project now id s = .ok c)
      (hplace : w.taskId? = none ∨ c.value.folder = w.folder) :
      Ending w project now id s c.tasks c.events true
  | stuck {t c saved} (hsaved : w.taskId? = some saved) (ht : w.taskType? = some t)
      (hc : w.writing t project now id s = .ok c) :
      Ending w project now id s c.tasks c.events false
  | moved {t c c' saved} (hsaved : w.taskId? = some saved) (ht : w.taskType? = some t)
      (hc : w.writing t project now id s = .ok c)
      (hc' : c.tasks.moveTask now c.value.id w.folder = .ok c') :
      Ending w project now id s c'.tasks (c.events ++ c'.events) true

theorem Conclusion.ending {m : Manager} {dir : TaskDir} {first second : SaveOutcome}
    {reply : StepReply (Except WizardError Session)}
    (h : w.Conclusion m dir first second now id reply) :
  w.Ending m.project now id m.tasks reply.manager.tasks reply.events reply.answer.isOk
  := by
  cases h with
  | judged | refused | unsaved => exact .refused
  | written hbegin hc _ hplace => exact .written (begin_eq_ok.mp hbegin).2 hc hplace
  | missing hbegin hc _ hsaved | unmoved hbegin hc _ _ hsaved =>
    exact .stuck hsaved (begin_eq_ok.mp hbegin).2 hc
  | moved hbegin hc _ hsaved _ hc' => exact .moved hsaved (begin_eq_ok.mp hbegin).2 hc hc'

theorem ending_commit (w : Wizard) (m : Manager) (dir : TaskDir) (first second : SaveOutcome)
    (now : Timestamp) (id : String) :
  let reply := w.commit m dir first second now id
  w.Ending m.project now id m.tasks reply.manager.tasks reply.events reply.answer.isOk
  := (w.conclusion_commit m dir first second now id).ending

/-! ### What a commit changes -/

/-- A task that a wizard makes is put under the given id. -/
theorem replaced_writing_new (hs : s.Sound) (hnew : w.taskId? = none) (hfresh : s.task? id = none)
    {c : Change Record} (h : w.writing t project now id s = .ok c) :
  let r := w.made now id t.id (s.destination w.folder)
  s.Replaced c.tasks id r ∧ c.events = if r.folder.isSome then [.moved id none r.folder] else []
  := by
  intro r
  rw [writing, hnew] at h
  obtain ⟨-, -, rfl⟩ := Tasks.createTask_eq_ok.mp h
  refine ⟨?_, rfl⟩
  apply Tasks.replaced_enroll hs hfresh
  intro n hn
  exact (Tasks.destination_eq_some.mp hn).2.2

/-- A saved task is changed where it is. -/
theorem replaced_writing_saved (hs : s.Sound) (hsaved : w.taskId? = some saved)
    {c : Change Record} (h : w.writing t project now id s = .ok c) :
  ∃ r, s.task? saved = some r ∧ c.value = w.amended now t.id r.folder r ∧ c.value.id = saved
    ∧ c.tasks = s.store saved c.value ∧ s.Replaced c.tasks saved c.value ∧ c.tasks.Sound
    ∧ c.events = []
  := by
  have hsound : c.tasks.Sound := by
    rw [writing, hsaved] at h
    exact hs.of_updateTask (id_revise w t now) h
  obtain ⟨r, hr, rfl⟩ := writing_eq_store hsaved h
  have hid : r.id = saved := hs.id_eq hr
  have hreplaced := Tasks.replaced_store hs hr (r := w.amended now t.id r.folder r) rfl
  exact ⟨r, hr, rfl, hid, rfl, hreplaced, hsound, rfl⟩

/-- A saved task that is moved after it was changed is changed and in the folder of the wizard. -/
theorem replaced_moveTask (hs : s.Sound) (hsaved : w.taskId? = some saved) {c : Change Record}
    {c' : Change Bool} (h : w.writing t project now id s = .ok c)
    (h' : c.tasks.moveTask now c.value.id w.folder = .ok c') :
  let folder := s.destination w.folder
  ∃ r, s.task? saved = some r ∧ s.Replaced c'.tasks saved (w.amended now t.id folder r)
    ∧ c.events ++ c'.events = if folder = r.folder then [] else [.moved saved r.folder folder]
  := by
  intro folder
  obtain ⟨r, hr, hvalue, hid, htasks, hreplaced, hsound, hevents⟩ :=
    replaced_writing_saved hs hsaved h
  have hthere : c.tasks.task? saved = some c.value := by rw [hreplaced.task, if_pos rfl]
  have hfolder : c.value.folder = r.folder := by rw [hvalue, amended]
  have hdestination : c.tasks.destination w.folder = folder := by
    rw [htasks]
    rfl
  rw [hid] at h'
  obtain ⟨q, hq, hmove⟩ := Tasks.moveTask_eq_ok.mp h'
  rw [hthere] at hq
  obtain rfl := Option.some.inj hq
  rw [hdestination, hfolder] at hmove
  refine ⟨r, hr, ?_⟩
  obtain ⟨hsame, rfl⟩ | ⟨hother, rfl⟩ := hmove
  · rw [if_pos hsame, hevents, hsame, ← hvalue]
    exact ⟨hreplaced, rfl⟩
  · rw [if_neg hother, hevents]
    refine ⟨?_, rfl⟩
    have hplaced : c.value.setFolder now folder = w.amended now t.id folder r := by
      rw [hvalue]
      rfl
    rw [← hplaced]
    apply hreplaced.trans
    apply Tasks.replaced_relocate hsound now hthere
    intro n hn
    rw [← hdestination] at hn
    exact (Tasks.destination_eq_some.mp hn).2.2

theorem committed_new {s' : Tasks} (ht : w.taskType? = some t) (hnew : w.taskId? = none)
    (hfresh : s.task? id = none)
    (h : s.Replaced s' id (w.made now id t.id (s.destination w.folder))) :
  w.Committed now id s s'
  := by
  refine ⟨t.id, s.destination w.folder, taskType_of_taskType? ht,
    fun n => Tasks.destination_eq_some, ?_⟩
  rw [hnew]
  exact ⟨hfresh, h⟩

theorem committed_saved {s' : Tasks} {r : Record} (ht : w.taskType? = some t)
    (hsaved : w.taskId? = some saved) (hr : s.task? saved = some r)
    (h : s.Replaced s' saved (w.amended now t.id (s.destination w.folder) r)) :
  w.Committed now id s s'
  := by
  refine ⟨t.id, s.destination w.folder, taskType_of_taskType? ht,
    fun n => Tasks.destination_eq_some, ?_⟩
  rw [hsaved]
  exact ⟨r, hr, h⟩

/-- A commit of a wizard without a saved record that succeeds makes a task, under the given id. -/
theorem Ending.made {s' : Tasks} {events : List FolderEvent} (hnew : w.taskId? = none)
    (h : w.Ending project now id s s' events true) :
  ∃ type, w.taskType = some type
    ∧ s'.task? id = some (w.made now id type (s.destination w.folder))
  := by
  cases h with
  | @written t c ht hc hplace =>
    rw [writing, hnew] at hc
    obtain ⟨-, -, rfl⟩ := Tasks.createTask_eq_ok.mp hc
    refine ⟨t.id, taskType_of_taskType? ht, ?_⟩
    rw [Tasks.enrollment, Tasks.task?_enroll]
    exact if_pos rfl
  | moved hsaved => simp [hnew] at hsaved

/-- What others are told about the folder of a task that may have changed. -/
def told (before after : Tasks) (id : String) : List FolderEvent :=
  if after.home? id = before.home? id then []
  else [.moved id (before.home? id) (after.home? id)]

theorem told_of_replaced {s' : Tasks} {r q : Record} (h : s.Replaced s' saved r)
    (hq : s.task? saved = some q) :
  told s s' saved = if r.folder = q.folder then [] else [.moved saved q.folder r.folder]
  := by
  rw [told, h.home?, Tasks.home?_eq hq]

theorem placed_writing (hs : s.Placed) (hfresh : w.taskId? = none → id ≠ "" ∧ s.task? id = none)
    {c : Change Record} (h : w.writing t project now id s = .ok c) :
  c.tasks.Placed
  := by
  rw [writing] at h
  split at h
  · next hnew => apply hs.of_createTask (hfresh hnew).1 (hfresh hnew).2 h
  · apply hs.of_updateTask (id_revise w t now) h

/-- Whether it succeeds or not, a commit keeps tasks placed. -/
theorem Ending.placed (hs : s.Placed) (hfresh : w.taskId? = none → id ≠ "" ∧ s.task? id = none)
    {s' : Tasks} {events : List FolderEvent} {ok : Bool}
    (h : w.Ending project now id s s' events ok) :
  s'.Placed
  := by
  cases h with
  | refused => exact hs
  | written _ hc | stuck _ _ hc => apply placed_writing hs hfresh hc
  | moved _ _ hc hc' =>
    apply Tasks.Placed.of_moveTask _ hc'
    apply placed_writing hs hfresh hc

/-- If the commit succeeds, the task of the wizard is committed; in any case others are told where
the task is if it was moved. -/
theorem Ending.committed (hs : s.Placed) (hfresh : w.taskId? = none → s.task? id = none)
    {s' : Tasks} {events : List FolderEvent} {ok : Bool}
    (h : w.Ending project now id s s' events ok) :
  (ok = true → w.Committed now id s s') ∧ events = told s s' (w.taskId?.getD id)
  := by
  cases h with
  | refused =>
    rw [told, if_pos rfl]
    exact ⟨nofun, rfl⟩
  | @written t c ht hc hplace =>
    cases hsaved : w.taskId? with
    | none =>
      obtain ⟨hreplaced, hevents⟩ := replaced_writing_new hs.toSound hsaved (hfresh hsaved) hc
      refine ⟨fun _ => committed_new ht hsaved (hfresh hsaved) hreplaced, ?_⟩
      have hbefore : s.home? id = none := by rw [Tasks.home?, hfresh hsaved, Option.bind_none]
      rw [Option.getD_none, told, hreplaced.home?, hbefore, hevents]
      cases s.destination w.folder <;> rfl
    | some saved =>
      obtain ⟨r, hr, hvalue, -, -, hreplaced, -, hevents⟩ :=
        replaced_writing_saved hs.toSound hsaved hc
      have hfolder : c.value.folder = r.folder := by rw [hvalue, amended]
      have hwanted : w.folder = r.folder := by simpa [hsaved, hfolder, eq_comm] using hplace
      have hstays : s.destination w.folder = r.folder := by
        rw [hwanted]
        exact Tasks.destination_of_placed hs hr
      refine ⟨fun _ => committed_saved ht hsaved hr ?_, ?_⟩
      · rwa [hstays, ← hvalue]
      · rw [Option.getD_some, told_of_replaced hreplaced hr, if_pos hfolder, hevents]
  | @stuck t c saved hsaved ht hc =>
    obtain ⟨r, hr, hvalue, -, -, hreplaced, -, hevents⟩ :=
      replaced_writing_saved hs.toSound hsaved hc
    have hfolder : c.value.folder = r.folder := by rw [hvalue, amended]
    refine ⟨nofun, ?_⟩
    rw [hsaved, Option.getD_some, told_of_replaced hreplaced hr, if_pos hfolder, hevents]
  | @moved t c c' saved hsaved ht hc hc' =>
    obtain ⟨r, hr, hreplaced, hevents⟩ := replaced_moveTask hs.toSound hsaved hc hc'
    refine ⟨fun _ => committed_saved ht hsaved hr hreplaced, ?_⟩
    rw [hsaved, Option.getD_some, told_of_replaced hreplaced hr, hevents]
    rfl

end

/-- Whatever was done to the tasks before and becomes of the saves: a commit that succeeds gives
the task of the wizard what the wizard holds and leaves everything else as it was, and any commit
tells others that the folder of the task changed exactly if it did. -/
theorem committed_of_start (project : String) (isBacked : Bool) (dir : TaskDir)
    (steps : List Manager.Step) (w : Wizard) (first second : SaveOutcome) (now : Timestamp)
    (id : String) (hsteps : (Manager.State.start project isBacked dir).Admits steps)
    (hfresh : w.taskId? = none →
      ((Manager.State.start project isBacked dir).run steps).manager.tasks.task? id = none) :
  let s := (Manager.State.start project isBacked dir).run steps
  let reply := w.commit s.manager s.dir first second now id
  (reply.answer.isOk → w.Committed now id s.manager.tasks reply.manager.tasks)
    ∧ reply.events = told s.manager.tasks reply.manager.tasks (w.taskId?.getD id)
  := by
  intro s reply
  have hs : s.manager.tasks.Placed := Manager.State.placed_run Tasks.placed_empty hsteps
  exact Ending.committed hs hfresh (ending_commit w s.manager s.dir first second now id)

/-- A saved task gets another type and another folder, and a new task is made. -/
theorem committed_of_start_instance :
  let catalog : Catalog := ⟨[.mk ⟨"common", "Common", "", none, none⟩ []
    [⟨"dump", "Dump", "common", "", none, true, .anyDriver⟩]]⟩
  let day : Timestamp := ⟨2024, 2, 29, 23, 59, 60, 1⟩
  let backup : NewTask := ⟨"shell", "Backup", "", some "Nightly", Span.zero,
    Properties.empty.insert "script" (.str "backup.sh")⟩
  let steps : List Manager.Step := [
    ⟨.createFolder "Nightly", day, .saved⟩, ⟨.createFolder "Weekly", day, .saved⟩,
    ⟨.createTask "t1" backup, day, .saved⟩]
  let s := (Manager.State.start "General" true TaskDir.new).run steps
  let edited : Wizard := { create catalog with
    mode := .edit, record := s.manager.tasks.task? "t1", taskType := some "dump"
    name := "Backup", folder := some "Weekly" }
  let fresh : Wizard := { create catalog with
    taskType := some "dump", name := "Restore", folder := some "Nightly" }
  let edit := edited.commit s.manager s.dir .saved .saved day "t2"
  let creation := fresh.commit s.manager s.dir .saved .saved day "t2"
  (Manager.State.start "General" true TaskDir.new).Admits steps
    ∧ s.manager.tasks.task? "t2" = none
    ∧ (edit.answer.isOk ∧ edited.Committed day "t2" s.manager.tasks edit.manager.tasks
      ∧ edit.events = [.moved "t1" (some "Nightly") (some "Weekly")])
    ∧ (creation.answer.isOk ∧ fresh.Committed day "t2" s.manager.tasks creation.manager.tasks
      ∧ creation.events = [.moved "t2" none (some "Nightly")])
  := by
  refine ⟨?admits, ?unused, ⟨?edits, ?edited, ?moved⟩, ?creates, ?created, ?placed⟩
  case edited | created =>
    refine (committed_of_start "General" true TaskDir.new _ _ .saved .saved _ "t2" ?_ ?_).1 ?_
    all_goals decide +kernel
  all_goals decide +kernel

end Wizard

end TaskDesk
