import TaskDesk.Proofs.Wizard.Retry
import TaskDesk.Proofs.Wizard.Sessions

/-!
# Commits that are repeated

After a commit that succeeds the task is stored as the wizard wants it, in the folder of the wizard
or, if there is no such folder, in none, and the session of the type is kept: the wizard is
`UpToDate`.  A commit of a wizard that is up to date has nothing to do: it finds the fields good,
writes the record that is there, moves it to where it is, and hands out the session that is kept.
So of a commit that is repeated nothing shows but the time of the last update,
`commit_again_of_start`, though the first one may have made the task and the second one updates it.
-/

namespace TaskDesk

/-- A destination stands for the same folder as long as no folder is made or taken away. -/
theorem Tasks.destination_congr {s s' : Tasks}
    (h : ∀ n, (s'.folder? n).isSome = (s.folder? n).isSome) (name : Option String) :
  s'.destination name = s.destination name
  := by
  have hhas : ∀ n, Keyed.has n s'.folders = Keyed.has n s.folders := h
  simp only [destination, hhas]

theorem Tasks.isSome_folder?_changeFolder (s : Tasks) (name : Option String) (f : Folder → Folder)
    (n : String) :
  ((s.changeFolder name f).folder? n).isSome = (s.folder? n).isSome
  := by
  rw [folder?_changeFolder]
  split
  · apply Option.isSome_map
  · rfl

namespace Wizard

variable {w : Wizard} {t : TaskType} {r : Record} {session : Session} {m : Manager} {dir : TaskDir}
  {now : Timestamp} {id : String} {s : Tasks}

/-- Whether a record has what a wizard holds, its folder and its properties apart. -/
structure Carries (w : Wizard) (type : String) (r : Record) : Prop where
  name : r.name = w.name
  description : r.description = w.description
  taskType : r.taskType = type
  limit : r.limit = w.taskLimit

/-- Whether the task of a wizard is stored as the wizard wants it.  A folder that is not there
stands for none, so the record need not be in the folder that the wizard names. -/
structure UpToDate (w : Wizard) (s : Tasks) (t : TaskType) (r : Record) (session : Session) :
    Prop where
  record : w.record = some r
  saved : r.id ≠ ""
  stored : s.task? r.id = some r
  named : w.name ≠ ""
  typed : w.taskType? = some t
  carried : w.Carries t.id r
  placed : r.folder = w.folder ∨ s.destination w.folder = r.folder
  session : Keyed.find? t.id w.sessions = some session

/-! ### After a commit -/

theorem carries_amended (w : Wizard) (now : Timestamp) (type : String) (folder : Option String)
    (r : Record) :
  w.Carries type (w.amended now type folder r)
  := ⟨rfl, rfl, rfl, rfl⟩

theorem Carries.setFolder {type : String} (h : w.Carries type r) (now : Timestamp)
    (folder : Option String) :
  w.Carries type (r.setFolder now folder)
  := ⟨h.name, h.description, h.taskType, h.limit⟩

/-- What a wizard holds, its record and its sessions apart, is left alone when it is finished. -/
theorem fst_finish (w : Wizard) (t : TaskType) (r : Record) :
  (w.finish t r).1 = { w with record := some r, sessions := (w.finish t r).1.sessions }
  := by
  rw [finish]
  split <;> rfl

/-- The session that is handed out is the one that is kept for the type. -/
theorem find?_session_finish (w : Wizard) (t : TaskType) (r : Record) :
  Keyed.find? t.id (w.finish t r).1.sessions = some (w.finish t r).2
  := by
  rw [find?_sessions_finish, snd_finish, if_pos rfl]
  cases Keyed.find? t.id w.sessions <;> rfl

/-- A wizard that is finished with a stored record of its own is up to date. -/
theorem upToDate_finish (hid : r.id ≠ "") (hstored : s.task? r.id = some r) (hname : w.name ≠ "")
    (ht : w.taskType? = some t) (hcarried : w.Carries t.id r)
    (hplaced : r.folder = w.folder ∨ s.destination w.folder = r.folder) :
  (w.finish t r).1.UpToDate s t r (w.finish t r).2
  := by
  have hsession := find?_session_finish w t r
  rw [fst_finish]
  exact ⟨rfl, hid, hstored, hname, ht,
    ⟨hcarried.name, hcarried.description, hcarried.taskType, hcarried.limit⟩, hplaced, hsession⟩

/-- What is written has an id, if an id is brought for a new task. -/
theorem id_ne_empty_writing (hs : s.Indexed) (hid : w.taskId? = none → id ≠ "") {project : String}
    {c : Change Record} (hc : w.writing t project now id s = .ok c) :
  c.value.id ≠ ""
  := by
  obtain ⟨-, ⟨hnew, hvalue⟩ | ⟨hsaved, -⟩⟩ := records_writing hs hc
  · rw [hvalue]
    exact hid hnew
  · obtain ⟨-, -, -, hne⟩ := taskId?_eq_some.mp hsaved
    exact hne

/-- What is written has what the wizard holds, and a new task is in the folder that the one of the
wizard stands for. -/
theorem carries_writing {project : String} {c : Change Record}
    (hc : w.writing t project now id s = .ok c) :
  w.Carries t.id c.value
    ∧ (w.taskId? = none → c.tasks.destination w.folder = c.value.folder)
  := by
  cases hsaved : w.taskId? with
  | none =>
    rw [writing, hsaved] at hc
    obtain ⟨-, -, rfl⟩ := Tasks.createTask_eq_ok.mp hc
    refine ⟨⟨rfl, rfl, rfl, rfl⟩, fun _ => Tasks.destination_congr (s := s) ?_ w.folder⟩
    apply Tasks.isSome_folder?_changeFolder
  | some saved =>
    obtain ⟨q, -, rfl⟩ := writing_eq_store hsaved hc
    refine ⟨carries_amended w now t.id q.folder q, ?_⟩
    intro hnew
    cases hnew

/-- A wizard whose task was written where it belongs is up to date. -/
theorem upToDate_written (hs : s.Indexed) (hid : w.taskId? = none → id ≠ "") (hname : w.name ≠ "")
    (ht : w.taskType? = some t) {project : String} {c : Change Record}
    (hc : w.writing t project now id s = .ok c)
    (hplace : w.taskId? = none ∨ c.value.folder = w.folder) :
  (w.finish t c.value).1.UpToDate c.tasks t c.value (w.finish t c.value).2
  := by
  obtain ⟨hcarried, hnew⟩ := carries_writing hc
  apply upToDate_finish (id_ne_empty_writing hs hid hc) (task?_writing hs hc) hname ht hcarried
  exact hplace.symm.imp_right hnew

/-- A wizard whose task was written and then moved is up to date. -/
theorem upToDate_moved (hs : s.Indexed) (hid : w.taskId? = none → id ≠ "") (hname : w.name ≠ "")
    (ht : w.taskType? = some t) {project : String} {c : Change Record}
    (hc : w.writing t project now id s = .ok c) {c' : Change Bool}
    (hc' : c.tasks.moveTask now c.value.id w.folder = .ok c')
    (hr : (if c'.value then c'.tasks.task? c.value.id else some c.value) = some r) :
  (w.finish t r).1.UpToDate c'.tasks t r (w.finish t r).2
  := by
  obtain ⟨hcarried, -⟩ := carries_writing hc
  obtain ⟨hsame, -, hstored⟩ := task?_moved hs hc hc' hr
  have hne : r.id ≠ "" := by
    rw [hsame]
    exact id_ne_empty_writing hs hid hc
  rw [← hsame] at hstored
  obtain ⟨p, hp, hmove⟩ := Tasks.moveTask_eq_ok.mp hc'
  obtain rfl := Option.some.inj ((task?_writing hs hc).symm.trans hp)
  obtain ⟨hstays, rfl⟩ | ⟨-, rfl⟩ := hmove
  · obtain rfl := Option.some.inj hr
    exact upToDate_finish hne hstored hname ht hcarried (.inr hstays)
  · rw [if_pos rfl, Tasks.task?_relocate, if_pos rfl] at hr
    obtain rfl := Option.some.inj hr
    apply upToDate_finish hne hstored hname ht (hcarried.setFolder now _)
    refine .inr (Tasks.destination_congr ?_ w.folder)
    intro n
    rw [Tasks.relocate, Tasks.folder?_store, Tasks.isSome_folder?_changeFolder,
      Tasks.isSome_folder?_changeFolder]

/-- A commit that succeeds leaves the wizard up to date. -/
theorem Conclusion.upToDate {first second : SaveOutcome}
    {reply : StepReply (Except WizardError Session)} (hs : m.tasks.Indexed)
    (hid : w.taskId? = none → id ≠ "") (h : w.Conclusion m dir first second now id reply)
    (hok : reply.answer = .ok session) :
  ∃ t r, reply.wizard.UpToDate reply.manager.tasks t r session
  := by
  cases h with
  | judged | refused | unsaved | missing | unmoved => cases hok
  | @written t c hbegin hc _ hplace =>
    obtain rfl := Except.ok.inj hok
    obtain ⟨hvalid, ht⟩ := begin_eq_ok.mp hbegin
    have hname : w.name ≠ "" := (validate_eq_none.mp hvalid).1
    -- Judging the fields touches nothing that is written.
    exact ⟨t, c.value, upToDate_written (w := w.settle m) hs hid hname ht hc hplace⟩
  | @moved t c saved c' r hbegin hc _ _ _ hc' _ hr =>
    obtain rfl := Except.ok.inj hok
    obtain ⟨hvalid, ht⟩ := begin_eq_ok.mp hbegin
    have hname : w.name ≠ "" := (validate_eq_none.mp hvalid).1
    exact ⟨t, r, upToDate_moved (w := w.settle m) hs hid hname ht hc hc' hr⟩

/-! ### The next commit -/

/-- A record that has what a wizard holds gets nothing but a date when it is amended. -/
theorem Carries.amended {type : String} (h : w.Carries type r) (now : Timestamp) :
  w.amended now type r.folder r = { r with updatedAt := now }
  := by
  obtain ⟨hname, hdescription, htype, hlimit⟩ := h
  rw [Wizard.amended, if_pos htype, ← hname, ← hdescription, ← htype]
  rw [taskLimit] at hlimit
  rw [← hlimit]

theorem UpToDate.taskId? (h : w.UpToDate s t r session) :
  w.taskId? = some r.id
  := taskId?_eq_some.mpr ⟨r, h.record, rfl, h.saved⟩

/-- The fields of a wizard that is up to date are good, though its own task has the name by now. -/
theorem UpToDate.begin (h : w.UpToDate m.tasks t r session) :
  (w.begin m).2 = .ok t
  := by
  have hnew : w.taskId? = none → m.tasks.isTaken w.name none = false := by
    rw [h.taskId?]
    exact nofun
  refine begin_eq_ok.mpr ⟨validate_eq_none.mpr ⟨h.named, hnew, ?_⟩, h.typed⟩
  exact ⟨t.id, taskType_of_taskType? h.typed⟩

/-- The record that is there is written again. -/
theorem UpToDate.writing (h : w.UpToDate s t r session) (project : String) (now : Timestamp)
    (id : String) :
  let q := { r with updatedAt := now }
  w.writing t project now id s = .ok ⟨s.store r.id q, q, []⟩
  := by
  intro q
  have hq : Tasks.revised now (w.revise t now) r = q := by
    rw [revised_revise, h.carried.amended]
  apply (writing_saved h.taskId? h.named).mpr
  refine ⟨r, h.stored, .inl h.carried.name.symm, ?_⟩
  rw [hq]

/-- The session that is kept is handed out, and nothing new is kept. -/
theorem UpToDate.finish (h : w.UpToDate s t r session) (m : Manager) (q : Record) :
  (w.settle m).finish t q = ({ w.settle m with record := some q }, session)
  := by
  have hsession : Keyed.find? t.id (w.settle m).sessions = some session := h.session
  rw [Wizard.finish, hsession]

/-- A commit of a wizard that is up to date gives the task another date of the last update. -/
theorem UpToDate.commit (h : w.UpToDate m.tasks t r session) (dir : TaskDir) (now : Timestamp)
    (id : String) :
  let q := { r with updatedAt := now }
  let reply := w.commit m dir .saved .saved now id
  reply.wizard = { w.settle m with record := some q }
    ∧ reply.manager = { m with tasks := m.tasks.store r.id q }
    ∧ reply.answer = .ok session ∧ reply.events = []
  := by
  intro q reply
  have hwriting := h.writing m.project now id
  by_cases hplace : r.folder = w.folder
  · have hreply : reply = _ := commit_of_written h.begin hwriting (.inr hplace) dir .saved
    rw [hreply, h.finish]
    exact ⟨rfl, rfl, rfl, rfl⟩
  · -- The folder of the wizard is not there, and the task is in none: it is moved to where it is.
    have hstays : m.tasks.destination w.folder = r.folder := h.placed.resolve_left hplace
    have hmoving : (m.tasks.store r.id q).moveTask now q.id w.folder
        = .ok ⟨m.tasks.store r.id q, false, []⟩ := by
      apply Tasks.moveTask_eq_ok.mpr
      refine ⟨q, ?_, .inl ⟨hstays, rfl⟩⟩
      rw [Tasks.task?_store, if_pos rfl]
    obtain ⟨hwizard, hmanager, hanswer, hevents⟩ :=
      commit_of_moved h.begin hwriting h.taskId? hplace hmoving rfl dir
    rw [h.finish] at hwizard hanswer
    exact ⟨hwizard, hmanager, hanswer, hevents⟩

/-- Whatever was done to the tasks before and whatever the wizard holds: when a commit succeeds and
the next one finds everything as it was left and is saved, the next one succeeds as well.  It hands
out the same session, keeps the sessions, tells nobody anything and leaves the tasks and the folders
alone, but for the time of the last update of the one task that is there. -/
theorem commit_again_of_start (project : String) (isBacked : Bool) (dir : TaskDir)
    (steps : List Manager.Step) (w : Wizard) (first second : SaveOutcome) (now : Timestamp)
    (id : String) (session : Session)
    (hsteps : (Manager.State.start project isBacked dir).Admits steps)
    (hid : w.taskId? = none → id ≠ "") :
  let s := (Manager.State.start project isBacked dir).run steps
  let once := w.commit s.manager s.dir first second now id
  once.answer = .ok session →
  ∃ r, once.wizard.record = some r ∧ once.manager.tasks.task? r.id = some r
    ∧ Keyed.find? r.taskType once.wizard.sessions = some session
    ∧ ∀ now' id',
      let twice := once.wizard.commit once.manager once.dir .saved .saved now' id'
      twice.answer = .ok session ∧ twice.wizard.sessions = once.wizard.sessions
        ∧ twice.events = []
        ∧ twice.manager = { once.manager with
            tasks := once.manager.tasks.store r.id { r with updatedAt := now' } }
  := by
  intro s once hok
  have hs : s.manager.tasks.Indexed :=
    (Manager.State.sound_run Tasks.sound_empty hsteps).toIndexed
  obtain ⟨t, r, hwizard⟩ :=
    (w.conclusion_commit s.manager s.dir first second now id).upToDate hs hid hok
  refine ⟨r, hwizard.record, hwizard.stored, ?_, ?_⟩
  · rw [hwizard.carried.taskType]
    exact hwizard.session
  · intro now' id' twice
    obtain ⟨htwice, hmanager, hanswer, hevents⟩ := hwizard.commit once.dir now' id'
    have hsessions : twice.wizard.sessions = once.wizard.sessions := by
      rw [htwice]
      rfl
    exact ⟨hanswer, hsessions, hevents, hmanager⟩

/-- A task that is not saved is edited in a folder that is not there: the first commit makes it, the
second one finds it, with its own name, in no folder. -/
theorem commit_again_of_start_instance :
  let catalog : Catalog := ⟨[.mk ⟨"common", "Common", "", none, none⟩ []
    [⟨"shell", "Shell", "common", "", none, true, .anyDriver⟩]]⟩
  let day (n : Nat) : Timestamp := ⟨2024, 2, n, 23, 59, 60, 1⟩
  let steps : List Manager.Step := [
    ⟨.createFolder "Nightly", day 1, .saved⟩,
    ⟨.createTask "t1" ⟨"shell", "Restore", "", some "Nightly", Span.zero, Properties.empty⟩, day 2,
      .saved⟩]
  let s := (Manager.State.start "General" true TaskDir.new).run steps
  let w : Wizard := { create catalog with
    mode := .edit
    record := some (Record.new (day 1) "Backup" "shell")
    taskType := some "shell", name := "Backup", folder := some "Weekly" }
  let once := w.commit s.manager s.dir .saved .saved (day 3) "t2"
  ∃ session, once.answer = .ok session
    ∧ ∃ r, once.wizard.record = some r ∧ once.manager.tasks.task? r.id = some r
      ∧ Keyed.find? r.taskType once.wizard.sessions = some session
      ∧ ∀ now' id',
        let twice := once.wizard.commit once.manager once.dir .saved .saved now' id'
        twice.answer = .ok session ∧ twice.wizard.sessions = once.wizard.sessions
          ∧ twice.events = []
          ∧ twice.manager = { once.manager with
              tasks := once.manager.tasks.store r.id { r with updatedAt := now' } }
  := by
  apply exists_eq_ok_and
  · decide +kernel
  · intro session
    apply commit_again_of_start "General" true TaskDir.new [_, _] _ .saved .saved _ "t2"
    · decide +kernel
    · decide +kernel

end Wizard

end TaskDesk
