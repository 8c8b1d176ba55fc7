import TaskDesk.Proofs.Manager.Runs
import TaskDesk.Proofs.Tasks.Dates
import TaskDesk.Proofs.Wizard.Conclusion
import TaskDesk.Proofs.Wizard.Validity

/-!
# Commits that are tried again

A commit whose saves fail may be tried again, any number of times.  Until it succeeds nobody is told
anything and the wizard stays as it is, and the tasks are as they were but for the task of the
wizard, which may have been written where it is: such a `Trial` is `Pending`.  Writing a task again
comes to the same as writing it first, `writing_again`.  So the commit that succeeds at last leaves
what it would have left as the first one, but for the dates: `trial_of_fails`.
-/

namespace TaskDesk

namespace Wizard

variable {w : Wizard} {t : TaskType} {m : Manager} {project saved : String} {now : Timestamp}
  {id : String} {s : Tasks}

/-! ### Writing again -/

/-- A task that is amended again is as if it had been amended at the later time only. -/
theorem amended_amended (w : Wizard) (now now' : Timestamp) (type : String)
    (folder : Option String) (r : Record) :
  w.amended now' type folder (w.amended now type folder r) = w.amended now' type folder r
  := by
  simp [amended]

/-- A task that can be written can be written at any time. -/
theorem writing_at (hsaved : w.taskId? = some saved) {c : Change Record}
    (h : w.writing t project now id s = .ok c) :
  w.name ≠ "" ∧ ∃ r, s.task? saved = some r ∧ ∀ now' id',
    w.writing t project now' id' s
      = .ok ⟨s.store saved (w.amended now' t.id r.folder r), w.amended now' t.id r.folder r, []⟩
  := by
  rw [writing, hsaved] at h
  obtain ⟨r, hr, hvalue, hname, hfree, -, -⟩ := Tasks.updateTask_eq_ok.mp h
  rw [hvalue, Tasks.name_revised, name_revise] at hname hfree
  refine ⟨hname, r, hr, ?_⟩
  intro now' id'
  apply (writing_saved hsaved hname).mpr
  rw [← revised_revise]
  exact ⟨r, hr, hfree, rfl⟩

/-- A task that was written is written again as if it had not been written before. -/
theorem writing_again (hsaved : w.taskId? = some saved) {c : Change Record}
    (h : w.writing t project now id s = .ok c) (now' : Timestamp) (id' : String) :
  w.writing t project now' id' c.tasks = w.writing t project now' id' s
  := by
  obtain ⟨hname, r, hr, hwrites⟩ := writing_at hsaved h
  obtain rfl := Except.ok.inj (h.symm.trans (hwrites now id))
  rw [hwrites now' id']
  apply (writing_saved hsaved hname).mpr
  refine ⟨w.amended now t.id r.folder r, ?_, .inl rfl, ?_⟩
  · rw [Tasks.task?_store, if_pos rfl]
  · have hfolder : (w.amended now t.id r.folder r).folder = r.folder := rfl
    rw [revised_revise, hfolder, amended_amended]
    simp [Tasks.store, Keyed.put_put]

/-- Writing at another time. -/
theorem undated_writing {c : Change Record} (h : w.writing t project now id s = .ok c)
    (now' : Timestamp) :
  ∃ c', w.writing t project now' id s = .ok c' ∧ c'.tasks.undated = c.tasks.undated
    ∧ c'.value.undated = c.value.undated ∧ c'.events = c.events
  := by
  cases hsaved : w.taskId? with
  | none =>
    rw [writing, hsaved] at h ⊢
    exact Tasks.undated_createTask h now'
  | some saved =>
    obtain ⟨-, r, -, hwrites⟩ := writing_at hsaved h
    obtain rfl := Except.ok.inj (h.symm.trans (hwrites now id))
    refine ⟨_, hwrites now' id, ?_, rfl, rfl⟩
    rw [Tasks.undated_store, Tasks.undated_store]
    rfl

/-! ### Commits that are saved -/

/-- The wizard without the dates of its record. -/
def undated (w : Wizard) : Wizard :=
  { w with record := w.record.map Record.undated }

theorem undated_finish {r r' : Record} (hr : r'.undated = r.undated) :
  (w.finish t r').1.undated = (w.finish t r).1.undated ∧ (w.finish t r').2 = (w.finish t r).2
  := by
  have hid : r'.id = r.id := (congrArg Record.id hr :)
  have hproperties : r'.properties = r.properties := (congrArg Record.properties hr :)
  rw [finish, finish]
  cases Keyed.find? t.id w.sessions with
  | some session => simp [undated, hr]
  | none => simp [undated, hr, hid, hproperties]

/-- Fields that are not good are incomplete. -/
theorem begin_eq_error {e : WizardError} (h : (w.begin m).2 = .error e) :
  ∃ p, e = .incomplete p
  := by
  rw [begin] at h
  split at h
  · exact ⟨_, (Except.error.inj h).symm⟩
  · exact ⟨.missingTaskType, (Except.error.inj h).symm⟩
  · cases h

theorem settle_of_begin (h : (w.begin m).2 = .ok t) :
  w.settle m = { w with problem := none, state := .valid }
  := by
  obtain ⟨hvalid, -⟩ := begin_eq_ok.mp h
  rw [settle, hvalid]
  rfl

/-- The commit of a task that is written where it belongs. -/
theorem commit_of_written (hbegin : (w.begin m).2 = .ok t) {c : Change Record}
    (hc : w.writing t m.project now id m.tasks = .ok c)
    (hplace : w.taskId? = none ∨ c.value.folder = w.folder) (dir : TaskDir) (second : SaveOutcome) :
  w.commit m dir .saved second now id
    = ⟨((w.settle m).finish t c.value).1, { m with tasks := c.tasks },
        if m.isBacked then Manager.savedDir c.tasks else dir,
        .ok ((w.settle m).finish t c.value).2, c.events⟩
  := by
  have hjudged : w.begin m = (w.settle m, .ok t) := by rw [← fst_begin, ← hbegin]
  have hwriting : (w.settle m).writing t m.project now id m.tasks = .ok c := hc
  have hplace' : (w.settle m).taskId? = none ∨ c.value.folder = (w.settle m).folder := hplace
  rw [commit, hjudged]
  simp only
  rw [write_eq, Manager.mutate_saved hwriting]
  simp only [if_pos hplace']

/-- The commit of a task that is written and then moved. -/
theorem commit_of_moved (hbegin : (w.begin m).2 = .ok t) {c : Change Record}
    (hc : w.writing t m.project now id m.tasks = .ok c) (hsaved : w.taskId? = some saved)
    (hplace : c.value.folder ≠ w.folder) {c' : Change Bool}
    (hc' : c.tasks.moveTask now c.value.id w.folder = .ok c') {r : Record}
    (hr : (if c'.value then c'.tasks.task? c.value.id else some c.value) = some r) (dir : TaskDir) :
  let reply := w.commit m dir .saved .saved now id
  reply.wizard = ((w.settle m).finish t r).1 ∧ reply.manager = { m with tasks := c'.tasks }
    ∧ reply.answer = .ok ((w.settle m).finish t r).2 ∧ reply.events = c.events ++ c'.events
  := by
  intro reply
  have hreply : reply = w.commit m dir .saved .saved now id := rfl
  have hjudged : w.begin m = (w.settle m, .ok t) := by rw [← fst_begin, ← hbegin]
  have hwriting : (w.settle m).writing t m.project now id m.tasks = .ok c := hc
  have hmoving : c.tasks.moveTask now c.value.id (w.settle m).folder = .ok c' := hc'
  have hplace' : ¬((w.settle m).taskId? = none ∨ c.value.folder = (w.settle m).folder) := by
    rintro (hnone | hfolder)
    · have hnone' : w.taskId? = none := hnone
      simp [hsaved] at hnone'
    · exact hplace hfolder
  rw [commit, hjudged] at hreply
  simp only at hreply
  rw [write_eq, Manager.mutate_saved hwriting] at hreply
  simp only [if_neg hplace'] at hreply
  rw [move_eq, relocate, Manager.mutate_saved hmoving] at hreply
  cases hvalue : c'.value with
  | false =>
    rw [hvalue] at hr
    obtain rfl := Option.some.inj hr
    simp only [hvalue] at hreply
    rw [hreply]
    exact ⟨rfl, rfl, rfl, rfl⟩
  | true =>
    rw [hvalue, if_pos rfl] at hr
    simp only [hvalue, reread, hr] at hreply
    rw [hreply]
    exact ⟨rfl, rfl, rfl, rfl⟩

/-! ### Trials -/

/-- The circumstances of a commit. -/
structure Attempt where
  dir : TaskDir
  first : SaveOutcome
  second : SaveOutcome
  now : Timestamp
  id : String

/-- A wizard at work on a manager that nobody else uses, and what others were told so far. -/
structure Trial where
  wizard : Wizard
  manager : Manager
  events : List FolderEvent

namespace Trial

/-- What a commit comes to. -/
def reply (x : Trial) (a : Attempt) : StepReply (Except WizardError Session) :=
  x.wizard.commit x.manager a.dir a.first a.second a.now a.id

/-- The trial after a commit. -/
def attempt (x : Trial) (a : Attempt) : Trial :=
  ⟨(x.reply a).wizard, (x.reply a).manager, x.events ++ (x.reply a).events⟩

/-- The trial after commits, the first one first. -/
def run (x : Trial) (attempts : List Attempt) : Trial :=
  attempts.foldl attempt x

/-- Whether an answer says that a save failed. -/
def saveFailed : Except WizardError Session → Bool
  | .error (.manager (.storage _)) => true
  | _ => false

/-- Whether in each of the commits a save fails. -/
def Fails : Trial → List Attempt → Prop
  | _, [] => True
  | x, a :: rest => saveFailed (x.reply a).answer = true ∧ (x.attempt a).Fails rest

instance decidableFails : (x : Trial) → (attempts : List Attempt) → Decidable (x.Fails attempts)
  | _, [] => inferInstanceAs (Decidable True)
  | x, a :: rest =>
    have := decidableFails (x.attempt a) rest
    inferInstanceAs (Decidable (saveFailed (x.reply a).answer = true ∧ (x.attempt a).Fails rest))

/-- Nobody was told anything, the wizard has judged its fields at most, and the tasks are as they
were or the task of the wizard was written. -/
structure Pending (w : Wizard) (m : Manager) (x : Trial) : Prop where
  wizard : x.wizard = w ∨ ∃ m', x.wizard = w.settle m'
  events : x.events = []
  manager : x.manager = m ∨ ∃ type saved now id c, w.taskType? = some type
    ∧ w.taskId? = some saved ∧ w.writing type m.project now id m.tasks = .ok c
    ∧ x.manager = { m with tasks := c.tasks }

theorem pending_start (w : Wizard) (m : Manager) :
  Pending w m ⟨w, m, []⟩
  := ⟨.inl rfl, rfl, .inl rfl⟩

variable {x : Trial}

/-- Since fields are judged at the beginning of a commit, it does not matter whether they were
judged before. -/
theorem Pending.reply_eq (h : x.Pending w m) (a : Attempt) :
  x.reply a = w.commit x.manager a.dir a.first a.second a.now a.id
  := by
  obtain hsame | ⟨m', hsettled⟩ := h.wizard
  · rw [reply, hsame]
  · rw [reply, hsettled]
    rfl

/-- What is written while a trial is pending would have been written at first. -/
theorem Pending.writing (h : x.Pending w m) (ht : w.taskType? = some t) {c : Change Record}
    (hc : w.writing t x.manager.project now id x.manager.tasks = .ok c) :
  w.writing t m.project now id m.tasks = .ok c
    ∧ ({ x.manager with tasks := c.tasks } : Manager) = { m with tasks := c.tasks }
  := by
  obtain hsame | ⟨type, saved, now', id', c', htype, hsaved, hc', hmanager⟩ := h.manager
  · rw [hsame] at hc ⊢
    exact ⟨hc, rfl⟩
  · obtain rfl := Option.some.inj (htype.symm.trans ht)
    rw [hmanager] at hc ⊢
    simp only at hc
    rw [writing_again hsaved hc'] at hc
    exact ⟨hc, rfl⟩

/-- Fields that are good while a trial is pending were good at first. -/
theorem Pending.begin (h : x.Pending w m) (hbegin : (w.begin x.manager).2 = .ok t) :
  (w.begin m).2 = .ok t
  := by
  obtain hsame | ⟨type, saved, now', id', c', -, hsaved, -, -⟩ := h.manager
  · rwa [← hsame]
  · obtain ⟨hvalid, ht⟩ := begin_eq_ok.mp hbegin
    obtain ⟨hname, -, htype⟩ := validate_eq_none.mp hvalid
    have hnew : w.taskId? = none → m.tasks.isTaken w.name none = false := by
      intro hnone
      simp [hsaved] at hnone
    exact begin_eq_ok.mpr ⟨validate_eq_none.mpr ⟨hname, hnew, htype⟩, ht⟩

/-- A trial stays pending when a save fails. -/
theorem Pending.attempt (h : x.Pending w m) {a : Attempt}
    (hfails : saveFailed (x.reply a).answer = true) :
  (x.attempt a).Pending w m
  := by
  have hconclusion := w.conclusion_commit x.manager a.dir a.first a.second a.now a.id
  have hattempt : x.attempt a
      = ⟨(x.reply a).wizard, (x.reply a).manager, x.events ++ (x.reply a).events⟩ := rfl
  rw [hattempt, h.events]
  rw [← h.reply_eq] at hconclusion
  generalize x.reply a = reply at hfails hconclusion
  cases hconclusion with
  | judged hbegin =>
    obtain ⟨p, rfl⟩ := begin_eq_error hbegin
    cases hfails
  | refused | missing | written | moved => cases hfails
  | unsaved => exact ⟨.inr ⟨_, rfl⟩, rfl, h.manager⟩
  | unmoved hbegin hc hm hfirst hsaved =>
    have ht := (begin_eq_ok.mp hbegin).2
    obtain ⟨hc', hmanager⟩ := h.writing ht hc
    obtain ⟨r, -, rfl⟩ := writing_eq_store hsaved hc
    exact ⟨.inr ⟨_, rfl⟩, rfl, .inr ⟨_, _, _, _, _, ht, hsaved, hc', hmanager⟩⟩

theorem Pending.run (h : x.Pending w m) {attempts : List Attempt} (hfails : x.Fails attempts) :
  (x.run attempts).Pending w m
  := by
  induction attempts generalizing x with
  | nil => exact h
  | cons a rest ih => exact ih (h.attempt hfails.1) hfails.2

/-- What a pending trial comes to when a commit succeeds. -/
theorem Pending.attempt_ok (h : x.Pending w m) {a : Attempt} {session : Session}
    (hok : (x.reply a).answer = .ok session) (dir : TaskDir) (now : Timestamp) :
  let straight := w.commit m dir .saved .saved now a.id
  let after := x.attempt a
  straight.answer = .ok session
    ∧ after.manager.tasks.undated = straight.manager.tasks.undated
    ∧ after.wizard.undated = straight.wizard.undated ∧ after.events = straight.events
  := by
  intro straight after
  have hconclusion := w.conclusion_commit x.manager a.dir a.first a.second a.now a.id
  have hafter : after
      = ⟨(x.reply a).wizard, (x.reply a).manager, x.events ++ (x.reply a).events⟩ := rfl
  rw [h.events, List.nil_append] at hafter
  rw [← h.reply_eq] at hconclusion
  rw [hafter]
  generalize x.reply a = reply at hok hconclusion
  cases hconclusion with
  | judged | refused | unsaved | missing | unmoved => cases hok
  | @written t c hbegin hc _ hplace =>
    obtain rfl := Except.ok.inj hok
    have hbegin' := h.begin hbegin
    obtain ⟨hc', -⟩ := h.writing (begin_eq_ok.mp hbegin).2 hc
    obtain ⟨d, hd, htasks, hvalue, hevents⟩ := undated_writing hc' now
    have hfolder : d.value.folder = c.value.folder := (congrArg Record.folder hvalue :)
    have hstraight : straight = _ :=
      commit_of_written hbegin' hd (by rwa [hfolder]) dir .saved
    obtain ⟨hwizard, hsession⟩ := undated_finish hvalue (w := w.settle m) (t := t)
    rw [hstraight, settle_of_begin hbegin, ← settle_of_begin hbegin']
    exact ⟨congrArg Except.ok hsession, htasks.symm, hwizard.symm, hevents.symm⟩
  | @moved t c saved c' r hbegin hc _ hsaved hplace hc' _ hr =>
    obtain rfl := Except.ok.inj hok
    have hbegin' := h.begin hbegin
    obtain ⟨hc₀, -⟩ := h.writing (begin_eq_ok.mp hbegin).2 hc
    obtain ⟨d, hd, htasks, hvalue, hevents⟩ := undated_writing hc₀ now
    have hfolder : d.value.folder = c.value.folder := (congrArg Record.folder hvalue :)
    have hid : d.value.id = c.value.id := (congrArg Record.id hvalue :)
    obtain ⟨d', hd', htasks', hmoved, hevents'⟩ := Tasks.undated_moveTask htasks hc' now
    obtain ⟨q, hq, hrecord⟩ : ∃ q, (if d'.value then d'.tasks.task? d.value.id else some d.value)
        = some q ∧ q.undated = r.undated := by
      rw [hmoved, hid]
      split at hr
      · next hyes =>
        rw [if_pos hyes]
        exact Tasks.undated_task? htasks' hr
      · next hno =>
        obtain rfl := Option.some.inj hr
        rw [if_neg hno]
        exact ⟨d.value, rfl, hvalue⟩
    rw [← hid] at hd'
    obtain ⟨hwizard', hmanager', hanswer', hevents₂⟩ :=
      commit_of_moved hbegin' hd hsaved (by rwa [hfolder]) hd' hq dir
    obtain ⟨hwizard, hsession⟩ := undated_finish hrecord (w := w.settle m) (t := t)
    simp only [straight]
    rw [hwizard', hmanager', hanswer', hevents₂, settle_of_begin hbegin,
      ← settle_of_begin hbegin', hevents, hevents']
    exact ⟨congrArg Except.ok hsession, htasks'.symm, hwizard.symm, rfl⟩

/-- Whatever becomes of the saves of a commit that is tried again until it succeeds: if it had
succeeded at first, at whatever time, with the id that the last commit brings, the tasks, the
folders and the wizard would be the same but for the dates, the session would be the same, and
others would have been told the same. -/
theorem trial_of_fails (w : Wizard) (m : Manager) (failed : List Attempt) (last : Attempt)
    (dir : TaskDir) (now : Timestamp) (hfailed : Fails ⟨w, m, []⟩ failed) (session : Session) :
  let x := run ⟨w, m, []⟩ failed
  let straight := w.commit m dir .saved .saved now last.id
  let after := x.attempt last
  (x.reply last).answer = .ok session →
  straight.answer = .ok session
    ∧ after.manager.tasks.undated = straight.manager.tasks.undated
    ∧ after.wizard.undated = straight.wizard.undated ∧ after.events = straight.events
  := by
  intro x straight after hok
  have hpending : x.Pending w m := (pending_start w m).run hfailed
  exact hpending.attempt_ok hok dir now

/-- A task gets another type and another folder: its first save fails, then its second one, then
again the first one, and then none. -/
theorem trial_of_fails_instance :
  let day (n : Nat) : Timestamp := ⟨2024, 2, n, 23, 59, 60, 1⟩
  let steps : List Manager.Step := [
    ⟨.createFolder "Nightly", day 1, .saved⟩, ⟨.createFolder "Weekly", day 1, .saved⟩,
    ⟨.createTask "t1" ⟨"shell", "Backup", "", some "Nightly", Span.zero,
      Properties.empty.insert "script" (.str "backup.sh")⟩, day 1, .saved⟩]
  let m := ((Manager.State.start "General" true TaskDir.new).run steps).manager
  let w : Wizard := { create ⟨[.mk ⟨"common", "Common", "", none, none⟩ []
      [⟨"dump", "Dump", "common", "", none, true, .anyDriver⟩]]⟩ with
    mode := .edit, record := m.tasks.task? "t1", taskType := some "dump", name := "Backup"
    folder := some "Weekly" }
  let failed : List Attempt := [
    ⟨TaskDir.removed, .notWritten .notFound, .saved, day 2, "t2"⟩,
    ⟨TaskDir.new, .saved, .notRenamed .isADirectory, day 3, "t3"⟩,
    ⟨TaskDir.new, .notRenamed .isADirectory, .saved, day 4, "t4"⟩]
  let last : Attempt := ⟨TaskDir.new, .saved, .saved, day 5, "t5"⟩
  let x := run ⟨w, m, []⟩ failed
  let straight := w.commit m TaskDir.new .saved .saved (day 2) "t5"
  let after := x.attempt last
  Fails ⟨w, m, []⟩ failed ∧ after.events = [.moved "t1" (some "Nightly") (some "Weekly")]
    ∧ ∃ session, (x.reply last).answer = .ok session
      ∧ straight.answer = .ok session
      ∧ after.manager.tasks.undated = straight.manager.tasks.undated
      ∧ after.wizard.undated = straight.wizard.undated ∧ after.events = straight.events
  := by
  refine ⟨?fails, ?told, ?same⟩
  case same =>
    apply exists_eq_ok_and
    · decide +kernel
    · apply trial_of_fails _ _ [_, _, _] ⟨_, _, _, _, "t5"⟩
      decide +kernel
  all_goals decide +kernel

end Trial

end Wizard

end TaskDesk
