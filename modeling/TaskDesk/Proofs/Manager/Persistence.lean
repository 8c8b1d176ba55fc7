import TaskDesk.Proofs.Manager.Runs
import TaskDesk.Proofs.Tasks.Persistence

/-!
# The task file follows the tasks

Whenever a manager of a task file answers that a change went through, the task file holds the
tasks: a manager opened on it has under each id the record as stored and under each name the same
folder.  This is so for every task file that can be opened, whatever became of earlier saves and
whatever others did to the directory since.
-/

namespace TaskDesk

open TaskDesk.Text

namespace Manager

/-- Whether an action keeps the ids of records and puts in only what can be stored. -/
def Action.isStorable : Action → Bool
  | .createFolder _ => true
  | .createTask _ t => t.limit.seconds ≤ maxWord && t.properties.isPlain Record.propertyLevels
  | .updateTask _ edits =>
    edits.all fun e => e.keepsId && e.isStorable (Record.propertyLevels - 1)
  | .moveTask _ _ => true

/-- Whether a step is made at a valid time and puts in only what can be stored. -/
def Step.isStorable (step : Step) : Bool :=
  step.now.valid && step.action.isStorable

/-- What can happen to a manager and its directory: a step, or something that others do to the
directory. -/
inductive Event where
  | step (step : Step)
  | disturbance (dir : TaskDir)

/-- Whether an event is no step, or one that puts in only what can be stored. -/
def Event.isStorable : Event → Bool
  | .step st => st.isStorable
  | .disturbance _ => true

/-- The state after an event. -/
def State.after (s : State) : Event → State
  | .step step => s.apply step
  | .disturbance dir => { s with dir }

/-- The state after events, the first one first. -/
def State.happen (s : State) (events : List Event) : State :=
  events.foldl State.after s

/-- What a step answers. -/
def State.answer (s : State) (step : Step) : Except ManagerError Unit :=
  (s.manager.mutate s.dir step.outcome (step.action.change s.manager.project step.now)).answer

/-- The manager of a project's task file with tasks that can be stored. -/
structure Filed (project : String) (m : Manager) : Prop where
  project_eq : m.project = project
  isBacked : m.isBacked = true
  storable : m.tasks.Storable

theorem storable_revised {now : Timestamp} (hnow : now.valid = true) {edits : List Record.Edit}
    {r : Record} (hr : r.Storable Record.propertyLevels)
    (h : ∀ e ∈ edits, e.isStorable (Record.propertyLevels - 1) = true) :
  (Tasks.revised now (fun r => r.run now edits) r).Storable Record.propertyLevels
  := by
  have hrun := hr.run hnow h
  rw [Tasks.revised]
  split
  · exact hrun
  · exact hrun.setFolder hnow r.folder

/-- An action that puts in only what can be stored keeps tasks that can be stored. -/
theorem Action.storable_change {project : String} {now : Timestamp} {a : Action} {s : Tasks}
    {c : Change Unit} (hs : s.Storable) (hnow : now.valid = true) (ha : a.isStorable = true)
    (h : a.change project now s = .ok c) :
  c.tasks.Storable
  := by
  cases a with
  | createFolder name =>
    obtain ⟨-, rfl⟩ := Tasks.createFolder_eq_ok.mp h
    apply hs.createFolder name
  | createTask id t =>
    obtain ⟨_, hc, rfl⟩ := map_eq_ok_iff.mp h
    obtain ⟨-, -, rfl⟩ := Tasks.createTask_eq_ok.mp hc
    rw [isStorable, Bool.and_eq_true, decide_eq_true_eq] at ha
    apply hs.enroll
    exact ⟨hnow, hnow, ha.1, ha.2⟩
  | updateTask id edits =>
    obtain ⟨c', hc, rfl⟩ := map_eq_ok_iff.mp h
    obtain ⟨r, hr, hvalue, -, -, htasks, -⟩ := Tasks.updateTask_eq_ok.mp hc
    simp only [isStorable, List.all_eq_true, Bool.and_eq_true] at ha
    have hid : c'.value.id = id := by
      rw [hvalue, Tasks.id_revised now fun r => Record.id_run now r fun e he => (ha e he).1,
        hs.id_eq hr]
    subst hid
    rw [htasks]
    apply hs.store
    rw [hvalue]
    apply storable_revised hnow (hs.record hr) fun e he => (ha e he).2
  | moveTask id name =>
    obtain ⟨_, hc, rfl⟩ := map_eq_ok_iff.mp h
    obtain ⟨r, hr, ⟨-, rfl⟩ | ⟨-, rfl⟩⟩ := Tasks.moveTask_eq_ok.mp hc
    · exact hs
    · apply hs.relocate hnow hr

/-! ### Opening -/

theorem open?_eq_ok {project : String} {dir : TaskDir} {m : Manager} :
  open? project dir = .ok m ↔ ∃ t, dir.load = .ok t ∧ m = ⟨project, Tasks.ofSnapshot t, true⟩
  := by
  rw [open?]
  cases dir.load with
  | error e => simp
  | ok t => simp [eq_comm]

/-- A manager that was opened has records under their own ids and folders under their own names. -/
theorem indexed_of_open? {project : String} {dir : TaskDir} {m : Manager}
    (h : open? project dir = .ok m) :
  m.tasks.Indexed
  := by
  obtain ⟨t, -, rfl⟩ := open?_eq_ok.mp h
  apply Tasks.indexed_ofSnapshot

theorem load_of_read? {dir : TaskDir} {text : String} {t : Snapshot}
    (h : dir.file = some (.text text)) (hread : Snapshot.read? text = some t) :
  dir.load = .ok t
  := by
  simp [TaskDir.load, h, Entry.read, hread]

theorem read?_of_load {dir : TaskDir} {text : String} {t : Snapshot}
    (h : dir.file = some (.text text)) (hload : dir.load = .ok t) :
  Snapshot.read? text = some t
  := by
  simp only [TaskDir.load, h, Entry.read] at hload
  split at hload
  · next hread => rw [hread, Except.ok.inj hload]
  · cases hload

/-- What is loaded is nothing, or what some text is read as. -/
theorem empty_or_read?_of_load {dir : TaskDir} {t : Snapshot} (h : dir.load = .ok t) :
  t = Snapshot.empty ∨ ∃ text, Snapshot.read? text = some t
  := by
  rw [TaskDir.load] at h
  split at h
  · exact .inl (Except.ok.inj h).symm
  · split at h
    · cases h
    · split at h
      · next hread =>
        obtain rfl := Except.ok.inj h
        exact .inr ⟨_, hread⟩
      · cases h

/-- A manager that could be opened is one whose tasks can be stored, if the properties of its
tasks are without doubles. -/
theorem filed_of_open? {project : String} {dir : TaskDir} {m : Manager}
    (h : open? project dir = .ok m) (hexact : m.tasks.IsExact) :
  m.Filed project
  := by
  obtain ⟨t, hload, rfl⟩ := open?_eq_ok.mp h
  refine ⟨rfl, rfl, ?_⟩
  obtain rfl | ⟨text, hread⟩ := empty_or_read?_of_load hload
  · exact Tasks.storable_empty
  · exact Tasks.storable_ofSnapshot hread hexact

/-- A manager opened on the saved tasks has the records as stored and the same folders. -/
theorem open?_savedDir (project : String) {s : Tasks} (h : s.Storable) :
  ∃ m, open? project (savedDir s) = .ok m
    ∧ (∀ id, m.tasks.task? id = (s.task? id).map Record.stored)
    ∧ (∀ n, m.tasks.folder? n = s.folder? n)
  := by
  obtain ⟨t, hread, htasks, hfolders⟩ := h.read?_text
  have hload : (savedDir s).load = .ok t := load_of_read? rfl hread
  exact ⟨_, open?_eq_ok.mpr ⟨t, hload, rfl⟩, htasks, hfolders⟩

/-! ### Runs -/

theorem State.filed_after {project : String} {s : State} (hs : s.manager.Filed project)
    {e : Event} (he : e.isStorable = true) :
  (s.after e).manager.Filed project
  := by
  cases e with
  | disturbance dir => exact hs
  | step step =>
    rw [Event.isStorable, Step.isStorable, Bool.and_eq_true] at he
    obtain h | ⟨c, hc, h⟩ := tasks_mutate s.manager s.dir step.outcome
      (step.action.change s.manager.project step.now)
    · rw [after, apply, h]
      exact hs
    · rw [after, apply, h]
      exact ⟨hs.project_eq, hs.isBacked, Action.storable_change hs.storable he.1 he.2 hc⟩

theorem State.filed_happen {project : String} {s : State} (hs : s.manager.Filed project)
    {events : List Event} (he : ∀ e ∈ events, e.isStorable = true) :
  (s.happen events).manager.Filed project
  := by
  induction events generalizing s with
  | nil => exact hs
  | cons e rest ih =>
    rw [List.forall_mem_cons] at he
    exact ih (filed_after hs he.1) he.2

/-- After a step that went through, the directory is that of the saved tasks. -/
theorem State.dir_apply_of_ok {project : String} {s : State} (hs : s.manager.Filed project)
    {step : Step} (h : s.answer step = .ok ()) :
  (s.apply step).dir = savedDir (s.apply step).manager.tasks
  := by
  obtain ⟨c, -, hreply, -⟩ := mutate_of_ok h
  rw [apply, hreply, hs.isBacked]
  rfl

/-- Whatever happened since a manager was opened, after each step that it answers to have gone
through the task file can be opened, and there is under each id the record as stored, under each
name the same folder, and nothing else. -/
theorem State.open?_of_answer_ok {project : String} {dir : TaskDir} {m : Manager}
    (hopen : open? project dir = .ok m) (hexact : m.tasks.IsExact) (told : List FolderEvent)
    {events : List Event} (hevents : ∀ e ∈ events, e.isStorable = true) {step : Step}
    (hstep : step.isStorable = true)
    (hok : ((State.mk m dir told).happen events).answer step = .ok ()) :
  let s := ((State.mk m dir told).happen events).apply step
  ∃ text m', s.dir.file = some (.text text) ∧ open? project s.dir = .ok m'
    ∧ (∀ id, m'.tasks.task? id = (s.manager.tasks.task? id).map Record.stored)
    ∧ (∀ n, m'.tasks.folder? n = s.manager.tasks.folder? n)
  := by
  intro s
  have hbefore : ((State.mk m dir told).happen events).manager.Filed project :=
    filed_happen (filed_of_open? hopen hexact) hevents
  have hafter : s.manager.Filed project := filed_after hbefore hstep (e := .step step)
  have hdir : s.dir = savedDir s.manager.tasks := dir_apply_of_ok hbefore hok
  obtain ⟨m', hm', htasks, hfolders⟩ := open?_savedDir project hafter.storable
  rw [hdir]
  exact ⟨_, m', rfl, hm', htasks, hfolders⟩

/-- A file written by hand, a save that fails, the file taken away, and a task with a limit of a
fraction of a second. -/
theorem State.open?_of_answer_ok_instance :
  let text := "\x7b\"tasks\":[[\"t1\",\"Dump\",\"\",\"sh\",null,0,\x7b\"n\":-1\x7d,
    \"2024-03-01T00:59:60+01:00\",\"2024-02-29T23:59:60Z\"]],
    \"folders\":[[\"Nightly\",[\"t9\",\"t1\",\"t9\"]]]\x7d"
  let dir : TaskDir := ⟨true, some (.text text), none⟩
  let day : Timestamp := ⟨2024, 3, 1, 12, 0, 0, 7⟩
  let events : List Event := [
    .step ⟨.createFolder "Weekly", day, .notRenamed .isADirectory⟩,
    .disturbance TaskDir.removed]
  let step : Step := ⟨.updateTask "t1" [.limit ⟨5, 7⟩, .name "Backup"], day, .saved⟩
  ∃ m, open? "General" dir = .ok m
    ∧ ∃ text m', (((State.mk m dir []).happen events).apply step).dir.file = some (.text text)
      ∧ open? "General" (((State.mk m dir []).happen events).apply step).dir = .ok m'
      ∧ (∀ id, m'.tasks.task? id
          = ((((State.mk m dir []).happen events).apply step).manager.tasks.task? id).map
              Record.stored)
      ∧ (∀ n, m'.tasks.folder? n
          = (((State.mk m dir []).happen events).apply step).manager.tasks.folder? n)
  := by
  intro text dir day events step
  have hread : (Snapshot.read? text).isSome = true := by decide +kernel
  have hload : dir.load = .ok ((Snapshot.read? text).getD Snapshot.empty) := by
    obtain ⟨t, ht⟩ := Option.isSome_iff_exists.mp hread
    rw [ht]
    exact load_of_read? rfl ht
  have hopen : open? "General" dir
      = .ok ⟨"General", Tasks.ofSnapshot ((Snapshot.read? text).getD Snapshot.empty), true⟩ :=
    open?_eq_ok.mpr ⟨_, hload, rfl⟩
  have hexact : (Tasks.ofSnapshot ((Snapshot.read? text).getD Snapshot.empty)).IsExact :=
    Tasks.isExact_of_records (by decide +kernel)
  have hevents : ∀ e ∈ events, e.isStorable = true := by decide +kernel
  have hstep : step.isStorable = true := by decide +kernel
  refine ⟨_, hopen, ?_⟩
  apply open?_of_answer_ok hopen hexact [] hevents hstep
  decide +kernel

end Manager

end TaskDesk
