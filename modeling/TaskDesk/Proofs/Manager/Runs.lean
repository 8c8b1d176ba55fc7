import TaskDesk.Proofs.Manager.Mutation
import TaskDesk.Proofs.Task.Edits
import TaskDesk.Proofs.Tasks.Integrity

/-!
# Runs of a manager

An action is admissible if the id of a new task is unused and the changes of a record keep
its id.  Along every run of admissible actions that starts without tasks, whatever becomes
of the saves, the records and the folders fit together, and no task and no folder is lost.
-/

namespace TaskDesk

theorem map_eq_ok_iff {ε α β : Type} {f : α → β} {x : Except ε α} {b : β} :
  x.map f = .ok b ↔ ∃ a, x = .ok a ∧ b = f a
  := by
  cases x with
  | error e => simp [Except.map]
  | ok a => simp [Except.map, eq_comm]

theorem exists_eq_ok_and {ε α : Type} {x : Except ε α} {p : α → Prop} (h : x.isOk = true)
    (hp : ∀ a, x = .ok a → p a) :
  ∃ a, x = .ok a ∧ p a
  := by
  cases x with
  | error e => cases h
  | ok a => exact ⟨a, rfl, hp a rfl⟩

theorem eq_ok_getD {ε α : Type} {x : Except ε α} (h : x.isOk = true) (a : α) :
  x = .ok (x.toOption.getD a)
  := by
  cases x with
  | error e => cases h
  | ok b => rfl

namespace Tasks

/-- Every record of `s` has a record with its id in `t`, and every folder of `s` is in `t`. -/
structure Within (s t : Tasks) : Prop where
  task : ∀ {id r}, s.task? id = some r → ∃ q, t.task? id = some q ∧ q.id = r.id
  folder : ∀ {n f}, s.folder? n = some f → ∃ g, t.folder? n = some g

theorem Within.refl (s : Tasks) :
  s.Within s
  where
  task {_ r} hr := ⟨r, hr, rfl⟩
  folder {_ f} hf := ⟨f, hf⟩

theorem Within.trans {s t u : Tasks} (h : s.Within t) (h' : t.Within u) :
  s.Within u
  where
  task hr := by
    obtain ⟨q, hq, hid⟩ := h.task hr
    obtain ⟨p, hp, hid'⟩ := h'.task hq
    exact ⟨p, hp, hid'.trans hid⟩
  folder hf := by
    obtain ⟨g, hg⟩ := h.folder hf
    apply h'.folder hg

theorem within_store {s : Tasks} {id : String} {r : Record}
    (h : ∀ {q}, s.task? id = some q → r.id = q.id) :
  s.Within (s.store id r)
  where
  task {i q} hq := by
    rw [task?_store]
    split
    · next hi =>
      rw [hi] at hq
      exact ⟨r, rfl, h hq⟩
    · exact ⟨q, hq, rfl⟩
  folder {_ f} hf := ⟨f, hf⟩

theorem within_changeFolder (s : Tasks) (name : Option String) (f : Folder → Folder) :
  s.Within (s.changeFolder name f)
  where
  task {id r} hr := ⟨r, by rwa [task?_changeFolder], rfl⟩
  folder {n g} hg := by
    rw [folder?_changeFolder, hg]
    split
    · exact ⟨f g, rfl⟩
    · exact ⟨g, rfl⟩

theorem within_createFolder (s : Tasks) (name : String) :
  s.Within { s with folders := Keyed.put name (Folder.new name) s.folders }
  where
  task {id r} hr := ⟨r, hr, rfl⟩
  folder {n f} hf := by
    rw [folder?_createFolder]
    split
    · exact ⟨_, rfl⟩
    · exact ⟨f, hf⟩

end Tasks

namespace Manager

/-- An action is admissible if the id of a new task is unused and its changes of a record keep
the id of the record. -/
def Action.Admissible (s : Tasks) : Action → Prop
  | .createTask id _ => id ≠ "" ∧ s.task? id = none
  | .updateTask _ edits => ∀ e ∈ edits, e.keepsId = true
  | _ => True

instance (s : Tasks) : (a : Action) → Decidable (a.Admissible s)
  | .createFolder _ => inferInstanceAs (Decidable True)
  | .createTask id _ => inferInstanceAs (Decidable (id ≠ "" ∧ s.task? id = none))
  | .updateTask _ edits => inferInstanceAs (Decidable (∀ e ∈ edits, e.keepsId = true))
  | .moveTask _ _ => inferInstanceAs (Decidable True)

/-- An admissible action keeps records under their own ids and folders under their own names. -/
theorem Action.indexed_change {project : String} {now : Timestamp} {a : Action} {s : Tasks}
    {c : Change Unit} (hs : s.Indexed) (ha : a.Admissible s)
    (h : a.change project now s = .ok c) :
  c.tasks.Indexed
  := by
  cases a with
  | createFolder name => apply hs.of_createFolder h
  | createTask id t =>
    obtain ⟨_, hc, rfl⟩ := map_eq_ok_iff.mp h
    apply hs.of_createTask hc
  | updateTask id edits =>
    obtain ⟨_, hc, rfl⟩ := map_eq_ok_iff.mp h
    apply hs.of_updateTask (fun r => Record.id_run now r ha) hc
  | moveTask id name =>
    obtain ⟨_, hc, rfl⟩ := map_eq_ok_iff.mp h
    apply hs.of_moveTask hc

/-- An admissible action keeps the records and the folders fitting together. -/
theorem Action.sound_change {project : String} {now : Timestamp} {a : Action} {s : Tasks}
    {c : Change Unit} (hs : s.Sound) (ha : a.Admissible s)
    (h : a.change project now s = .ok c) :
  c.tasks.Sound
  := by
  cases a with
  | createFolder name => apply hs.of_createFolder h
  | createTask id t =>
    obtain ⟨_, hc, rfl⟩ := map_eq_ok_iff.mp h
    apply hs.of_createTask ha.1 ha.2 hc
  | updateTask id edits =>
    obtain ⟨_, hc, rfl⟩ := map_eq_ok_iff.mp h
    apply hs.of_updateTask (fun r => Record.id_run now r ha) hc
  | moveTask id name =>
    obtain ⟨_, hc, rfl⟩ := map_eq_ok_iff.mp h
    apply hs.of_moveTask hc

/-- An admissible action loses no task and no folder. -/
theorem Action.within_change {project : String} {now : Timestamp} {a : Action} {s : Tasks}
    {c : Change Unit} (ha : a.Admissible s) (h : a.change project now s = .ok c) :
  s.Within c.tasks
  := by
  cases a with
  | createFolder name =>
    obtain ⟨-, rfl⟩ := Tasks.createFolder_eq_ok.mp h
    apply Tasks.within_createFolder
  | createTask id t =>
    obtain ⟨_, hc, rfl⟩ := map_eq_ok_iff.mp h
    obtain ⟨-, -, rfl⟩ := Tasks.createTask_eq_ok.mp hc
    apply (Tasks.within_changeFolder s _ _).trans
    apply Tasks.within_store
    intro q hq
    rw [Tasks.task?_changeFolder] at hq
    simp [Tasks.newRecord, ha.2] at hq
  | updateTask id edits =>
    obtain ⟨c', hc, rfl⟩ := map_eq_ok_iff.mp h
    obtain ⟨r, hr, hvalue, -, -, htasks, -⟩ := Tasks.updateTask_eq_ok.mp hc
    rw [htasks]
    apply Tasks.within_store
    intro q hq
    rw [hr] at hq
    obtain rfl := Option.some.inj hq
    rw [hvalue, Tasks.id_revised now fun r => Record.id_run now r ha]
  | moveTask id name =>
    obtain ⟨_, hc, rfl⟩ := map_eq_ok_iff.mp h
    obtain ⟨r, hr, ⟨-, rfl⟩ | ⟨-, rfl⟩⟩ := Tasks.moveTask_eq_ok.mp hc
    · apply Tasks.Within.refl
    · apply (Tasks.within_changeFolder s _ _).trans
      apply (Tasks.within_changeFolder _ _ _).trans
      apply Tasks.within_store
      intro q hq
      rw [Tasks.task?_changeFolder, Tasks.task?_changeFolder, hr] at hq
      obtain rfl := Option.some.inj hq
      rfl

/-! ### Runs -/

/-- A state in which nothing was done yet. -/
def State.start (project : String) (isBacked : Bool) (dir : TaskDir) : State :=
  ⟨⟨project, Tasks.empty, isBacked⟩, dir, []⟩

/-- Whether each of the steps is admissible when its turn comes. -/
def State.Admits : State → List Step → Prop
  | _, [] => True
  | s, step :: rest => step.action.Admissible s.manager.tasks ∧ (s.apply step).Admits rest

instance State.decidableAdmits : (s : State) → (steps : List Step) → Decidable (s.Admits steps)
  | _, [] => inferInstanceAs (Decidable True)
  | s, step :: rest =>
    have := decidableAdmits (s.apply step) rest
    inferInstanceAs
      (Decidable (step.action.Admissible s.manager.tasks ∧ (s.apply step).Admits rest))

theorem State.admits_append {s : State} {first second : List Step} :
  s.Admits (first ++ second) ↔ s.Admits first ∧ (s.run first).Admits second
  := by
  induction first generalizing s with
  | nil => simp [Admits, run]
  | cons step rest ih => simp [Admits, run, ih, and_assoc]

/-- What tasks have and every admissible action keeps, they have after a run. -/
theorem State.run_induction {motive : Tasks → Prop}
    (hchange : ∀ {project : String} {now : Timestamp} {a : Action} {s : Tasks} {c : Change Unit},
      motive s → a.Admissible s → a.change project now s = .ok c → motive c.tasks)
    {s : State} {steps : List Step} (hs : motive s.manager.tasks) (h : s.Admits steps) :
  motive (s.run steps).manager.tasks
  := by
  induction steps generalizing s with
  | nil => exact hs
  | cons step rest ih =>
    apply ih _ h.2
    apply mutate_induction hs
    intro c hc
    exact hchange hs h.1 hc

theorem State.within_apply {s : State} {step : Step}
    (h : step.action.Admissible s.manager.tasks) :
  s.manager.tasks.Within (s.apply step).manager.tasks
  := by
  apply mutate_induction (Tasks.Within.refl s.manager.tasks)
  intro c hc
  apply Action.within_change h hc

theorem State.sound_run {s : State} {steps : List Step} (hs : s.manager.tasks.Sound)
    (h : s.Admits steps) :
  (s.run steps).manager.tasks.Sound
  := run_induction Action.sound_change hs h

theorem State.within_run {s : State} {steps : List Step} (h : s.Admits steps) :
  s.manager.tasks.Within (s.run steps).manager.tasks
  := by
  induction steps generalizing s with
  | nil => apply Tasks.Within.refl
  | cons step rest ih => exact (within_apply h.1).trans (ih h.2)

/-- In every state of a run that starts without tasks the records and the folders fit together,
each task is in at most one folder, and whatever is done next loses no task and no folder and
changes no id. -/
theorem State.sound_of_start (project : String) (isBacked : Bool) (dir : TaskDir)
    (done next : List Step) (h : (start project isBacked dir).Admits (done ++ next)) :
  let s := (start project isBacked dir).run done
  s.manager.tasks.Sound
    ∧ (∀ n m id, s.manager.tasks.Lists n id → s.manager.tasks.Lists m id → n = m)
    ∧ s.manager.tasks.Within (s.run next).manager.tasks
  := by
  intro s
  obtain ⟨hdone, hnext⟩ := admits_append.mp h
  have hs : s.manager.tasks.Sound := sound_run Tasks.sound_empty hdone
  refine ⟨hs, ?_, within_run hnext⟩
  intro n m id hn hm
  obtain ⟨r, hr⟩ := hs.listed hn
  rw [← hs.folder_iff hr] at hn hm
  exact Option.some.inj (hn.symm.trans hm)

/-- A run with a save that fails, a rename, a change that tries to move a task, and a move. -/
theorem State.sound_of_start_instance :
  let day : Timestamp := ⟨2024, 2, 29, 23, 59, 60, 1⟩
  let task (name : String) (folder : Option String) : NewTask :=
    ⟨"shell", name, "", folder, Span.zero, Properties.empty⟩
  let done : List Step := [
    ⟨.createFolder "Nightly", day, .saved⟩,
    ⟨.createTask "t1" (task "Backup" (some "Nightly")), day, .saved⟩,
    ⟨.createTask "t2" (task "Restore" none), day, .notRenamed .isADirectory⟩,
    ⟨.createTask "t2" (task "Restore" (some "Weekly")), day, .saved⟩]
  let next : List Step := [
    ⟨.updateTask "t2" [.name "Backup"], day, .saved⟩,
    ⟨.updateTask "t1" [.name "Dump", .folder none], day, .saved⟩,
    ⟨.moveTask "t1" none, day, .saved⟩]
  (start "General" true TaskDir.new).Admits (done ++ next)
    ∧ ((start "General" true TaskDir.new).run done).manager.tasks.Sound
    ∧ (∀ n m id, ((start "General" true TaskDir.new).run done).manager.tasks.Lists n id →
        ((start "General" true TaskDir.new).run done).manager.tasks.Lists m id → n = m)
    ∧ ((start "General" true TaskDir.new).run done).manager.tasks.Within
        (((start "General" true TaskDir.new).run done).run next).manager.tasks
  := by
  intro day task done next
  have h : (start "General" true TaskDir.new).Admits (done ++ next) := by decide +kernel
  obtain ⟨hsound, hone, hwithin⟩ := sound_of_start "General" true TaskDir.new done next h
  exact ⟨h, hsound, hone, hwithin⟩

end Manager

end TaskDesk
