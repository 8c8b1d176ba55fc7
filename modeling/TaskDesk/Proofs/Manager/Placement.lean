import TaskDesk.Proofs.Manager.Runs

/-!
# Which folders tasks are in

Along every run that starts without tasks the folder of a record is there and has a name, so the
record would stay in it if it were moved there: `destination_of_placed`.
-/

namespace TaskDesk

namespace Tasks

/-- The records and the folders fit together, and no record is in a folder without a name. -/
structure Placed (s : Tasks) : Prop extends Sound s where
  folder_ne_empty : ∀ {id r}, s.task? id = some r → r.folder ≠ some ""

theorem placed_empty :
  empty.Placed
  where
  toSound := sound_empty
  folder_ne_empty {id r} hr := by cases hr

theorem destination_ne_empty (s : Tasks) (name : Option String) :
  s.destination name ≠ some ""
  := by
  intro h
  exact (destination_eq_some.mp h).2.1 rfl

/-- Tasks stay placed when a record that is in no folder without a name is put under an id. -/
theorem Placed.of_put {s s' : Tasks} (h : s.Placed) (hsound : s'.Sound) {id : String} {r : Record}
    (hrecords : s'.records = Keyed.put id r s.records) (hfolder : r.folder ≠ some "") :
  s'.Placed
  where
  toSound := hsound
  folder_ne_empty {i q} hq := by
    rw [task?, hrecords] at hq
    obtain ⟨-, rfl⟩ | ⟨-, hq⟩ := Keyed.find?_put_eq_some.mp hq
    · exact hfolder
    · exact h.folder_ne_empty hq

theorem Placed.of_createTask {s : Tasks} (h : s.Placed) {project : String} {now : Timestamp}
    {id : String} {t : NewTask} {c : Change Record} (hid : id ≠ "") (hfresh : s.task? id = none)
    (hc : s.createTask project now id t = .ok c) :
  c.tasks.Placed
  := by
  apply h.of_put (h.toSound.of_createTask hid hfresh hc) (records_createTask hc).1
  obtain ⟨-, -, rfl⟩ := createTask_eq_ok.mp hc
  apply destination_ne_empty

theorem Placed.of_updateTask {s : Tasks} (h : s.Placed) {project : String} {now : Timestamp}
    {id : String} {f : Record → Record} {c : Change Record} (hf : ∀ r, (f r).id = r.id)
    (hc : s.updateTask project now id f = .ok c) :
  c.tasks.Placed
  := by
  apply h.of_put (h.toSound.of_updateTask hf hc) (records_updateTask hc).1
  obtain ⟨current, hcurrent, hvalue, -⟩ := updateTask_eq_ok.mp hc
  rw [hvalue, folder_revised]
  exact h.folder_ne_empty hcurrent

theorem Placed.of_moveTask {s : Tasks} (h : s.Placed) {now : Timestamp} {id : String}
    {name : Option String} {c : Change Bool} (hc : s.moveTask now id name = .ok c) :
  c.tasks.Placed
  := by
  have hsound : c.tasks.Sound := h.toSound.of_moveTask hc
  obtain ⟨r, hr, ⟨-, rfl⟩ | ⟨-, rfl⟩⟩ := moveTask_eq_ok.mp hc
  · exact h
  · have hrecords : (s.relocate now id r (s.destination name)).records
        = Keyed.put id (r.setFolder now (s.destination name)) s.records := by
      simp [relocate, store]
    apply h.of_put hsound hrecords
    apply destination_ne_empty

/-- A record is in the folder that its destination is. -/
theorem destination_of_placed {s : Tasks} (h : s.Placed) {id : String} {r : Record}
    (hr : s.task? id = some r) :
  s.destination r.folder = r.folder
  := by
  cases hfolder : r.folder with
  | none => rfl
  | some n =>
    obtain ⟨f, hf, -⟩ := (h.folder_iff hr).mp hfolder
    have hn : n ≠ "" := by
      rintro rfl
      exact h.folder_ne_empty hr hfolder
    exact destination_eq_some.mpr ⟨rfl, hn, f, hf⟩

end Tasks

namespace Manager

/-- An admissible action keeps tasks placed. -/
theorem Action.placed_change {project : String} {now : Timestamp} {a : Action} {s : Tasks}
    {c : Change Unit} (hs : s.Placed) (ha : a.Admissible s) (h : a.change project now s = .ok c) :
  c.tasks.Placed
  := by
  cases a with
  | createFolder name =>
    have hsound : c.tasks.Sound := hs.toSound.of_createFolder h
    obtain ⟨-, rfl⟩ := Tasks.createFolder_eq_ok.mp h
    exact ⟨hsound, hs.folder_ne_empty⟩
  | createTask id t =>
    obtain ⟨_, hc, rfl⟩ := map_eq_ok_iff.mp h
    apply hs.of_createTask ha.1 ha.2 hc
  | updateTask id edits =>
    obtain ⟨_, hc, rfl⟩ := map_eq_ok_iff.mp h
    apply hs.of_updateTask (fun r => Record.id_run now r ha) hc
  | moveTask id name =>
    obtain ⟨_, hc, rfl⟩ := map_eq_ok_iff.mp h
    apply hs.of_moveTask hc

theorem State.placed_run {s : State} {steps : List Step} (hs : s.manager.tasks.Placed)
    (h : s.Admits steps) :
  (s.run steps).manager.tasks.Placed
  := run_induction Action.placed_change hs h

end Manager

end TaskDesk
