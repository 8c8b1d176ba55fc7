import TaskDesk.Proofs.Tasks.Changes
import Mathlib.Tactic.Common

/-!
# Tasks but for their dates

`undated` takes the dates off a record, off tasks and off a change.  When a change is made shows in
the dates only, so changes of the same tasks at two times come to the same but for the dates:
`undated_createTask` and `undated_moveTask`.
-/

namespace TaskDesk

/-- The record without its dates. -/
def Record.undated (r : Record) : Record :=
  { r with createdAt := default, updatedAt := default }

namespace Tasks

/-- The tasks without the dates of the records. -/
def undated (s : Tasks) : Tasks :=
  { s with records := s.records.map fun e => (e.1, e.2.undated) }

@[simp]
theorem folders_undated (s : Tasks) :
  s.undated.folders = s.folders
  := rfl

@[simp]
theorem task?_undated (s : Tasks) (id : String) :
  s.undated.task? id = (s.task? id).map Record.undated
  := Keyed.find?_map Record.undated id s.records

@[simp]
theorem undated_store (s : Tasks) (id : String) (r : Record) :
  (s.store id r).undated = s.undated.store id r.undated
  := by
  simp [store, undated, Keyed.map_put]

@[simp]
theorem undated_changeFolder (s : Tasks) (name : Option String) (f : Folder → Folder) :
  (s.changeFolder name f).undated = s.undated.changeFolder name f
  := by
  cases name with
  | none => rfl
  | some name =>
    rw [changeFolder, changeFolder]
    have hfolder : s.undated.folder? name = s.folder? name := rfl
    rw [hfolder]
    cases s.folder? name <;> rfl

/-- Tasks that are alike but for their dates have alike records under an id. -/
theorem undated_task? {s s' : Tasks} (hs : s'.undated = s.undated) {id : String} {r : Record}
    (hr : s.task? id = some r) :
  ∃ r', s'.task? id = some r' ∧ r'.undated = r.undated
  := by
  have htask := congrArg (fun t => t.task? id) hs
  simp only [task?_undated, hr, Option.map_some, Option.map_eq_some_iff] at htask
  exact htask

theorem undated_enroll {s : Tasks} {r r' : Record} (hr : r'.undated = r.undated) :
  (s.enroll r').undated = (s.enroll r).undated
  := by
  have hid : r'.id = r.id := (congrArg Record.id hr :)
  have hfolder : r'.folder = r.folder := (congrArg Record.folder hr :)
  rw [enroll, enroll, undated_store, undated_store, hid, hfolder, hr]

/-- Making a task at another time. -/
theorem undated_createTask {s : Tasks} {project : String} {now : Timestamp} {id : String}
    {t : NewTask} {c : Change Record} (h : s.createTask project now id t = .ok c)
    (now' : Timestamp) :
  ∃ c', s.createTask project now' id t = .ok c' ∧ c'.tasks.undated = c.tasks.undated
    ∧ c'.value.undated = c.value.undated ∧ c'.events = c.events
  := by
  obtain ⟨hname, hfree, rfl⟩ := createTask_eq_ok.mp h
  refine ⟨_, createTask_eq_ok.mpr ⟨hname, hfree, rfl⟩, ?_, rfl, rfl⟩
  apply undated_enroll
  rfl

/-- Moving a task at another time, among tasks that are alike but for their dates. -/
theorem undated_moveTask {s s' : Tasks} (hs : s'.undated = s.undated) {now : Timestamp}
    {id : String} {name : Option String} {c : Change Bool} (h : s.moveTask now id name = .ok c)
    (now' : Timestamp) :
  ∃ c', s'.moveTask now' id name = .ok c' ∧ c'.tasks.undated = c.tasks.undated
    ∧ c'.value = c.value ∧ c'.events = c.events
  := by
  obtain ⟨r, hr, hmove⟩ := moveTask_eq_ok.mp h
  obtain ⟨r', hr', hrecord⟩ := undated_task? hs hr
  have hfolder : r'.folder = r.folder := (congrArg Record.folder hrecord :)
  have hfolders : s'.folders = s.folders := (congrArg Tasks.folders hs :)
  have hdestination : s'.destination name = s.destination name := by
    rw [destination, hfolders, destination]
  obtain ⟨hsame, rfl⟩ | ⟨hother, rfl⟩ := hmove
  · refine ⟨_, moveTask_eq_ok.mpr ⟨r', hr', .inl ⟨?_, rfl⟩⟩, hs, rfl, rfl⟩
    rw [hdestination, hfolder, hsame]
  · refine ⟨_, moveTask_eq_ok.mpr ⟨r', hr', .inr ⟨?_, rfl⟩⟩, ?_, rfl, ?_⟩
    · rwa [hdestination, hfolder]
    · have hmoved : (r'.setFolder now' (s.destination name)).undated
          = (r.setFolder now (s.destination name)).undated := by
        have hset (q : Record) (time : Timestamp) :
            (q.setFolder time (s.destination name)).undated
              = { q.undated with folder := s.destination name } := rfl
        rw [hset, hset, hrecord]
      simp only [relocate, undated_store, undated_changeFolder, hs, hfolder, hdestination, hmoved]
    · rw [hfolder, hdestination]

end Tasks

end TaskDesk
