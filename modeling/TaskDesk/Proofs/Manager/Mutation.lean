import TaskDesk.Manager.Basic
import Mathlib.Tactic.Common

/-!
# What comes out of a change of a manager

A change of a manager is refused, or it cannot be saved, or it goes through, and there is nothing
else that can come out of it: `mutate_cases`.  Either the tasks are kept and, if there is a task
file, saved, or it comes to nothing: `mutate_of_ok` and `mutate_of_error`.  It goes through exactly
if the change of the tasks does and the save does not fail.
-/

namespace TaskDesk

namespace Manager

variable {α : Type}

/-- The directory after a save that went well. -/
def savedDir (s : Tasks) : TaskDir :=
  ⟨true, some (.text s.snapshot.text), none⟩

/-- Tasks that cannot be changed are not saved. -/
theorem mutate_of_refused {m : Manager} {dir : TaskDir} {outcome : SaveOutcome}
    {change : Tasks → Except TaskError (Change α)} {e : TaskError}
    (h : change m.tasks = .error e) :
  m.mutate dir outcome change = ⟨m, dir, .error (.task e), []⟩
  := by
  rw [mutate, h]

/-- All that can come out of a change: the tasks are not to be changed so, they cannot be saved, or
they are changed. -/
theorem mutate_cases (m : Manager) (dir : TaskDir) (outcome : SaveOutcome)
    (change : Tasks → Except TaskError (Change α)) :
  (∃ e, change m.tasks = .error e
      ∧ m.mutate dir outcome change = ⟨m, dir, .error (.task e), []⟩)
    ∨ ∃ c, change m.tasks = .ok c
      ∧ ((∃ d e, m.isBacked = true ∧ outcome ≠ .saved ∧ d.file = dir.file
            ∧ m.mutate dir outcome change = ⟨m, d, .error (.storage e), []⟩)
        ∨ ((m.isBacked = true → outcome = .saved)
            ∧ m.mutate dir outcome change
              = ⟨{ m with tasks := c.tasks }, if m.isBacked then savedDir c.tasks else dir,
                  .ok c.value, c.events⟩))
  := by
  cases hc : change m.tasks with
  | error e => exact .inl ⟨e, rfl, mutate_of_refused hc⟩
  | ok c =>
    refine .inr ⟨c, rfl, ?_⟩
    rw [mutate, hc]
    cases m.isBacked with
    | false => exact .inr ⟨nofun, rfl⟩
    | true =>
      cases outcome with
      | saved => exact .inr ⟨fun _ => rfl, rfl⟩
      | notWritten e => exact .inl ⟨dir, .file e, rfl, nofun, rfl, rfl⟩
      | notRenamed e =>
        exact .inl ⟨{ dir with temporary := some (.text c.tasks.snapshot.text) }, .file e, rfl,
          nofun, rfl, rfl⟩

/-- A change that goes through keeps the new tasks, and the task file holds them. -/
theorem mutate_of_ok {m : Manager} {dir : TaskDir} {outcome : SaveOutcome}
    {change : Tasks → Except TaskError (Change α)} {a : α}
    (h : (m.mutate dir outcome change).answer = .ok a) :
  ∃ c, change m.tasks = .ok c
    ∧ m.mutate dir outcome change
      = ⟨{ m with tasks := c.tasks }, if m.isBacked then savedDir c.tasks else dir, .ok c.value,
          c.events⟩
    ∧ a = c.value
  := by
  obtain ⟨e, -, hreply⟩ | ⟨c, hc, ⟨d, e, -, -, -, hreply⟩ | ⟨-, hreply⟩⟩ :=
    m.mutate_cases dir outcome change
  · rw [hreply] at h
    cases h
  · rw [hreply] at h
    cases h
  · refine ⟨c, hc, hreply, ?_⟩
    rw [hreply] at h
    exact (Except.ok.inj h).symm

/-- A change that comes to nothing leaves the manager and the task file and tells nobody. -/
theorem mutate_of_error {m : Manager} {dir : TaskDir} {outcome : SaveOutcome}
    {change : Tasks → Except TaskError (Change α)} {e : ManagerError}
    (h : (m.mutate dir outcome change).answer = .error e) :
  (m.mutate dir outcome change).manager = m ∧ (m.mutate dir outcome change).dir.file = dir.file
    ∧ (m.mutate dir outcome change).events = []
  := by
  obtain ⟨e, -, hreply⟩ | ⟨c, -, ⟨d, e, -, -, hfile, hreply⟩ | ⟨-, hreply⟩⟩ :=
    m.mutate_cases dir outcome change
  · rw [hreply]
    exact ⟨rfl, rfl, rfl⟩
  · rw [hreply]
    exact ⟨rfl, hfile, rfl⟩
  · rw [hreply] at h
    cases h

/-- A change of the tasks goes through if the save does not fail. -/
theorem mutate_saved {m : Manager} {dir : TaskDir} {change : Tasks → Except TaskError (Change α)}
    {c : Change α} (h : change m.tasks = .ok c) :
  m.mutate dir .saved change
    = ⟨{ m with tasks := c.tasks }, if m.isBacked then savedDir c.tasks else dir, .ok c.value,
        c.events⟩
  := by
  rw [mutate, h]
  cases hb : m.isBacked <;> simp [TaskDir.save, savedDir]

/-- A change that goes through was saved, if there is a task file. -/
theorem saved_of_mutate_ok {m : Manager} {dir : TaskDir} {outcome : SaveOutcome}
    {change : Tasks → Except TaskError (Change α)} {a : α} (hm : m.isBacked = true)
    (h : (m.mutate dir outcome change).answer = .ok a) :
  outcome = .saved
  := by
  obtain ⟨e, -, hreply⟩ | ⟨c, -, ⟨d, e, -, -, -, hreply⟩ | ⟨hsaved, -⟩⟩ :=
    m.mutate_cases dir outcome change
  · rw [hreply] at h
    cases h
  · rw [hreply] at h
    cases h
  · exact hsaved hm

/-- The tasks after a change are those before it or those of the change. -/
theorem tasks_mutate (m : Manager) (dir : TaskDir) (outcome : SaveOutcome)
    (change : Tasks → Except TaskError (Change α)) :
  (m.mutate dir outcome change).manager = m
    ∨ ∃ c, change m.tasks = .ok c
      ∧ (m.mutate dir outcome change).manager = { m with tasks := c.tasks }
  := by
  obtain ⟨e, -, hreply⟩ | ⟨c, hc, ⟨d, e, -, -, -, hreply⟩ | ⟨-, hreply⟩⟩ :=
    m.mutate_cases dir outcome change
  · exact .inl (by rw [hreply])
  · exact .inl (by rw [hreply])
  · exact .inr ⟨c, hc, by rw [hreply]⟩

/-- What holds of the tasks and is kept by the change holds of the tasks afterwards. -/
theorem mutate_induction {m : Manager} {dir : TaskDir} {outcome : SaveOutcome}
    {change : Tasks → Except TaskError (Change α)} {motive : Tasks → Prop}
    (hbefore : motive m.tasks) (hchange : ∀ {c}, change m.tasks = .ok c → motive c.tasks) :
  motive (m.mutate dir outcome change).manager.tasks
  := by
  obtain h | ⟨c, hc, h⟩ := tasks_mutate m dir outcome change
  · rwa [h]
  · rw [h]
    apply hchange hc

end Manager

end TaskDesk
