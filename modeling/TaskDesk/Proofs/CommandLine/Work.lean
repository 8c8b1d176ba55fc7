import TaskDesk.CommandLine.Desk
import TaskDesk.Proofs.Manager.Mutation
import TaskDesk.Proofs.Tasks.Integrity

/-!
# What the parts of a command come to

The work of a command is run on a desk and comes to an answer and another desk: `run_bind` says
how parts are put together, and there is one equation for each part that commands are made of.  A
change of the tasks that is saved leaves the desk as `Desk.keep` says, and one that fails leaves the
tasks and the task file alone.
-/

namespace TaskDesk

/-- The tasks with a new folder, which is empty. -/
def Tasks.addFolder (s : Tasks) (name : String) : Tasks :=
  { s with folders := Keyed.put name (Folder.new name) s.folders }

namespace CommandLine

variable {α β ε : Type}

/-! ### Putting parts together -/

@[simp]
theorem run_get (d : Desk) :
  (get : Work Desk).run.run d = (.ok d, d)
  := rfl

@[simp]
theorem run_set (d d' : Desk) :
  (set d' : Work PUnit).run.run d = (.ok ⟨⟩, d')
  := rfl

theorem run_bind (x : Work α) (f : α → Work β) (d : Desk) :
  (x >>= f).run.run d
    = match x.run.run d with
      | (.ok a, d') => (f a).run.run d'
      | (.error e, d') => (.error e, d')
  := by
  change (ExceptT.bindCont f (x.run.run d).1).run (x.run.run d).2 = _
  obtain ⟨answer, d'⟩ := x.run.run d
  cases answer <;> rfl

/-- If parts put together go through, each of them does. -/
theorem run_bind_eq_ok {x : Work α} {f : α → Work β} {d d' : Desk} {b : β}
    (h : (x >>= f).run.run d = (.ok b, d')) :
  ∃ a d₁, x.run.run d = (.ok a, d₁) ∧ (f a).run.run d₁ = (.ok b, d')
  := by
  rw [run_bind] at h
  split at h
  · next a d₁ hx => exact ⟨a, d₁, hx, h⟩
  · cases h

theorem run_need (f : Failure) (a : Option α) (d : Desk) :
  (need f a).run.run d = (a.elim (.error f) .ok, d)
  := by
  cases a <;> rfl

theorem run_check (cause : ε → Cause) (x : Except ε α) (d : Desk) :
  (check cause x).run.run d = (x.mapError fun e => Failure.of (cause e), d)
  := by
  cases x <;> rfl

/-! ### Changes of the tasks -/

/-- The desk after its tasks were changed and saved. -/
def Desk.keep (d : Desk) (s : Tasks) : Desk :=
  { d with manager := { d.manager with tasks := s }, dir := Manager.savedDir s }

/-- A change of the tasks of a task file that cannot go wrong otherwise is refused, or the desk
keeps it. -/
theorem run_change_saved {change' : Tasks → Except TaskError (Change α)} {d : Desk}
    (hbacked : d.manager.isBacked = true) (hsaved : d.dir.outcome = .saved) :
  (change change').run.run d
    = match change' d.manager.tasks with
      | .error e => (.error (Failure.of (.manager (.task e))), d)
      | .ok c => (.ok c.value, d.keep c.tasks)
  := by
  simp only [change, run_bind, run_get, run_set, run_check, hsaved]
  cases hc : change' d.manager.tasks with
  | error e =>
    rw [Manager.mutate_of_refused hc]
    rfl
  | ok c =>
    rw [Manager.mutate_saved hc, if_pos hbacked]
    rfl

/-- A change of the tasks that fails leaves the tasks and the task file alone. -/
theorem run_change_of_error {change' : Tasks → Except TaskError (Change α)} {d d' : Desk}
    {f : Failure} (h : (change change').run.run d = (.error f, d')) :
  d'.manager = d.manager ∧ d'.dir.file = d.dir.file
  := by
  simp only [change, run_bind, run_get, run_set, run_check] at h
  obtain ⟨hanswer, rfl⟩ := Prod.mk.inj h
  cases hreply : (d.manager.mutate d.dir d.dir.outcome change').answer with
  | error e =>
    obtain ⟨hmanager, hfile, -⟩ := Manager.mutate_of_error hreply
    exact ⟨hmanager, hfile⟩
  | ok a => simp [hreply, Except.mapError] at hanswer

/-- A change of the tasks that goes through is kept. -/
theorem run_change_of_ok {change' : Tasks → Except TaskError (Change α)} {d d' : Desk} {a : α}
    (h : (change change').run.run d = (.ok a, d')) :
  ∃ c, change' d.manager.tasks = .ok c ∧ a = c.value
    ∧ d'.manager = { d.manager with tasks := c.tasks }
  := by
  simp only [change, run_bind, run_get, run_set, run_check] at h
  obtain ⟨hanswer, rfl⟩ := Prod.mk.inj h
  cases hreply : (d.manager.mutate d.dir d.dir.outcome change').answer with
  | error e => simp [hreply, Except.mapError] at hanswer
  | ok b =>
    obtain ⟨c, hc, hmutate, rfl⟩ := Manager.mutate_of_ok hreply
    rw [hreply] at hanswer
    obtain rfl := Except.ok.inj hanswer
    refine ⟨c, hc, rfl, ?_⟩
    rw [hmutate]

/-- A change of the tasks of a task file that goes through was saved. -/
theorem saved_of_run_change {change' : Tasks → Except TaskError (Change α)} {d d' : Desk} {a : α}
    (hbacked : d.manager.isBacked = true) (h : (change change').run.run d = (.ok a, d')) :
  d.dir.outcome = .saved
  := by
  simp only [change, run_bind, run_get, run_set, run_check] at h
  obtain ⟨hanswer, -⟩ := Prod.mk.inj h
  cases hreply : (d.manager.mutate d.dir d.dir.outcome change').answer with
  | error e => simp [hreply, Except.mapError] at hanswer
  | ok a => exact Manager.saved_of_mutate_ok hbacked hreply

/-! ### Parts of commands -/

theorem run_findTask (name : String) (d : Desk) :
  (findTask name).run.run d
    = match d.manager.tasks.taskNamed? name with
      | none => (.error (.saying
          ("no task named '" ++ name ++ "' in project '" ++ d.settings.project.name ++ "'")), d)
      | some r => (.ok r, d)
  := by
  simp only [findTask, run_bind, run_get, run_need]
  cases d.manager.tasks.taskNamed? name <;> rfl

/-- The folder that is to be made for a command: one that is named and not there. -/
def Desk.newFolder? (d : Desk) (name : Option String) : Option String :=
  name.filter fun n => n ≠ "" && (d.manager.tasks.folder? n).isNone

theorem newFolder?_eq_some {d : Desk} {name : Option String} {n : String} :
  d.newFolder? name = some n ↔ name = some n ∧ n ≠ "" ∧ d.manager.tasks.folder? n = none
  := by
  simp [Desk.newFolder?, Option.filter_eq_some_iff]

theorem run_ensureFolder (name : Option String) (d : Desk) :
  (ensureFolder name).run.run d
    = match d.newFolder? name with
      | none => (.ok (), d)
      | some n => (change (Tasks.createFolder n)).run.run d
  := by
  simp only [ensureFolder, run_bind, run_get]
  cases name with
  | none => rfl
  | some n =>
    by_cases h : n ≠ "" ∧ (d.manager.tasks.folder? n).isNone = true
    · have hnew : d.newFolder? (some n) = some n := by
        simpa [Desk.newFolder?] using h
      simp only [hnew]
      rw [if_pos h]
    · have hnone : d.newFolder? (some n) = none := by
        simpa [Desk.newFolder?] using h
      simp only [hnone]
      rw [if_neg h]
      rfl

/-- Making a folder where saves do not fail succeeds. -/
theorem run_ensureFolder_saved {name : Option String} {d : Desk}
    (hbacked : d.manager.isBacked = true) (hsaved : d.dir.outcome = .saved) :
  (ensureFolder name).run.run d
    = (.ok (), (d.newFolder? name).elim d fun n => d.keep (d.manager.tasks.addFolder n))
  := by
  rw [run_ensureFolder]
  cases hnew : d.newFolder? name with
  | none => rfl
  | some n =>
    obtain ⟨-, -, habsent⟩ := newFolder?_eq_some.mp hnew
    have hmade : d.manager.tasks.createFolder n
        = .ok ⟨d.manager.tasks.addFolder n, (), [.created n]⟩ :=
      Tasks.createFolder_eq_ok.mpr ⟨habsent, rfl⟩
    simp only
    rw [run_change_saved hbacked hsaved, hmade]
    rfl

theorem run_selectType (w : Wizard) (id : String) (d : Desk) :
  (selectType w id).run.run d
    = (((w.selectType d.manager id).map Wizard.Selection.wizard).mapError
        fun e => Failure.of (.wizard e), d)
  := by
  simp only [selectType, run_bind, run_get, run_check]
  cases w.selectType d.manager id <;> rfl

theorem run_commit (done : String) (w : Wizard) (d : Desk) :
  (commit done w).run.run d
    = let r := w.commit d.manager d.dir d.dir.outcome d.dir.outcome d.now d.freshId
      ((r.answer.map fun s => line (done ++ " task " ++ s.taskId ++ " (" ++ s.taskType.name ++ ")")
        ).mapError fun e => Failure.of (.wizard e), { d with manager := r.manager, dir := r.dir })
  := by
  simp only [commit, run_bind, run_get, run_set, run_check]
  cases (w.commit d.manager d.dir d.dir.outcome d.dir.outcome d.now d.freshId).answer <;> rfl

end CommandLine

end TaskDesk
