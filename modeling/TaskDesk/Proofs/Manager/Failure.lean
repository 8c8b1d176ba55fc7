import TaskDesk.Proofs.Manager.Mutation

/-!
# Calls that fail

A save goes as far as the directory lets it, unless a `Mishap` stops it before; a snapshot always
has a text, so nothing else can go wrong.  A call that fails, for whatever reason, leaves the tasks
and the task file as they were and tells nobody.  All that it may leave behind is a temporary file,
which no later call depends on: whatever is done afterwards comes to what it would have come to
without the call, `attempt_of_error`.
-/

namespace TaskDesk

/-- What can stop a save apart from the state of the directory, in its first step or its second. -/
inductive Mishap where
  | write (e : FileError)
  | rename (e : FileError)

namespace TaskDir

/-- How far a save comes in a directory. -/
def outcomeWith (d : TaskDir) : Option Mishap → SaveOutcome
  | none => d.outcome
  | some (.write e) => .notWritten e
  | some (.rename e) =>
    match d.outcome with
    | .notWritten e => .notWritten e
    | _ => .notRenamed e

/-- Whether two directories are the same but for the content of a temporary file. -/
structure Agrees (d d' : TaskDir) : Prop where
  isThere : d'.isThere = d.isThere
  file : d'.file = d.file
  blocked : d'.temporary = some .directory ↔ d.temporary = some .directory

theorem Agrees.refl (d : TaskDir) :
  d.Agrees d
  := ⟨rfl, rfl, Iff.rfl⟩

variable {d d' : TaskDir} {s : Snapshot}

theorem Agrees.outcome (h : d.Agrees d') :
  d'.outcome = d.outcome
  := by
  rw [TaskDir.outcome, TaskDir.outcome]
  simp only [h.isThere, h.file, h.blocked]

theorem Agrees.outcomeWith (h : d.Agrees d') (mishap : Option Mishap) :
  d'.outcomeWith mishap = d.outcomeWith mishap
  := by
  cases mishap with
  | none => exact h.outcome
  | some mishap =>
    cases mishap with
    | write e => rfl
    | rename e => rw [TaskDir.outcomeWith, TaskDir.outcomeWith, h.outcome]

/-- Saving comes to the same in directories that agree, and they agree afterwards. -/
theorem Agrees.save (h : d.Agrees d') (outcome : SaveOutcome) (s : Snapshot) :
  (d'.save outcome s).2 = (d.save outcome s).2
    ∧ (d.save outcome s).1.Agrees (d'.save outcome s).1
  := by
  cases outcome with
  | saved => exact ⟨rfl, .refl _⟩
  | notWritten e => exact ⟨rfl, h⟩
  | notRenamed e => exact ⟨rfl, h.isThere, h.file, Iff.rfl⟩

/-- A temporary file was written only where no directory is in its place. -/
theorem temporary_of_notRenamed {mishap : Option Mishap} {e : FileError}
    (h : d.outcomeWith mishap = .notRenamed e) :
  d.temporary ≠ some .directory
  := by
  intro hblocked
  have hwritten : ∃ e, d.outcome = .notWritten e := by
    rw [outcome]
    cases d.isThere with
    | false => exact ⟨_, rfl⟩
    | true => exact ⟨_, if_pos hblocked⟩
  obtain ⟨e', he'⟩ := hwritten
  cases mishap with
  | none => simp [outcomeWith, he'] at h
  | some mishap => cases mishap <;> simp [outcomeWith, he'] at h

/-- A save that fails leaves the directory as it was, but for a temporary file. -/
theorem agrees_save_of_error {mishap : Option Mishap} {e : StorageError}
    (h : (d.save (d.outcomeWith mishap) s).2 = .error e) :
  d.Agrees (d.save (d.outcomeWith mishap) s).1
  := by
  cases houtcome : d.outcomeWith mishap with
  | saved => simp [houtcome, save] at h
  | notWritten e => exact .refl d
  | notRenamed e =>
    have hfree := temporary_of_notRenamed houtcome
    exact ⟨rfl, rfl, by simp [save, hfree]⟩

end TaskDir

namespace Manager

section Mutate

variable {α : Type} {m : Manager} {dir dir' : TaskDir} {outcome : SaveOutcome}
  {change : Tasks → Except TaskError (Change α)}

/-- A change of the tasks in a task file is kept if its save goes well. -/
theorem mutate_of_backed {c : Change α} (hc : change m.tasks = .ok c) (hm : m.isBacked = true) :
  m.mutate dir outcome change
    = let saved := dir.save outcome c.tasks.snapshot
      match saved.2 with
      | .ok () => ⟨{ m with tasks := c.tasks }, saved.1, .ok c.value, c.events⟩
      | .error e => ⟨m, saved.1, .error (.storage e), []⟩
  := by
  rw [mutate, hc]
  simp only [hm, if_true]
  obtain ⟨d, _ | _⟩ := dir.save outcome c.tasks.snapshot <;> rfl

/-- A change comes to the same in directories that agree, and they agree afterwards. -/
theorem mutate_congr (h : dir.Agrees dir') (m : Manager) (outcome : SaveOutcome)
    (change : Tasks → Except TaskError (Change α)) :
  let r := m.mutate dir outcome change
  let r' := m.mutate dir' outcome change
  r'.manager = r.manager ∧ r'.answer = r.answer ∧ r'.events = r.events ∧ r.dir.Agrees r'.dir
  := by
  intro r r'
  have hr : r = m.mutate dir outcome change := rfl
  have hr' : r' = m.mutate dir' outcome change := rfl
  cases hc : change m.tasks with
  | error e =>
    rw [hr, hr', mutate_of_refused hc, mutate_of_refused hc]
    exact ⟨rfl, rfl, rfl, h⟩
  | ok c =>
    cases hm : m.isBacked with
    | false =>
      rw [mutate, hc] at hr hr'
      simp only [hm] at hr hr'
      rw [hr, hr']
      exact ⟨rfl, rfl, rfl, h⟩
    | true =>
      obtain ⟨hsave, hagrees⟩ := h.save outcome c.tasks.snapshot
      rw [mutate_of_backed hc hm] at hr hr'
      simp only [hsave] at hr'
      cases hanswer : (dir.save outcome c.tasks.snapshot).2 with
      | ok u =>
        simp only [hanswer] at hr hr'
        rw [hr, hr']
        exact ⟨rfl, rfl, rfl, hagrees⟩
      | error e =>
        simp only [hanswer] at hr hr'
        rw [hr, hr']
        exact ⟨rfl, rfl, rfl, hagrees⟩

/-- A change that comes to nothing leaves the directory as it was, but for a temporary file. -/
theorem agrees_mutate_of_error {mishap : Option Mishap} {e : ManagerError}
    (h : (m.mutate dir (dir.outcomeWith mishap) change).answer = .error e) :
  dir.Agrees (m.mutate dir (dir.outcomeWith mishap) change).dir
  := by
  cases hc : change m.tasks with
  | error e =>
    rw [mutate_of_refused hc]
    exact .refl dir
  | ok c =>
    cases hm : m.isBacked with
    | false => simp [mutate, hc, hm] at h
    | true =>
      rw [mutate_of_backed hc hm] at h ⊢
      cases hsave : (dir.save (dir.outcomeWith mishap) c.tasks.snapshot).2 with
      | ok u => simp [hsave] at h
      | error e =>
        simp only [hsave]
        exact TaskDir.agrees_save_of_error hsave

end Mutate

/-! ### Calls -/

/-- What a manager can be called for, with all that it is given. -/
inductive Call where
  | createFolder (name : String)
  | createTask (now : Timestamp) (id : String) (task : NewTask)
  | updateTask (now : Timestamp) (id : String) (f : Record → Record)
  | moveTask (now : Timestamp) (id : String) (folder : Option String)

/-- What a call answers if it does not fail. -/
def Call.Value : Call → Type
  | .createFolder _ => Unit
  | .createTask _ _ _ => Record
  | .updateTask _ _ _ => Record
  | .moveTask _ _ _ => Bool

/-- The change that a call makes. -/
def Call.change (project : String) : (c : Call) → Tasks → Except TaskError (Change c.Value)
  | .createFolder name => Tasks.createFolder name
  | .createTask now id task => Tasks.createTask project now id task
  | .updateTask now id f => Tasks.updateTask project now id f
  | .moveTask now id folder => Tasks.moveTask now id folder

/-- A call with what stops its save, if anything does. -/
structure Attempt where
  call : Call
  mishap : Option Mishap

/-- What comes out of an attempt. -/
def State.reply (s : State) (a : Attempt) : Reply a.call.Value :=
  s.manager.mutate s.dir (s.dir.outcomeWith a.mishap) (a.call.change s.manager.project)

/-- The state after an attempt. -/
def State.attempt (s : State) (a : Attempt) : State :=
  ⟨(s.reply a).manager, (s.reply a).dir, s.events ++ (s.reply a).events⟩

/-- An attempt, or something that others do to the directory. -/
inductive Incident where
  | attempt (a : Attempt)
  | disturbance (dir : TaskDir)

/-- The state after an incident. -/
def State.meet (s : State) : Incident → State
  | .attempt a => s.attempt a
  | .disturbance dir => { s with dir }

/-- The state after incidents, the first one first. -/
def State.live (s : State) (incidents : List Incident) : State :=
  incidents.foldl State.meet s

/-- Whether two states are the same but for the content of a temporary file. -/
structure State.Agrees (s s' : State) : Prop where
  manager : s'.manager = s.manager
  dir : s.dir.Agrees s'.dir
  events : s'.events = s.events

/-- In states that agree an attempt comes to the same, and they agree afterwards. -/
theorem State.Agrees.attempt {s s' : State} (h : s.Agrees s') (a : Attempt) :
  (s'.reply a).answer = (s.reply a).answer ∧ (s'.reply a).events = (s.reply a).events
    ∧ (s.attempt a).Agrees (s'.attempt a)
  := by
  have hreply' : s'.reply a = s.manager.mutate s'.dir (s.dir.outcomeWith a.mishap)
      (a.call.change s.manager.project) := by
    rw [State.reply, h.manager, h.dir.outcomeWith]
  obtain ⟨hmanager, hanswer, hevents, hdir⟩ := mutate_congr h.dir s.manager
    (s.dir.outcomeWith a.mishap) (a.call.change s.manager.project)
  rw [← hreply'] at hmanager hanswer hevents hdir
  have htold : (s'.reply a).events = (s.reply a).events := hevents
  refine ⟨hanswer, htold, hmanager, hdir, ?_⟩
  rw [State.attempt, State.attempt, h.events, htold]

theorem State.Agrees.meet {s s' : State} (h : s.Agrees s') (i : Incident) :
  (s.meet i).Agrees (s'.meet i)
  := by
  cases i with
  | attempt a => exact (h.attempt a).2.2
  | disturbance dir => exact ⟨h.manager, .refl dir, h.events⟩

theorem State.Agrees.live {s s' : State} (h : s.Agrees s') (incidents : List Incident) :
  (s.live incidents).Agrees (s'.live incidents)
  := by
  induction incidents generalizing s s' with
  | nil => exact h
  | cons i rest ih => exact ih (h.meet i)

theorem State.agrees_attempt_of_error {s : State} {a : Attempt} {e : ManagerError}
    (h : (s.reply a).answer = .error e) :
  s.Agrees (s.attempt a)
  := by
  obtain ⟨hmanager, -, hevents⟩ := mutate_of_error h
  refine ⟨hmanager, agrees_mutate_of_error h, ?_⟩
  have hnone : (s.reply a).events = [] := hevents
  rw [State.attempt, hnone, List.append_nil]

/-- A call that fails leaves the tasks and the task file as they were and tells nobody.  Whatever
happens after it comes to the same tasks, the same file and the same news as if the call had not
been made, and each call then gets the answer that it would have got. -/
theorem State.attempt_of_error (s : State) (a : Attempt) {e : ManagerError}
    (h : (s.reply a).answer = .error e) :
  ((s.attempt a).manager = s.manager ∧ (s.attempt a).dir.file = s.dir.file
      ∧ (s.attempt a).events = s.events)
    ∧ ∀ later,
      let t := s.live later
      let t' := (s.attempt a).live later
      t'.manager = t.manager ∧ t'.dir.file = t.dir.file ∧ t'.events = t.events
        ∧ ∀ next, (t'.reply next).answer = (t.reply next).answer
          ∧ (t'.reply next).events = (t.reply next).events
  := by
  have hagrees : s.Agrees (s.attempt a) := agrees_attempt_of_error h
  refine ⟨⟨hagrees.manager, hagrees.dir.file, hagrees.events⟩, ?_⟩
  intro later t t'
  have hlater : t.Agrees t' := hagrees.live later
  refine ⟨hlater.manager, hlater.dir.file, hlater.events, ?_⟩
  intro next
  obtain ⟨hanswer, hevents, -⟩ := hlater.attempt next
  exact ⟨hanswer, hevents⟩

/-- A move whose save fails when the temporary file is there already. -/
theorem State.attempt_of_error_instance :
  let day : Timestamp := ⟨2024, 2, 29, 23, 59, 60, 1⟩
  let backup : Record := { Record.new day "Backup" "shell" with id := "t1" }
  let tasks : Tasks := ⟨[("t1", backup)], [("Nightly", Folder.new "Nightly")]⟩
  let s : State := ⟨⟨"General", tasks, true⟩, TaskDir.new, [.created "Nightly"]⟩
  let a : Attempt := ⟨.moveTask day "t1" (some "Nightly"), some (.rename .isADirectory)⟩
  (s.reply a).answer = .error (.storage (.file .isADirectory))
    ∧ (s.attempt a).dir.temporary.isSome
    ∧ ((s.attempt a).manager = s.manager ∧ (s.attempt a).dir.file = s.dir.file
      ∧ (s.attempt a).events = s.events)
    ∧ ∀ later,
      let t := s.live later
      let t' := (s.attempt a).live later
      t'.manager = t.manager ∧ t'.dir.file = t.dir.file ∧ t'.events = t.events
        ∧ ∀ next, (t'.reply next).answer = (t.reply next).answer
          ∧ (t'.reply next).events = (t.reply next).events
  := by
  intro day backup tasks s a
  have h : (s.reply a).answer = .error (.storage (.file .isADirectory)) := rfl
  exact ⟨h, rfl, attempt_of_error s a h⟩

end Manager

end TaskDesk
