import TaskDesk.Proofs.Manager.Failure
import TaskDesk.Proofs.Wizard.Outcome

/-!
# Those who listen to folder events

A listener keeps a picture of the folders and brings it up to date with each event that it hears.
A change of the tasks tells at most one event, and that one says what became of the folders and
where the task was and is: `Reports`.  Making folders, making, changing and moving tasks all do
so, and so does a commit, which moves a saved task only after a change that tells nothing.  So
the picture never differs from the folders of the manager: `State.heard_turns`.
-/

namespace TaskDesk

/-- The picture of the folders, by their names, after an event. -/
def FolderEvent.heard (known : String → Option Folder) : FolderEvent → String → Option Folder
  | .created name => fun n => if n = name then some (Folder.new name) else known n
  | .moved id source target => fun n =>
    let left := if source = some n then (known n).map fun f => f.remove id else known n
    if target = some n then left.map fun f => f.add id else left

namespace Tasks

/-- What is told of a change is at most one event, which turns the folders before into those
after and says of the task that it moves where it was and is; any other task stays. -/
structure Reports (before after : Tasks) (told : List FolderEvent) : Prop where
  folders : told.foldl FolderEvent.heard before.folder? = after.folder?
  length_le : told.length ≤ 1
  moved : ∀ {id source target}, .moved id source target ∈ told →
    source ≠ target ∧ before.home? id = source ∧ after.home? id = target
  still : ∀ {id}, (∀ source target, .moved id source target ∉ told) →
    after.home? id = before.home? id

variable {s t u : Tasks} {project : String} {now : Timestamp} {id : String}

/-- Nothing is told if every folder and every task is as before. -/
theorem reports_nil (hfolder : t.folder? = s.folder?) (hhome : ∀ i, t.home? i = s.home? i) :
  s.Reports t []
  where
  folders := hfolder.symm
  length_le := by simp
  moved h := by simp at h
  still {i} _ := hhome i

theorem Reports.refl (s : Tasks) :
  s.Reports s []
  := reports_nil rfl fun _ => rfl

/-- A change about which nothing is told may come before another one. -/
theorem Reports.of_nil {told : List FolderEvent} (h : s.Reports t []) (h' : t.Reports u told) :
  s.Reports u told
  := by
  have hfolders : s.folder? = t.folder? := h.folders
  have hhome (i : String) : t.home? i = s.home? i := h.still (by simp)
  constructor
  · rw [hfolders]
    exact h'.folders
  · exact h'.length_le
  · intro i source target hmoved
    rw [← hhome i]
    exact h'.moved hmoved
  · intro i hi
    rw [h'.still hi, hhome i]

/-- A task of which alone the folder changes is told to have moved. -/
theorem reports_moved {source target : Option String} (hne : source ≠ target)
    (hsource : s.home? id = source) (htarget : t.home? id = target)
    (hother : ∀ i, i ≠ id → t.home? i = s.home? i)
    (hfolder : (FolderEvent.moved id source target).heard s.folder? = t.folder?) :
  s.Reports t [.moved id source target]
  where
  folders := hfolder
  length_le := by simp
  moved h := by
    obtain ⟨rfl, rfl, rfl⟩ : _ ∧ _ ∧ _ := by simpa using h
    exact ⟨hne, hsource, htarget⟩
  still {i} h := by
    apply hother
    rintro rfl
    simp at h

/-! ### The four changes -/

theorem reports_createFolder {name : String} {c : Change Unit} (h : s.createFolder name = .ok c) :
  s.Reports c.tasks c.events
  := by
  obtain ⟨-, rfl⟩ := createFolder_eq_ok.mp h
  constructor
  · funext n
    exact (folder?_createFolder s name n).symm
  · simp
  · simp
  · intro i _
    rfl

theorem reports_createTask {task : NewTask} {c : Change Record} (hfresh : s.task? id = none)
    (h : s.createTask project now id task = .ok c) :
  s.Reports c.tasks c.events
  := by
  obtain ⟨-, -, rfl⟩ := createTask_eq_ok.mp h
  obtain ⟨r, hr⟩ : ∃ r, r = newRecord now id task (s.destination task.folder) := ⟨_, rfl⟩
  have hid : r.id = id := by
    rw [hr]
    rfl
  rw [← hr, enrollment]
  subst hid
  have hbefore : s.home? r.id = none := by rw [home?, hfresh, Option.bind_none]
  have hafter : (s.enroll r).home? r.id = r.folder := home?_eq (by rw [task?_enroll, if_pos rfl])
  have hother (i : String) (hi : i ≠ r.id) : (s.enroll r).home? i = s.home? i := by
    rw [home?, task?_enroll, if_neg hi, home?]
  cases hfolder : r.folder with
  | none =>
    apply reports_nil
    · rw [enroll, hfolder]
      rfl
    · intro i
      by_cases hi : i = r.id
      · rw [hi, hafter, hfolder, hbefore]
      · exact hother i hi
  | some n =>
    rw [hfolder] at hafter
    apply reports_moved (by simp) hbefore hafter hother
    funext m
    simp [FolderEvent.heard, enroll, hfolder]

theorem reports_updateTask {f : Record → Record} {c : Change Record}
    (h : s.updateTask project now id f = .ok c) :
  s.Reports c.tasks [] ∧ c.events = []
  := by
  obtain ⟨current, hcurrent, hvalue, -, -, htasks, hevents⟩ := updateTask_eq_ok.mp h
  refine ⟨?_, hevents⟩
  have hhome (i : String) : c.tasks.home? i = s.home? i := by
    rw [htasks, home?, task?_store]
    split
    · next hi => rw [hi, home?_eq hcurrent, Option.bind_some, hvalue, folder_revised]
    · rfl
  apply reports_nil _ hhome
  rw [htasks]
  rfl

theorem reports_moveTask {name : Option String} {c : Change Bool}
    (h : s.moveTask now id name = .ok c) :
  s.Reports c.tasks c.events
  := by
  obtain ⟨r, hr, ⟨-, rfl⟩ | ⟨hmoves, rfl⟩⟩ := moveTask_eq_ok.mp h
  · exact .refl s
  · have hafter : (s.relocate now id r (s.destination name)).home? id = s.destination name := by
      rw [home?, task?_relocate, if_pos rfl, Option.bind_some]
      rfl
    apply reports_moved hmoves.symm (home?_eq hr) hafter
    · intro i hi
      rw [home?, task?_relocate, if_neg hi, home?]
    · funext m
      simp only [FolderEvent.heard, relocate, folder?_store, folder?_changeFolder]

end Tasks

/-! ### Calls and commits -/

/-- What is told of a call is what became of the folders, whatever becomes of its save. -/
theorem Manager.reports_mutate {α : Type} {m : Manager} {dir : TaskDir} {outcome : SaveOutcome}
    {change : Tasks → Except TaskError (Change α)}
    (h : ∀ {c}, change m.tasks = .ok c → m.tasks.Reports c.tasks c.events) :
  let reply := m.mutate dir outcome change
  m.tasks.Reports reply.manager.tasks reply.events
  := by
  intro reply
  cases hanswer : reply.answer with
  | error e =>
    obtain ⟨hmanager, -, hevents⟩ := mutate_of_error hanswer
    rw [hmanager, hevents]
    exact .refl m.tasks
  | ok a =>
    obtain ⟨c, hc, hreply, -⟩ := mutate_of_ok hanswer
    have hsame : reply.manager.tasks = c.tasks ∧ reply.events = c.events := by
      rw [show reply = m.mutate dir outcome change from rfl, hreply]
      exact ⟨rfl, rfl⟩
    rw [hsame.1, hsame.2]
    exact h hc

namespace Wizard

variable {w : Wizard} {project : String} {now : Timestamp} {id : String} {s s' : Tasks}

theorem reports_writing {t : TaskType} {c : Change Record}
    (hfresh : w.taskId? = none → s.task? id = none) (h : w.writing t project now id s = .ok c) :
  s.Reports c.tasks c.events ∧ (w.taskId? ≠ none → c.events = [])
  := by
  rw [writing] at h
  split at h
  · next hnew => exact ⟨Tasks.reports_createTask (hfresh hnew) h, fun hsaved => absurd hnew hsaved⟩
  · obtain ⟨hreports, hevents⟩ := Tasks.reports_updateTask h
    rw [hevents]
    exact ⟨hreports, fun _ => rfl⟩

/-- However a commit ends, what is told is what became of the folders. -/
theorem Ending.reports {events : List FolderEvent} {ok : Bool}
    (hfresh : w.taskId? = none → s.task? id = none)
    (h : w.Ending project now id s s' events ok) :
  s.Reports s' events
  := by
  cases h with
  | refused => exact .refl s
  | written _ hc _ => exact (reports_writing hfresh hc).1
  | stuck _ _ hc => exact (reports_writing hfresh hc).1
  | moved hsaved _ hc hc' =>
    obtain ⟨hreports, hsilent⟩ := reports_writing hfresh hc
    have hevents := hsilent (by simp [hsaved])
    rw [hevents] at hreports ⊢
    rw [List.nil_append]
    exact hreports.of_nil (Tasks.reports_moveTask hc')

end Wizard

/-! ### Listening -/

namespace Manager

/-- A call of a manager or a commit of a wizard, with what becomes of the saves. -/
inductive Turn where
  | call (c : Call) (outcome : SaveOutcome)
  | commit (w : Wizard) (first second : SaveOutcome) (now : Timestamp) (id : String)

/-- If a turn makes a task, the id that it brings is unused. -/
def Turn.Fresh (s : Tasks) : Turn → Prop
  | .call (.createTask _ id _) _ => s.task? id = none
  | .call _ _ => True
  | .commit w _ _ _ id => w.taskId? = none → s.task? id = none

instance (s : Tasks) : (turn : Turn) → Decidable (turn.Fresh s)
  | .call (.createFolder _) _ => inferInstanceAs (Decidable True)
  | .call (.createTask _ id _) _ => inferInstanceAs (Decidable (s.task? id = none))
  | .call (.updateTask _ _ _) _ => inferInstanceAs (Decidable True)
  | .call (.moveTask _ _ _) _ => inferInstanceAs (Decidable True)
  | .commit w _ _ _ id => inferInstanceAs (Decidable (w.taskId? = none → s.task? id = none))

/-- The state after a turn. -/
def State.turn (s : State) : Turn → State
  | .call c outcome =>
    let reply := s.manager.mutate s.dir outcome (c.change s.manager.project)
    ⟨reply.manager, reply.dir, s.events ++ reply.events⟩
  | .commit w first second now id =>
    let reply := w.commit s.manager s.dir first second now id
    ⟨reply.manager, reply.dir, s.events ++ reply.events⟩

/-- The state after turns, the first one first. -/
def State.turns (s : State) (todo : List Turn) : State :=
  todo.foldl State.turn s

/-- Whether each of the turns brings an unused id, if it makes a task. -/
def State.AllFresh : State → List Turn → Prop
  | _, [] => True
  | s, turn :: rest => turn.Fresh s.manager.tasks ∧ (s.turn turn).AllFresh rest

instance State.decidableAllFresh : (s : State) → (todo : List Turn) → Decidable (s.AllFresh todo)
  | _, [] => inferInstanceAs (Decidable True)
  | s, turn :: rest =>
    have := decidableAllFresh (s.turn turn) rest
    inferInstanceAs (Decidable (turn.Fresh s.manager.tasks ∧ (s.turn turn).AllFresh rest))

theorem State.allFresh_append {s : State} {first second : List Turn} :
  s.AllFresh (first ++ second) ↔ s.AllFresh first ∧ (s.turns first).AllFresh second
  := by
  induction first generalizing s with
  | nil => simp [AllFresh, turns]
  | cons turn rest ih => simp [AllFresh, turns, ih, and_assoc]

theorem Call.reports {project : String} {c : Call} {outcome : SaveOutcome} {s : Tasks}
    {change : Change c.Value} (hfresh : (Turn.call c outcome).Fresh s)
    (h : c.change project s = .ok change) :
  s.Reports change.tasks change.events
  := by
  cases c with
  | createFolder name => exact Tasks.reports_createFolder h
  | createTask now id task => exact Tasks.reports_createTask hfresh h
  | updateTask now id f =>
    obtain ⟨hreports, hevents⟩ := Tasks.reports_updateTask h
    rwa [hevents]
  | moveTask now id folder => exact Tasks.reports_moveTask h

/-- What is told in a turn is what became of the folders. -/
theorem State.reports_turn {s : State} {turn : Turn} (h : turn.Fresh s.manager.tasks) :
  ∃ told, (s.turn turn).events = s.events ++ told
    ∧ s.manager.tasks.Reports (s.turn turn).manager.tasks told
  := by
  cases turn with
  | call c outcome => exact ⟨_, rfl, reports_mutate (Call.reports h)⟩
  | commit w first second now id =>
    exact ⟨_, rfl, Wizard.Ending.reports h (Wizard.ending_commit w _ _ first second now id)⟩

/-- What is heard from some moment on turns the folders of then into those of now. -/
theorem State.heard_turns_of_fresh {s : State} {todo : List Turn} (h : s.AllFresh todo) :
  ∃ received, (s.turns todo).events = s.events ++ received
    ∧ received.foldl FolderEvent.heard s.manager.tasks.folder?
      = (s.turns todo).manager.tasks.folder?
  := by
  induction todo generalizing s with
  | nil => exact ⟨[], (List.append_nil _).symm, rfl⟩
  | cons turn rest ih =>
    obtain ⟨told, hevents, hreports⟩ := reports_turn h.1
    obtain ⟨received, hlater, hheard⟩ := ih h.2
    refine ⟨told ++ received, ?_, ?_⟩
    · rw [← List.append_assoc, ← hevents]
      exact hlater
    · rw [List.foldl_append, hreports.folders]
      exact hheard

/-- Whoever starts to listen in a state and brings the folders of then up to date with all that
is heard has the folders of the manager, whatever is called and committed and becomes of the
saves.  In each turn at most one event is told, and a task that moves comes from the folder where
it was just before. -/
theorem State.heard_turns (s : State) (todo : List Turn) (h : s.AllFresh todo) :
  (∃ received, (s.turns todo).events = s.events ++ received
      ∧ received.foldl FolderEvent.heard s.manager.tasks.folder?
        = (s.turns todo).manager.tasks.folder?)
    ∧ ∀ done turn rest, todo = done ++ turn :: rest →
      let before := s.turns done
      let after := before.turn turn
      ∃ told, after.events = before.events ++ told
        ∧ before.manager.tasks.Reports after.manager.tasks told
  := by
  refine ⟨heard_turns_of_fresh h, ?_⟩
  rintro done turn rest rfl before after
  obtain ⟨-, hturn, -⟩ := allFresh_append.mp h
  exact reports_turn hturn

/-- A move whose save fails, a change that tries to move the task, a commit that changes the task
and then moves it, and a move to where the task is already. -/
theorem State.heard_turns_instance :
  let catalog : Catalog := ⟨[.mk ⟨"common", "Common", "", none, none⟩ []
    [⟨"dump", "Dump", "common", "", none, true, .anyDriver⟩]]⟩
  let day : Timestamp := ⟨2024, 2, 29, 23, 59, 60, 1⟩
  let backup : NewTask := ⟨"shell", "Backup", "", some "Nightly", Span.zero, Properties.empty⟩
  let s := (start "General" true TaskDir.new).turns [
    .call (.createFolder "Nightly") .saved, .call (.createTask day "t1" backup) .saved]
  let edited : Wizard := { Wizard.create catalog with
    mode := .edit, record := s.manager.tasks.task? "t1", taskType := some "dump"
    name := "Backup", folder := some "Weekly" }
  let todo : List Turn := [
    .call (.createFolder "Weekly") .saved,
    .call (.moveTask day "t1" (some "Weekly")) (.notRenamed .isADirectory),
    .call (.updateTask day "t1" fun r => r.setFolder day none) .saved,
    .commit edited .saved .saved day "t2",
    .call (.moveTask day "t1" (some "Weekly")) .saved]
  s.AllFresh todo
    ∧ (s.turns todo).events
      = s.events ++ [.created "Weekly", .moved "t1" (some "Nightly") (some "Weekly")]
    ∧ (∃ received, (s.turns todo).events = s.events ++ received
      ∧ received.foldl FolderEvent.heard s.manager.tasks.folder?
        = (s.turns todo).manager.tasks.folder?)
    ∧ ∀ done turn rest, todo = done ++ turn :: rest →
      let before := s.turns done
      let after := before.turn turn
      ∃ told, after.events = before.events ++ told
        ∧ before.manager.tasks.Reports after.manager.tasks told
  := by
  intro catalog day backup s edited todo
  have h : s.AllFresh todo := by decide +kernel
  exact ⟨h, by decide +kernel, heard_turns s todo h⟩

end Manager

end TaskDesk
