import TaskDesk.Proofs.Manager.Listener
import TaskDesk.Proofs.Tasks.Views

/-!
# What a manager shows

A manager may hold its tasks in another order whenever it likes, in between the calls.  Its views
are coherent all the time exactly if no update leaves a record with another id than the one that was
asked for; an update is kept from changing the folder and from taking a name of another task, but
not from that.  Two managers that came to the same tasks and folders look the same then, and have
written the same file: `State.coherent_iff_of_start`.
-/

namespace TaskDesk.Manager

/-- What happens to a manager: it is called, with what becomes of the save, or it comes to hold its
tasks in another order. -/
inductive Occurrence where
  | call (c : Call) (outcome : SaveOutcome)
  | rearranged (t : Tasks)

namespace Occurrence

/-- The id of a new task is unused, and nothing is changed but the order. -/
def Regular (s : State) : Occurrence → Prop
  | .call (.createTask _ id _) _ => id ≠ "" ∧ s.manager.tasks.task? id = none
  | .call _ _ => True
  | .rearranged t => s.manager.tasks.Rearranged t

/-- An update that is answered with a record is answered with one of the id that was asked for. -/
def KeepsId (s : State) : Occurrence → Prop
  | .call (.updateTask now id f) outcome =>
    ∀ r, (s.manager.mutate s.dir outcome
      (Tasks.updateTask s.manager.project now id f)).answer = .ok r → r.id = id
  | _ => True

end Occurrence

namespace State

/-- The state after an occurrence. -/
def occur (s : State) : Occurrence → State
  | .call c outcome => s.turn (.call c outcome)
  | .rearranged t => { s with manager := { s.manager with tasks := t } }

/-- The state after a course of occurrences, the first one first. -/
def follow (s : State) (course : List Occurrence) : State :=
  course.foldl occur s

/-- Whether each of the occurrences obeys a rule when its turn comes. -/
def Obeys (rule : State → Occurrence → Prop) : State → List Occurrence → Prop
  | _, [] => True
  | s, o :: rest => rule s o ∧ (s.occur o).Obeys rule rest

variable {s : State} {o : Occurrence} {course : List Occurrence}

theorem obeys_append {rule : State → Occurrence → Prop} {done rest : List Occurrence} :
  s.Obeys rule (done ++ rest) ↔ s.Obeys rule done ∧ (s.follow done).Obeys rule rest
  := by
  induction done generalizing s with
  | nil => simp [Obeys, follow]
  | cons o done ih => simp [Obeys, follow, ih, and_assoc]

/-- An update that is answered puts its answer under the id that was asked for. -/
theorem task?_of_updated {now : Timestamp} {id : String} {f : Record → Record}
    {outcome : SaveOutcome} {r : Record}
    (h : (s.manager.mutate s.dir outcome
      (Tasks.updateTask s.manager.project now id f)).answer = .ok r) :
  (s.occur (.call (.updateTask now id f) outcome)).manager.tasks.task? id = some r
  := by
  obtain ⟨c, hc, hreply, rfl⟩ := mutate_of_ok h
  obtain ⟨current, -, -, -, -, htasks, -⟩ := Tasks.updateTask_eq_ok.mp hc
  have hmanager : (s.occur (.call (.updateTask now id f) outcome)).manager.tasks = c.tasks :=
    congrArg (fun reply : Reply Record => reply.manager.tasks) hreply
  rw [hmanager, htasks, Tasks.task?_store, if_pos rfl]

/-! ### Tasks that fit together -/

theorem sound_occur (hs : s.manager.tasks.Sound) (hregular : o.Regular s) (hkeeps : o.KeepsId s) :
  (s.occur o).manager.tasks.Sound
  := by
  cases o with
  | rearranged t => exact hs.rearranged hregular
  | call c outcome =>
    cases c with
    | createFolder name =>
      apply mutate_induction hs
      exact fun hc => hs.of_createFolder hc
    | createTask now id task =>
      apply mutate_induction hs
      exact fun hc => hs.of_createTask hregular.1 hregular.2 hc
    | moveTask now id folder =>
      apply mutate_induction hs
      exact fun hc => hs.of_moveTask hc
    | updateTask now id f =>
      let reply := s.manager.mutate s.dir outcome (Tasks.updateTask s.manager.project now id f)
      have hafter : (s.occur (.call (.updateTask now id f) outcome)).manager = reply.manager := rfl
      rw [hafter]
      cases hanswer : reply.answer with
      | error e =>
        obtain ⟨hmanager, -, -⟩ := mutate_of_error hanswer
        rw [hmanager]
        exact hs
      | ok r =>
        have hid : r.id = id := hkeeps r hanswer
        obtain ⟨c, hc, hreply, rfl⟩ := mutate_of_ok hanswer
        have hmanager : reply.manager.tasks = c.tasks := by simp only [reply, hreply]
        rw [hmanager]
        exact hs.of_updateTask_of_id hid hc

/-! ### The task file -/

/-- Whether the task file, if there is one, holds the tasks; as long as there are none, nothing was
saved. -/
def Written (s : State) : Prop :=
  s.manager.isBacked = true →
    s.manager.tasks = Tasks.empty ∨ s.dir.file = some (.text s.manager.tasks.snapshot.text)

theorem isBacked_occur (s : State) (o : Occurrence) :
  (s.occur o).manager.isBacked = s.manager.isBacked
  := by
  cases o with
  | rearranged t => rfl
  | call c outcome =>
    have hmanager : (s.occur (.call c outcome)).manager
        = (s.manager.mutate s.dir outcome (c.change s.manager.project)).manager := rfl
    rw [hmanager]
    obtain h | ⟨d, -, h⟩ := tasks_mutate s.manager s.dir outcome (c.change s.manager.project)
    all_goals rw [h]

theorem isBacked_follow (s : State) (course : List Occurrence) :
  (s.follow course).manager.isBacked = s.manager.isBacked
  := by
  induction course generalizing s with
  | nil => rfl
  | cons o rest ih => exact (ih (s.occur o)).trans (isBacked_occur s o)

theorem written_occur (hs : s.manager.tasks.Sound) (hwritten : s.Written) (hregular : o.Regular s) :
  (s.occur o).Written
  := by
  intro hbacked
  rw [isBacked_occur] at hbacked
  cases o with
  | rearranged t =>
    obtain hempty | hfile := hwritten hbacked
    · obtain ⟨hrecords, hfolders⟩ := hregular
      rw [hempty] at hrecords hfolders
      exact .inl (congrArg₂ Tasks.mk hrecords.nil_eq.symm hfolders.nil_eq.symm)
    · refine .inr (hfile.trans ?_)
      rw [← hs.snapshot_rearranged hregular]
      rfl
  | call c outcome =>
    let reply := s.manager.mutate s.dir outcome (c.change s.manager.project)
    have hafter : s.occur (.call c outcome) = ⟨reply.manager, reply.dir, s.events ++ reply.events⟩ :=
      rfl
    rw [hafter]
    cases hanswer : reply.answer with
    | error e =>
      obtain ⟨hmanager, hfile, -⟩ := mutate_of_error hanswer
      simp only [reply, hmanager, hfile]
      exact hwritten hbacked
    | ok a =>
      obtain ⟨d, -, hreply, -⟩ := mutate_of_ok hanswer
      simp only [reply, hreply, hbacked, if_true]
      exact .inr rfl

/-! ### Courses -/

/-- As long as updates keep ids, tasks fit together and are in the task file. -/
theorem sound_follow (hs : s.manager.tasks.Sound) (hwritten : s.Written)
    (hregular : s.Obeys Occurrence.Regular course) (hkeeps : s.Obeys Occurrence.KeepsId course) :
  (s.follow course).manager.tasks.Sound ∧ (s.follow course).Written
  := by
  induction course generalizing s with
  | nil => exact ⟨hs, hwritten⟩
  | cons o rest ih =>
    apply ih _ _ hregular.2 hkeeps.2
    · exact sound_occur hs hregular.1 hkeeps.1
    · exact written_occur hs hwritten hregular.1

theorem written_start (project : String) (isBacked : Bool) (dir : TaskDir) :
  (start project isBacked dir).Written
  := fun _ => .inl rfl

/-- Where all views are coherent, updates keep ids. -/
theorem keepsId_of_coherent
    (h : ∀ done, done <+: course → (s.follow done).manager.tasks.Coherent) :
  s.Obeys Occurrence.KeepsId course
  := by
  induction course generalizing s with
  | nil => trivial
  | cons o rest ih =>
    constructor
    · have hafter : (s.occur o).manager.tasks.Coherent := h [o] (by simp)
      unfold Occurrence.KeepsId
      split
      · next now id f outcome =>
        intro r hr
        exact ((hafter.task id r).mp (task?_of_updated hr)).2
      · trivial
    · apply ih
      rintro done ⟨later, rfl⟩
      exact h (o :: done) ⟨later, rfl⟩

/-- Whatever a manager is called for and in whatever order it comes to hold its tasks: its views are
coherent all the time exactly if each update that is answered with a record is answered with one of
the id that was asked for.  Two managers of which that holds and that came to the same tasks and
folders look the same, and if they have any, their task files are the same. -/
theorem coherent_iff_of_start (project : String) (isBacked : Bool) (dir : TaskDir)
    (course : List Occurrence)
    (hregular : (start project isBacked dir).Obeys Occurrence.Regular course) :
  let first := start project isBacked dir
  ((∀ done, done <+: course → (first.follow done).manager.tasks.Coherent)
      ↔ first.Obeys Occurrence.KeepsId course)
    ∧ ∀ (project' : String) (isBacked' : Bool) (dir' : TaskDir) (course' : List Occurrence),
      let first' := start project' isBacked' dir'
      let s := first.follow course
      let s' := first'.follow course'
      first'.Obeys Occurrence.Regular course' → first.Obeys Occurrence.KeepsId course →
      first'.Obeys Occurrence.KeepsId course' →
      (∀ r, r ∈ s.manager.tasks.list ↔ r ∈ s'.manager.tasks.list) →
      (∀ f, f ∈ s.manager.tasks.folderList ↔ f ∈ s'.manager.tasks.folderList) →
      s.manager.tasks.SameViews s'.manager.tasks
        ∧ (isBacked = true → isBacked' = true → s.manager.tasks ≠ Tasks.empty →
          s.dir.file = s'.dir.file)
  := by
  intro first
  have hkept {project : String} {isBacked : Bool} {dir : TaskDir} {course : List Occurrence}
      (hregular : (start project isBacked dir).Obeys Occurrence.Regular course)
      (hkeeps : (start project isBacked dir).Obeys Occurrence.KeepsId course) :=
    sound_follow Tasks.sound_empty (written_start project isBacked dir) hregular hkeeps
  refine ⟨⟨keepsId_of_coherent, ?_⟩, ?_⟩
  · rintro hkeeps done ⟨later, rfl⟩
    exact (hkept (obeys_append.mp hregular).1 (obeys_append.mp hkeeps).1).1.coherent
  · intro project' isBacked' dir' course' first' s s' hregular' hkeeps hkeeps' hlist hfolders
    obtain ⟨hs, hwritten⟩ := hkept hregular hkeeps
    obtain ⟨hs', hwritten'⟩ := hkept hregular' hkeeps'
    have hviews := hs.coherent.sameViews hs'.coherent hlist hfolders
    refine ⟨hviews, ?_⟩
    intro hbacked hbacked' hsome
    have hsome' : s'.manager.tasks ≠ Tasks.empty := by
      intro hnone
      rw [hnone] at hviews
      exact hsome hviews.eq_empty
    have hfile := (hwritten ((isBacked_follow first course).trans hbacked)).resolve_left hsome
    have hfile' := (hwritten' ((isBacked_follow first' course').trans hbacked')).resolve_left hsome'
    rw [hfile, hfile', hviews.snapshot]

/-- A manager looks the same and has the same file after it came to hold its tasks in another order.
An update that gives a task another id leaves it under the old one, and the views do not agree. -/
theorem coherent_iff_of_start_instance :
  let day : Timestamp := ⟨2024, 2, 29, 23, 59, 60, 1⟩
  let make (id name : String) : Occurrence :=
    .call (.createTask day id ⟨"shell", name, "", none, Span.zero, Properties.empty⟩) .saved
  let first := start "General" true TaskDir.new
  let made := [make "t1" "Backup", make "t2" "Restore"]
  let tasks := (first.follow made).manager.tasks
  let course := made ++ [.rearranged ⟨tasks.records.reverse, tasks.folders⟩]
  let spoilt := made ++ [.call (.updateTask day "t1" fun r => r.run day [.id "t3"]) .saved]
  first.Obeys Occurrence.Regular course ∧ first.Obeys Occurrence.Regular spoilt
    ∧ (∀ done, done <+: course → (first.follow done).manager.tasks.Coherent)
    ∧ (first.follow course).manager.tasks.SameViews tasks
    ∧ (first.follow course).dir.file = (first.follow made).dir.file
    ∧ ¬ ∀ done, done <+: spoilt → (first.follow done).manager.tasks.Coherent
  := by
  intro day make first made tasks course spoilt
  have hmade : first.Obeys Occurrence.Regular made :=
    ⟨⟨by decide, rfl⟩, ⟨by decide, by decide +kernel⟩, trivial⟩
  have hrearranged : tasks.Rearranged ⟨tasks.records.reverse, tasks.folders⟩ :=
    ⟨(List.reverse_perm _).symm, .refl _⟩
  have hcourse : first.Obeys Occurrence.Regular course :=
    obeys_append.mpr ⟨hmade, hrearranged, trivial⟩
  have hspoilt : first.Obeys Occurrence.Regular spoilt := obeys_append.mpr ⟨hmade, trivial, trivial⟩
  obtain ⟨hiff, hsame⟩ := coherent_iff_of_start "General" true TaskDir.new course hcourse
  obtain ⟨hiff', -⟩ := coherent_iff_of_start "General" true TaskDir.new spoilt hspoilt
  have hkeeps : first.Obeys Occurrence.KeepsId course := ⟨trivial, trivial, trivial, trivial⟩
  have hkeeps' : first.Obeys Occurrence.KeepsId made := ⟨trivial, trivial, trivial⟩
  obtain ⟨hviews, hfile⟩ := hsame "General" true TaskDir.new made hmade hkeeps hkeeps'
    (fun _ => hrearranged.mem_list) fun _ => hrearranged.mem_folderList
  refine ⟨hcourse, hspoilt, hiff.mpr hkeeps, hviews, hfile rfl rfl ?_, ?_⟩
  · intro hnone
    cases congrArg Tasks.records hnone
  · intro hcoherent
    obtain ⟨-, hupdate, -⟩ := obeys_append.mp (hiff'.mp hcoherent)
    have hid := hupdate _ rfl
    revert hid
    decide +kernel

end State

end TaskDesk.Manager
