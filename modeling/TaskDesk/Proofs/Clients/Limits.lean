import TaskDesk.Proofs.Clients.Basic
import TaskDesk.Proofs.Manager.Opening
import TaskDesk.Proofs.Wizard.Files

/-!
# Time limits in the task file

The task file of a workshop is that of its tasks, or still that from which the manager was opened,
whatever the clients do and whatever becomes of the saves.  So a manager that is opened on it has of
each time limit the whole seconds, `Workshop.limit_of_reopened`: a limit is never longer there, and
it is no limit any more exactly if it was shorter than a second.
-/

namespace TaskDesk

open TaskDesk.Text

namespace Manager

variable {project : String} {m m' : Manager} {dir : TaskDir}

/-- Whether the task file of a manager holds its tasks, or is still the one that it was opened
from. -/
structure OnFile (m : Manager) (dir : TaskDir) : Prop where
  isBacked : m.isBacked = true
  file : dir.file = some (.text m.tasks.snapshot.text) ∨ open? m.project dir = .ok m

theorem open?_congr {dir' : TaskDir} (h : dir'.file = dir.file) :
  open? project dir' = open? project dir
  := by
  rw [open?, open?, TaskDir.load, TaskDir.load, h]

theorem OnFile.mutate {α : Type} (h : m.OnFile dir) (outcome : SaveOutcome)
    (change : Tasks → Except TaskError (Change α)) :
  let reply := m.mutate dir outcome change
  reply.manager.OnFile reply.dir ∧ reply.manager.project = m.project
  := by
  intro reply
  cases hanswer : reply.answer with
  | error e =>
    obtain ⟨hmanager, hfile, -⟩ := mutate_of_error hanswer
    refine ⟨⟨?_, ?_⟩, ?_⟩
    · rw [hmanager]
      exact h.isBacked
    · rw [hmanager, hfile, open?_congr hfile]
      exact h.file
    · rw [hmanager]
  | ok a =>
    obtain ⟨c, -, hreply, -⟩ := mutate_of_ok hanswer
    simp only [reply, hreply, h.isBacked, if_true]
    exact ⟨⟨rfl, .inl rfl⟩, trivial⟩

/-- A task file of tasks that can be stored can be opened. -/
theorem OnFile.exists_open? (h : m.OnFile dir) (hs : m.tasks.Storable) :
  ∃ m', open? m.project dir = .ok m'
  := by
  obtain hfile | hopen := h.file
  · obtain ⟨t, hread, -⟩ := hs.read?_text
    exact ⟨_, open?_eq_ok.mpr ⟨t, load_of_read? hfile hread, rfl⟩⟩
  · exact ⟨m, hopen⟩

/-- The limits of the records of a task file are whole numbers of seconds. -/
theorem limit_of_load {t : Snapshot} (h : dir.load = .ok t) {r : Record} (hr : r ∈ t.tasks) :
  r.limit = Span.ofSeconds r.limit.seconds
  := by
  obtain rfl | ⟨text, hread⟩ := empty_or_read?_of_load h
  · cases hr
  · obtain ⟨g, hg⟩ := Snapshot.exists_of_read? hread hr
    exact Record.limit_of_ofForm? hg

/-- A record whose id no other record has is there again, with the whole seconds of its limit. -/
theorem OnFile.limit_of_open? (h : m.OnFile dir) (hopen : open? m.project dir = .ok m')
    {r : Record} (hr : r ∈ m.tasks.list) (hown : ∀ q ∈ m.tasks.list, q.id = r.id → q = r) :
  ∃ r', m'.tasks.task? r.id = some r' ∧ r'.limit = Span.ofSeconds r.limit.seconds
  := by
  obtain hfile | hsame := h.file
  · obtain ⟨t, hload, rfl⟩ := open?_eq_ok.mp hopen
    have hread := Snapshot.readBack_of_read?_text (read?_of_load hfile hload)
    obtain ⟨r', hr', heq⟩ := Tasks.exists_task?_of_readBack hread hr hown
    refine ⟨r', hr', ?_⟩
    rw [heq]
    rfl
  · obtain rfl := Except.ok.inj (hopen.symm.trans hsame)
    obtain ⟨t, hload, hm⟩ := open?_eq_ok.mp hopen
    have htask := (indexed_of_open? hopen).mem_list.mp hr
    refine ⟨r, htask, ?_⟩
    rw [hm] at htask
    exact limit_of_load hload (Keyed.mem_of_find?_ofList htask).1

end Manager

/-! ### Workshops -/

/-- What holds of a manager and its task file and is kept by changes of the manager holds after an
act of a client. -/
theorem Client.act_file_induction {motive : Manager → TaskDir → Prop} {c : Client} {m : Manager}
    {dir : TaskDir} {a : Act} (hbefore : motive m dir)
    (hmutate : ∀ {α : Type} (outcome : SaveOutcome) (change : Tasks → Except TaskError (Change α)),
      motive (m.mutate dir outcome change).manager (m.mutate dir outcome change).dir) :
  motive (c.act m dir a).manager (c.act m dir a).dir
  := by
  unfold act
  split
  · exact hbefore
  · rw [begin]
    split <;> exact hbefore
  · next outcome now id t _ =>
    have hwritten := hmutate outcome (c.wizard.writing t m.project now id)
    rw [← Wizard.manager_write, ← Wizard.dir_write] at hwritten
    unfold write
    simp only
    split <;> exact hwritten
  · next outcome now t record _ =>
    rw [move]
    simp only
    split <;> exact hmutate outcome _
  · rw [reread]
    exact hbefore
  · exact hbefore

namespace Workshop

theorem file_after {motive : Manager → TaskDir → Prop} {s : Workshop} {e : Event}
    (hbefore : motive s.manager s.dir)
    (hmutate : ∀ {α : Type} (outcome : SaveOutcome) (change : Tasks → Except TaskError (Change α)),
      motive (s.manager.mutate s.dir outcome change).manager
        (s.manager.mutate s.dir outcome change).dir) :
  motive (s.after e).manager (s.after e).dir
  := by
  cases e with
  | call step => exact hmutate _ _
  | create catalog => exact hbefore
  | edit catalog r =>
    unfold after
    simp only
    split <;> exact hbefore
  | act k a =>
    cases heffect : s.effect? k a with
    | none =>
      simp only [after, heffect]
      exact hbefore
    | some e =>
      obtain ⟨c, -, rfl⟩ := effect?_eq_some.mp heffect
      rw [after_act heffect]
      exact Client.act_file_induction hbefore hmutate

theorem onFile_run {s : Workshop} (h : s.manager.OnFile s.dir) (events : List Event) :
  (s.run events).manager.OnFile (s.run events).dir
    ∧ (s.run events).manager.project = s.manager.project
  := by
  induction events generalizing s with
  | nil => exact ⟨h, rfl⟩
  | cons e rest ih =>
    have hafter : (s.after e).manager.OnFile (s.after e).dir
        ∧ (s.after e).manager.project = s.manager.project :=
      file_after (motive := fun m dir => m.OnFile dir ∧ m.project = s.manager.project) ⟨h, rfl⟩
        h.mutate
    obtain ⟨hrest, hproject⟩ := ih hafter.1
    exact ⟨hrest, hproject.trans hafter.2⟩

theorem storable_call {s : Workshop} (hs : s.manager.tasks.Storable) {step : Manager.Step}
    (h : step.isStorable = true) :
  (s.after (.call step)).manager.tasks.Storable
  := by
  rw [Manager.Step.isStorable, Bool.and_eq_true] at h
  apply Manager.mutate_induction hs
  intro c hc
  exact Manager.Action.storable_change hs h.1 h.2 hc

/-- Whatever callers and clients did since a manager was opened, its task file can be opened again,
if the tasks can be stored, and each record whose id no other record has is there again with the
whole seconds of its time limit: never a longer limit, and no limit exactly if there was not one
whole second. -/
theorem limit_of_reopened {project : String} {dir : TaskDir} {m : Manager}
    (h : Manager.open? project dir = .ok m) (events : List Event) :
  let s := (Workshop.mk m dir []).run events
  (s.manager.tasks.Storable → ∃ m', Manager.open? project s.dir = .ok m')
    ∧ ∀ {m'}, Manager.open? project s.dir = .ok m' → ∀ r ∈ s.manager.tasks.list,
      (∀ q ∈ s.manager.tasks.list, q.id = r.id → q = r) →
      ∃ r', m'.tasks.task? r.id = some r' ∧ r'.limit = Span.ofSeconds r.limit.seconds
        ∧ r'.limit.total ≤ r.limit.total
        ∧ (r'.limit.isZero = true ↔ r.limit.seconds = 0)
  := by
  intro s
  obtain ⟨t, hload, rfl⟩ := Manager.open?_eq_ok.mp h
  have hstart : Manager.OnFile ⟨project, Tasks.ofSnapshot t, true⟩ dir := ⟨rfl, .inr h⟩
  obtain ⟨hfile, hproject⟩ := onFile_run (s := ⟨_, dir, []⟩) hstart events
  refine ⟨?_, ?_⟩
  · intro hs
    obtain ⟨m', hopen⟩ := hfile.exists_open? hs
    rw [hproject] at hopen
    exact ⟨m', hopen⟩
  · intro m' hopen r hr hown
    obtain ⟨r', hr', hlimit⟩ := hfile.limit_of_open? (by rwa [hproject]) hr hown
    refine ⟨r', hr', hlimit, ?_, ?_⟩
    · rw [hlimit]
      simp [Span.total, Span.ofSeconds]
    · rw [hlimit]
      simp [Span.isZero, Span.ofSeconds]

/-- A task that is limited to half a second and one that is limited to 90 and a half: opened again,
the one is without limit and the other has 90 seconds. -/
theorem limit_of_reopened_instance :
  let m : Manager := ⟨"General", Tasks.empty, true⟩
  let day : Timestamp := ⟨2024, 3, 1, 12, 0, 0, 7⟩
  let task (name : String) (limit : Span) : NewTask := ⟨"sh", name, "", none, limit, .empty⟩
  let events : List Event := [
    .call ⟨.createTask "t1" (task "Dump" ⟨0, 500000000⟩), day, .saved⟩,
    .create Catalog.empty,
    .act 0 .begin,
    .call ⟨.createTask "t2" (task "Copy" ⟨90, 500000000⟩), day, .saved⟩,
    .call ⟨.createTask "t3" (task "Move" ⟨5, 0⟩), day, .notWritten .notFound⟩]
  let s := (Workshop.mk m TaskDir.new []).run events
  ∃ m' r₁ r₂, Manager.open? "General" s.dir = .ok m'
    ∧ m'.tasks.task? "t1" = some r₁ ∧ r₁.limit = Span.zero
    ∧ m'.tasks.task? "t2" = some r₂ ∧ r₂.limit = ⟨90, 0⟩
  := by
  intro m day task events s
  have hopen : Manager.open? "General" TaskDir.new = .ok m := rfl
  obtain ⟨hreopen, hlimits⟩ := limit_of_reopened hopen events
  have hfirst : ((Workshop.mk m TaskDir.new []).run (events.take 1)).manager.tasks.Storable :=
    storable_call Tasks.storable_empty (by decide +kernel)
  have hstorable : s.manager.tasks.Storable :=
    storable_call (s := (Workshop.mk m TaskDir.new []).run (events.take 3)) hfirst
      (by decide +kernel)
  obtain ⟨m', hm'⟩ := hreopen hstorable
  have hlimit (id : String) {r : Record} (hr : s.manager.tasks.task? id = some r) :
      ∃ r', m'.tasks.task? id = some r' ∧ r'.limit = Span.ofSeconds r.limit.seconds := by
    obtain rfl := hstorable.id_eq hr
    have hown : ∀ q ∈ s.manager.tasks.list, q.id = r.id → q = r := by
      intro q hq hid
      rw [hstorable.mem_list, hid, hr] at hq
      exact (Option.some.inj hq).symm
    obtain ⟨r', hr', hlimit, -, -⟩ := hlimits hm' r (hstorable.mem_list.mpr hr) hown
    exact ⟨r', hr', hlimit⟩
  obtain ⟨r₁, hr₁, hlimit₁⟩ := hlimit "t1" rfl
  obtain ⟨r₂, hr₂, hlimit₂⟩ := hlimit "t2" rfl
  exact ⟨m', r₁, r₂, hm', hr₁, hlimit₁, hr₂, hlimit₂⟩

end Workshop

end TaskDesk
