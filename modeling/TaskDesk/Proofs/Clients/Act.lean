import TaskDesk.Proofs.Clients.Basic

/-!
# What an act of a client does

A client is `Consistent` if its sessions and the record that its commit works on belong to the task
of its wizard, and it added at most that one.  All that an act of a consistent client can do is
said by `Effect.Proper`: it leaves the records alone, changes the record of its wizard, or makes a
record that becomes that of its wizard.
-/

namespace TaskDesk.Client

/-- The sessions, the record at work and the added task are those of the wizard. -/
structure Consistent (c : Client) : Prop where
  sessions : ∀ e ∈ c.wizard.sessions, c.wizard.taskId? = some e.2.taskId
  stage : ∀ r, c.stage.record? = some r → c.wizard.taskId? = some r.id
  added : c.added = [] ∨ ∃ i, c.added = [i] ∧ c.wizard.taskId? = some i

theorem consistent_new {w : Wizard} (h : w.sessions = []) :
  (new w).Consistent
  where
  sessions e he := by simp [new, h] at he
  stage r hr := by cases hr
  added := .inl rfl

/-- What an act does to the records: nothing, a change of the record of the wizard, or a new record
for it. -/
inductive Recorded (before after : Tasks) (w w' : Wizard) : Prop where
  | kept (records : after.records = before.records) (taskId : w'.taskId? = w.taskId?)
  | changed (id : String) (r : Record) (records : after.records = Keyed.put id r before.records)
      (present : id ∈ Keyed.keys before.records) (own : w.taskId? = some id)
      (taskId : w'.taskId? = some id)
  | made (id : String) (r : Record) (records : after.records = Keyed.put id r before.records)
      (absent : id ∉ Keyed.keys before.records) (own : w.taskId? = none)
      (taskId : w'.taskId? = some id)

/-- What an act of a consistent client comes to. -/
structure Effect.Proper (before : Tasks) (c : Client) (e : Effect) : Prop where
  sessions : ∀ x ∈ e.client.wizard.sessions, e.client.wizard.taskId? = some x.2.taskId
  stage : ∀ r, e.client.stage.record? = some r → e.client.wizard.taskId? = some r.id
  answer : ∀ s, e.answer = some (.ok s) → e.client.wizard.taskId? = some s.taskId
  added : e.client.added = c.added
  recorded : Recorded before e.manager.tasks c.wizard e.client.wizard

variable {c : Client} {m : Manager} {dir : TaskDir}

/-- An act that leaves the manager, the task and the sessions alone and answers no session. -/
theorem Effect.Proper.of_sameTask (hc : c.Consistent) {e : Effect} (hmanager : e.manager = m)
    (hsame : c.wizard.SameTask e.client.wizard)
    (hstage : ∀ r, e.client.stage.record? = some r → c.stage.record? = some r)
    (hanswer : ∀ s, e.answer ≠ some (.ok s)) (hadded : e.client.added = c.added) :
  e.Proper m.tasks c
  where
  sessions x hx := by
    rw [hsame.sessions] at hx
    rw [hsame.taskId?]
    apply hc.sessions x hx
  stage r hr := by
    rw [hsame.taskId?]
    apply hc.stage r (hstage r hr)
  answer s hs := absurd hs (hanswer s)
  added := hadded
  recorded := by
    rw [hmanager]
    apply Recorded.kept rfl hsame.taskId?

/-- Finishing a commit of the task of the wizard, or of its first task. -/
theorem finished (hc : c.Consistent) {t : TaskType} {r : Record} (hid : r.id ≠ "")
    (hown : c.wizard.taskId? = some r.id ∨ c.wizard.taskId? = none) :
  (c.wizard.finish t r).1.taskId? = some r.id
    ∧ (∀ x ∈ (c.wizard.finish t r).1.sessions,
        (c.wizard.finish t r).1.taskId? = some x.2.taskId)
    ∧ (c.wizard.finish t r).1.taskId? = some (c.wizard.finish t r).2.taskId
  := by
  have htask : (c.wizard.finish t r).1.taskId? = some r.id :=
    Wizard.taskId?_eq_some.mpr ⟨r, Wizard.record_finish c.wizard t r, rfl, hid⟩
  have hbefore : ∀ x ∈ c.wizard.sessions, x.2.taskId = r.id := by
    intro x hx
    have hsession := hc.sessions x hx
    obtain hown | hown := hown
    · rw [hown] at hsession
      exact (Option.some.inj hsession).symm
    · simp [hown] at hsession
  obtain ⟨hsessions, hsession⟩ := Wizard.sessions_finish (t := t) hbefore
  rw [htask]
  refine ⟨rfl, ?_, ?_⟩
  · intro x hx
    rw [hsessions x hx]
  · rw [hsession]

/-- A commit may end with an error, if the manager was left alone. -/
theorem proper_failed (hc : c.Consistent) {m' : Manager} (hm : m' = m) (e : WizardError) :
  Effect.Proper m.tasks c ⟨{ c with stage := .idle }, m', dir, some (.error e)⟩
  := by
  apply Effect.Proper.of_sameTask hc
  · exact hm
  · apply Wizard.SameTask.refl
  · simp [Stage.record?]
  · simp
  · rfl

/-- A commit may end with a session of the task of the wizard, or of its first task. -/
theorem proper_finished (hc : c.Consistent) {t : TaskType} {r : Record} (hid : r.id ≠ "")
    (hown : c.wizard.taskId? = some r.id ∨ c.wizard.taskId? = none) {m' : Manager}
    (hrecorded : ∀ w : Wizard, w.taskId? = some r.id → Recorded m.tasks m'.tasks c.wizard w) :
  Effect.Proper m.tasks c
    ⟨{ c with wizard := (c.wizard.finish t r).1, stage := .idle }, m', dir,
      some (.ok (c.wizard.finish t r).2)⟩
  := by
  obtain ⟨htask, hsessions, hsession⟩ := finished (t := t) hc hid hown
  constructor
  · exact hsessions
  · intro q hq
    cases hq
  · rintro _ ⟨⟩
    exact hsession
  · rfl
  · apply hrecorded _ htask

theorem proper_begin (hc : c.Consistent) :
  (c.begin m dir).Proper m.tasks c
  := by
  have hsame := Wizard.sameTask_begin m c.wizard
  rw [begin]
  split
  · next w e hw =>
    rw [hw] at hsame
    apply Effect.Proper.of_sameTask hc
    · rfl
    · exact hsame
    · simp
    · simp
    · rfl
  · next w t hw =>
    rw [hw] at hsame
    apply Effect.Proper.of_sameTask hc
    · rfl
    · exact hsame
    · simp [Stage.record?]
    · simp
    · rfl

theorem proper_write (hs : m.tasks.Indexed) (hc : c.Consistent) {t : TaskType}
    {outcome : SaveOutcome} {now : Timestamp} {id : String} (hid : id ≠ "")
    (hfresh : m.tasks.task? id = none) :
  (c.write t m dir outcome now id).Proper m.tasks c
  := by
  rw [write]
  rw [Wizard.write_eq]
  simp only
  cases hanswer : (m.mutate dir outcome (c.wizard.writing t m.project now id)).answer with
  | error e =>
    obtain ⟨hmanager, -, -⟩ := Manager.mutate_of_error hanswer
    apply proper_failed hc hmanager
  | ok record =>
    obtain ⟨change, hchange, hreply, rfl⟩ := Manager.mutate_of_ok hanswer
    obtain ⟨hrecords, hown⟩ := Wizard.records_writing hs hchange
    have hafter : (m.mutate dir outcome (c.wizard.writing t m.project now id)).manager.tasks
        = change.tasks := by
      rw [hreply]
    have hrecorded : ∀ w : Wizard, w.taskId? = some change.value.id →
        Recorded m.tasks change.tasks c.wizard w := by
      intro w hw
      obtain ⟨hnone, hvalue⟩ | ⟨hsome, hpresent⟩ := hown
      · apply Recorded.made _ _ hrecords _ hnone hw
        rw [hvalue]
        exact Keyed.find?_eq_none_iff.mp hfresh
      · apply Recorded.changed _ _ hrecords hpresent hsome hw
    have hvalue : change.value.id ≠ "" := by
      obtain ⟨-, hvalue⟩ | ⟨hsome, -⟩ := hown
      · rwa [hvalue]
      · obtain ⟨_, -, -, hne⟩ := Wizard.taskId?_eq_some.mp hsome
        exact hne
    by_cases hfinish : c.wizard.taskId? = none ∨ change.value.folder = c.wizard.folder
    · simp only [if_pos hfinish]
      apply proper_finished hc hvalue (hown.symm.imp And.left And.left)
      rw [hafter]
      exact hrecorded
    · simp only [if_neg hfinish]
      have hsome : c.wizard.taskId? = some change.value.id := by
        obtain ⟨hnone, -⟩ | ⟨hsome, -⟩ := hown
        · exact absurd (.inl hnone) hfinish
        · exact hsome
      constructor
      · exact hc.sessions
      · rintro _ ⟨⟩
        exact hsome
      · rintro _ ⟨⟩
      · rfl
      · rw [hafter]
        apply hrecorded _ hsome

theorem proper_move (hc : c.Consistent) {t : TaskType} {record : Record}
    (hstage : c.stage = .written t record) {outcome : SaveOutcome} {now : Timestamp} :
  (c.move t record m dir outcome now).Proper m.tasks c
  := by
  have hown : c.wizard.taskId? = some record.id := hc.stage record (by rw [hstage]; rfl)
  obtain ⟨_, -, -, hid⟩ := Wizard.taskId?_eq_some.mp hown
  rw [move]
  simp only
  cases hanswer : (c.wizard.relocate record m dir outcome now).answer with
  | error e =>
    obtain ⟨hmanager, -, -⟩ := Manager.mutate_of_error hanswer
    apply proper_failed hc hmanager
  | ok moved =>
    obtain ⟨change, hchange, hreply, -⟩ := Manager.mutate_of_ok hanswer
    obtain ⟨r, hrecords, hpresent⟩ := Tasks.records_moveTask hchange
    have hafter : (c.wizard.relocate record m dir outcome now).manager.tasks = change.tasks := by
      rw [Wizard.relocate, hreply]
    cases moved with
    | false =>
      apply proper_finished hc hid (.inl hown)
      rw [hafter]
      intro w hw
      apply Recorded.changed _ _ hrecords hpresent hown hw
    | true =>
      constructor
      · exact hc.sessions
      · rintro _ ⟨⟩
        exact hown
      · rintro _ ⟨⟩
      · rfl
      · rw [hafter]
        apply Recorded.changed _ _ hrecords hpresent hown hown

theorem proper_reread (hs : m.tasks.Indexed) (hc : c.Consistent) {t : TaskType} {record : Record}
    (hstage : c.stage = .moved t record) :
  (c.reread t record m dir).Proper m.tasks c
  := by
  have hown : c.wizard.taskId? = some record.id := hc.stage record (by rw [hstage]; rfl)
  obtain ⟨_, -, -, hid⟩ := Wizard.taskId?_eq_some.mp hown
  rw [reread, Wizard.reread]
  cases hr : m.tasks.task? record.id with
  | none => apply proper_failed hc rfl
  | some r =>
    have hrid : r.id = record.id := hs.id_eq hr
    rw [← hrid] at hid hown
    apply proper_finished hc hid (.inl hown)
    intro w hw
    apply Recorded.kept rfl
    rw [hw, hown]

/-- All that an act of a consistent client can do. -/
theorem proper_act (hs : m.tasks.Indexed) (hc : c.Consistent) {a : Act} (ha : a.Fresh m.tasks) :
  (c.act m dir a).Proper m.tasks c
  := by
  unfold act
  split
  · apply Effect.Proper.of_sameTask hc
    · rfl
    · apply Wizard.sameTask_operate
    · simp
    · simp
    · rfl
  · apply proper_begin hc
  · apply proper_write hs hc ha.1 ha.2
  · next hstage => apply proper_move hc hstage
  · next hstage => apply proper_reread hs hc hstage
  · apply Effect.Proper.of_sameTask hc
    · rfl
    · apply Wizard.SameTask.refl
    · simp [rest]
    · simp [rest]
    · rfl

/-- What holds of the tasks and is kept by writing and moving holds after an act. -/
theorem act_induction {motive : Tasks → Prop} {a : Act} (hbefore : motive m.tasks)
    (hwrite : ∀ {t outcome now id change}, a = .write outcome now id →
      c.wizard.writing t m.project now id m.tasks = .ok change → motive change.tasks)
    (hmove : ∀ {now id name change}, m.tasks.moveTask now id name = .ok change →
      motive change.tasks) :
  motive (c.act m dir a).manager.tasks
  := by
  unfold act
  split
  · exact hbefore
  · rw [begin]
    split <;> exact hbefore
  · next outcome now id t _ =>
    have hwritten : motive (c.wizard.write t m dir outcome now id).manager.tasks := by
      rw [Wizard.manager_write]
      exact Manager.mutate_induction hbefore (hwrite rfl)
    unfold write
    simp only
    split <;> exact hwritten
  · next outcome now t record _ =>
    have hmoved : motive (c.wizard.relocate record m dir outcome now).manager.tasks :=
      Manager.mutate_induction hbefore hmove
    rw [move]
    simp only
    split <;> exact hmoved
  · rw [reread]
    exact hbefore
  · exact hbefore

/-- The tasks stay sound, whatever a client does. -/
theorem sound_act (hs : m.tasks.Sound) {a : Act} (ha : a.Fresh m.tasks) :
  (c.act m dir a).manager.tasks.Sound
  := by
  apply act_induction hs
  · rintro t outcome now id change rfl hchange
    apply Wizard.sound_writing hs ha.1 ha.2 hchange
  · intro now id name change hchange
    apply hs.of_moveTask hchange

/-- The records keep their own ids, whatever a client does. -/
theorem indexed_act (hs : m.tasks.Indexed) (a : Act) :
  (c.act m dir a).manager.tasks.Indexed
  := by
  apply act_induction hs
  · intro t outcome now id change _ hchange
    apply Wizard.indexed_writing hs hchange
  · intro now id name change hchange
    apply hs.of_moveTask hchange

end TaskDesk.Client
