import TaskDesk.Proofs.Wizard.Commit

/-!
# How a commit ends

A commit that is done at once ends in one of seven ways, and `Conclusion` says of each what comes
out of it: the fields are found bad, the manager refuses the task or cannot save it, the task is
written where it is, it is missing when it is to be moved, the move cannot be saved, or the task is
moved.  There are no other ways, `conclusion_commit`.  Where records have their own ids no task is
missing, and a commit that succeeds finishes with the record that it stored: `Conclusion.stored`.
-/

namespace TaskDesk

namespace Wizard

/-- How a commit can end, with the reply that it gives. -/
inductive Conclusion (w : Wizard) (m : Manager) (dir : TaskDir) (first second : SaveOutcome)
    (now : Timestamp) (id : String) : StepReply (Except WizardError Session) → Prop where
  | judged {e} (hbegin : (w.begin m).2 = .error e) :
      Conclusion w m dir first second now id ⟨w.settle m, m, dir, .error e, []⟩
  | refused {t e} (hbegin : (w.begin m).2 = .ok t)
      (hrefused : w.writing t m.project now id m.tasks = .error e) :
      Conclusion w m dir first second now id
        ⟨w.settle m, m, dir, .error (.manager (.task e)), []⟩
  | unsaved {t c d e} (hbegin : (w.begin m).2 = .ok t)
      (hc : w.writing t m.project now id m.tasks = .ok c)
      (hm : m.isBacked = true) (hfirst : first ≠ .saved) (hfile : d.file = dir.file) :
      Conclusion w m dir first second now id
        ⟨w.settle m, m, d, .error (.manager (.storage e)), []⟩
  | written {t c} (hbegin : (w.begin m).2 = .ok t)
      (hc : w.writing t m.project now id m.tasks = .ok c)
      (hfirst : m.isBacked = true → first = .saved)
      (hplace : w.taskId? = none ∨ c.value.folder = w.folder) :
      Conclusion w m dir first second now id
        ⟨((w.settle m).finish t c.value).1, { m with tasks := c.tasks },
          if m.isBacked then Manager.savedDir c.tasks else dir,
          .ok ((w.settle m).finish t c.value).2, c.events⟩
  | missing {t c saved e} (hbegin : (w.begin m).2 = .ok t)
      (hc : w.writing t m.project now id m.tasks = .ok c)
      (hfirst : m.isBacked = true → first = .saved)
      (hsaved : w.taskId? = some saved) (hplace : c.value.folder ≠ w.folder)
      (hmissing : c.tasks.moveTask now c.value.id w.folder = .error e) :
      Conclusion w m dir first second now id
        ⟨w.settle m, { m with tasks := c.tasks },
          if m.isBacked then Manager.savedDir c.tasks else dir,
          .error (.manager (.task e)), c.events⟩
  | unmoved {t c saved c' d e} (hbegin : (w.begin m).2 = .ok t)
      (hc : w.writing t m.project now id m.tasks = .ok c)
      (hm : m.isBacked = true) (hfirst : first = .saved)
      (hsaved : w.taskId? = some saved) (hplace : c.value.folder ≠ w.folder)
      (hc' : c.tasks.moveTask now c.value.id w.folder = .ok c')
      (hsecond : second ≠ .saved) (hfile : d.file = (Manager.savedDir c.tasks).file) :
      Conclusion w m dir first second now id
        ⟨w.settle m, { m with tasks := c.tasks }, d, .error (.manager (.storage e)), c.events⟩
  | moved {t c saved c' r} (hbegin : (w.begin m).2 = .ok t)
      (hc : w.writing t m.project now id m.tasks = .ok c)
      (hfirst : m.isBacked = true → first = .saved)
      (hsaved : w.taskId? = some saved) (hplace : c.value.folder ≠ w.folder)
      (hc' : c.tasks.moveTask now c.value.id w.folder = .ok c')
      (hsecond : m.isBacked = true → second = .saved)
      (hr : (if c'.value then c'.tasks.task? c.value.id else some c.value) = some r) :
      Conclusion w m dir first second now id
        ⟨((w.settle m).finish t r).1, { m with tasks := c'.tasks },
          if m.isBacked then Manager.savedDir c'.tasks else dir,
          .ok ((w.settle m).finish t r).2, c.events ++ c'.events⟩

section

variable {w : Wizard} {t : TaskType} {m : Manager} {dir : TaskDir} {first second : SaveOutcome}
  {now : Timestamp} {id : String}

/-- A task that was written is missing, or it is moved, or the move cannot be saved. -/
theorem conclusion_move (hbegin : (w.begin m).2 = .ok t) {c : Change Record}
    (hc : w.writing t m.project now id m.tasks = .ok c)
    (hfirst : m.isBacked = true → first = .saved) {saved : String}
    (hsaved : w.taskId? = some saved) (hplace : c.value.folder ≠ w.folder) :
  let moved := (w.settle m).move t c.value { m with tasks := c.tasks }
    (if m.isBacked then Manager.savedDir c.tasks else dir) second now
  Conclusion w m dir first second now id { moved with events := c.events ++ moved.events }
  := by
  intro moved
  have hmoved : moved = (w.settle m).move t c.value { m with tasks := c.tasks }
    (if m.isBacked then Manager.savedDir c.tasks else dir) second now := rfl
  rw [move_eq, relocate] at hmoved
  have hfolder : (w.settle m).folder = w.folder := rfl
  obtain ⟨e, he, hreply⟩ | ⟨c', hc', ⟨d, e, hm, hsecond, hfile, hreply⟩ | ⟨hsecond, hreply⟩⟩ :=
    Manager.mutate_cases { m with tasks := c.tasks }
      (if m.isBacked then Manager.savedDir c.tasks else dir) second
      (Tasks.moveTask now c.value.id (w.settle m).folder)
  · rw [hreply] at hmoved
    rw [hmoved]
    simp only [List.append_nil]
    exact .missing hbegin hc hfirst hsaved hplace he
  · rw [hreply] at hmoved
    rw [hmoved]
    simp only [List.append_nil]
    have hm' : m.isBacked = true := hm
    rw [if_pos hm'] at hfile
    exact .unmoved hbegin hc hm' (hfirst hm') hsaved hplace hc' hsecond hfile
  · have hdir : (if m.isBacked then Manager.savedDir c'.tasks
        else if m.isBacked then Manager.savedDir c.tasks else dir)
        = if m.isBacked then Manager.savedDir c'.tasks else dir := by
      cases m.isBacked <;> rfl
    rw [hreply] at hmoved
    simp only [hdir] at hmoved
    cases hvalue : c'.value with
    | false =>
      simp only [hvalue] at hmoved
      rw [hmoved]
      exact .moved hbegin hc hfirst hsaved hplace hc' hsecond (by rw [hvalue]; rfl)
    | true =>
      obtain ⟨r, hr⟩ : ∃ r, c'.tasks.task? c.value.id = some r := Tasks.exists_task?_moveTask hc'
      simp only [hvalue, reread, hr] at hmoved
      rw [hmoved]
      exact .moved hbegin hc hfirst hsaved hplace hc' hsecond (by rw [hvalue]; exact hr)

theorem conclusion_commit (w : Wizard) (m : Manager) (dir : TaskDir) (first second : SaveOutcome)
    (now : Timestamp) (id : String) :
  Conclusion w m dir first second now id (w.commit m dir first second now id)
  := by
  rw [commit]
  cases hanswer : (w.begin m).2 with
  | error e =>
    have hbegin : w.begin m = (w.settle m, .error e) := by rw [← fst_begin, ← hanswer]
    rw [hbegin]
    exact .judged hanswer
  | ok t =>
    have hbegin : w.begin m = (w.settle m, .ok t) := by rw [← fst_begin, ← hanswer]
    -- Judging the fields does not touch what is written.
    have hwriting : (w.settle m).writing t m.project now id = w.writing t m.project now id := rfl
    rw [hbegin]
    simp only
    rw [write_eq, hwriting]
    obtain ⟨e, he, hreply⟩ | ⟨c, hc, ⟨d, e, hm, hfirst, hfile, hreply⟩ | ⟨hfirst, hreply⟩⟩ :=
      m.mutate_cases dir first (w.writing t m.project now id)
    · rw [hreply]
      exact .refused hanswer he
    · rw [hreply]
      exact .unsaved hanswer hc hm hfirst hfile
    · rw [hreply]
      by_cases hplace : w.taskId? = none ∨ c.value.folder = w.folder
      · have hplace' : (w.settle m).taskId? = none ∨ c.value.folder = (w.settle m).folder :=
          hplace
        simp only [if_pos hplace']
        exact .written hanswer hc hfirst hplace
      · have hplace' : ¬((w.settle m).taskId? = none ∨ c.value.folder = (w.settle m).folder) :=
          hplace
        simp only [if_neg hplace']
        rw [not_or] at hplace
        obtain ⟨saved, hsaved⟩ := Option.ne_none_iff_exists'.mp hplace.1
        exact conclusion_move hanswer hc hfirst hsaved hplace.2

/-- A commit that fails has judged the fields and left the wizard as it was otherwise. -/
theorem Conclusion.wizard_of_error {reply : StepReply (Except WizardError Session)}
    (h : Conclusion w m dir first second now id reply) {e : WizardError}
    (herror : reply.answer = .error e) :
  reply.wizard = w.settle m
  := by
  cases h with
  | written | moved => cases herror
  | judged | refused | unsaved | missing | unmoved => rfl

/-! ### What a commit stores -/

/-- A commit keeps records under their own ids. -/
theorem Conclusion.indexed {reply : StepReply (Except WizardError Session)}
    (hs : m.tasks.Indexed) (h : Conclusion w m dir first second now id reply) :
  reply.manager.tasks.Indexed
  := by
  cases h with
  | judged | refused | unsaved => exact hs
  | written hbegin hc | missing hbegin hc | unmoved hbegin hc =>
    exact indexed_writing hs hc
  | moved hbegin hc _ _ _ hc' => exact (indexed_writing hs hc).of_moveTask hc'

/-- A task that was moved is the one that was written, but for its folder. -/
theorem task?_moved {s : Tasks} (hs : s.Indexed) {project : String} {c : Change Record}
    (hc : w.writing t project now id s = .ok c) {c' : Change Bool}
    (hc' : c.tasks.moveTask now c.value.id w.folder = .ok c') {r : Record}
    (hr : (if c'.value then c'.tasks.task? c.value.id else some c.value) = some r) :
  r.id = c.value.id ∧ r.taskType = c.value.taskType ∧ c'.tasks.task? c.value.id = some r
  := by
  have hwritten := task?_writing hs hc
  obtain ⟨q, hq, hmove⟩ := Tasks.moveTask_eq_ok.mp hc'
  rw [hwritten] at hq
  obtain rfl := Option.some.inj hq
  obtain ⟨-, rfl⟩ | ⟨-, rfl⟩ := hmove
  · obtain rfl := Option.some.inj hr
    exact ⟨rfl, rfl, hwritten⟩
  · simp only [Tasks.task?_relocate, if_true] at hr ⊢
    obtain rfl := Option.some.inj hr
    exact ⟨rfl, rfl, rfl⟩

/-- A commit that succeeds is finished with the record of its task, as it is stored by then. -/
theorem Conclusion.stored {reply : StepReply (Except WizardError Session)} (hs : m.tasks.Indexed)
    (h : Conclusion w m dir first second now id reply) {session : Session}
    (hok : reply.answer = .ok session) :
  ∃ t r, w.taskType? = some t ∧ reply.manager.tasks.task? r.id = some r ∧ r.taskType = t.id
    ∧ (w.taskId? = some r.id ∨ w.taskId? = none ∧ r.id = id)
    ∧ reply.wizard = ((w.settle m).finish t r).1 ∧ session = ((w.settle m).finish t r).2
  := by
  cases h with
  | judged | refused | unsaved | missing | unmoved => cases hok
  | @written t c hbegin hc =>
    obtain rfl := Except.ok.inj hok
    obtain ⟨-, hown⟩ := records_writing hs hc
    exact ⟨t, c.value, (begin_eq_ok.mp hbegin).2, task?_writing hs hc, taskType_writing hc,
      hown.symm.imp_left And.left, rfl, rfl⟩
  | @moved t c saved c' r hbegin hc hfirst hsaved hplace hc' hsecond hr =>
    obtain rfl := Except.ok.inj hok
    obtain ⟨hid, htype, hthere⟩ := task?_moved hs hc hc' hr
    obtain ⟨-, hown⟩ := records_writing hs hc
    rw [taskType_writing hc] at htype
    rw [← hid] at hthere hown
    exact ⟨t, r, (begin_eq_ok.mp hbegin).2, hthere, htype, hown.symm.imp_left And.left, rfl, rfl⟩

end

end Wizard

end TaskDesk
