import TaskDesk.Proofs.Clients.Act

/-!
# Clients do not get into each other's way

In every state of a workshop that starts without tasks the tasks are sound and the clients are
consistent, whatever the order of their steps and whatever becomes of the saves.  So names stay
distinct, each wizard adds at most one task and from then on works on that one, and a commit comes
to nothing when the name of the wizard was taken since its fields were judged.
-/

namespace TaskDesk

namespace Workshop

/-- The tasks are sound and each client is consistent. -/
structure Safe (s : Workshop) : Prop where
  tasks : s.manager.tasks.Sound
  clients : ∀ c ∈ s.clients, c.Consistent

theorem safe_start (project : String) (isBacked : Bool) (dir : TaskDir) :
  (start project isBacked dir).Safe
  where
  tasks := Tasks.sound_empty
  clients c hc := by cases hc

/-! ### New ids -/

theorem newIds_of_records_eq {before after : Tasks} (h : after.records = before.records) :
  newIds before after = []
  := by
  simp [newIds, h]

theorem newIds_of_present {before after : Tasks} {id : String} {r : Record}
    (h : after.records = Keyed.put id r before.records) (hid : id ∈ Keyed.keys before.records) :
  newIds before after = []
  := by
  simp [newIds, h, Keyed.keys_put, hid]

theorem newIds_of_absent {before after : Tasks} {id : String} {r : Record}
    (h : after.records = Keyed.put id r before.records) (hid : id ∉ Keyed.keys before.records) :
  newIds before after = [id]
  := by
  simp [newIds, h, Keyed.keys_put, hid]

/-! ### Steps -/

/-- A client stays consistent, and has the new task added that its act made, if any. -/
theorem consistent_credited {s : Workshop} {c : Client} {e : Client.Effect} (hc : c.Consistent)
    (he : e.Proper s.manager.tasks c) :
  (s.credited e).Consistent
  where
  sessions := he.sessions
  stage := he.stage
  added := by
    rw [credited]
    simp only
    rw [he.added]
    cases he.recorded with
    | kept records taskId =>
      rw [newIds_of_records_eq records, List.append_nil, taskId]
      exact hc.added
    | changed id r records present own taskId =>
      rw [newIds_of_present records present, List.append_nil, taskId, ← own]
      exact hc.added
    | made id r records absent own taskId =>
      rw [newIds_of_absent records absent, taskId]
      obtain hnone | ⟨i, -, hi⟩ := hc.added
      · rw [hnone]
        exact .inr ⟨id, rfl, rfl⟩
      · simp [own] at hi

/-- No admissible event makes a client inconsistent. -/
theorem consistent_after {s : Workshop} (hs : s.manager.tasks.Indexed)
    (hclients : ∀ c ∈ s.clients, c.Consistent) {e : Event}
    (he : e.Admissible s.manager.tasks) :
  ∀ c ∈ (s.after e).clients, c.Consistent
  := by
  apply clients_after hclients
  · intro catalog _
    apply Client.consistent_new rfl
  · intro catalog r w _ hw
    obtain ⟨-, hsessions, -⟩ := Wizard.edit_ok hw
    apply Client.consistent_new hsessions
  · rintro k a c rfl hc
    have hconsistent := hclients c (List.mem_of_getElem? hc)
    apply consistent_credited hconsistent
    apply Client.proper_act hs hconsistent he

theorem safe_after {s : Workshop} (hs : s.Safe) {e : Event}
    (he : e.Admissible s.manager.tasks) :
  (s.after e).Safe
  where
  tasks := by
    apply tasks_after hs.tasks
    · rintro step change rfl hchange
      apply Manager.Action.sound_change hs.tasks he hchange
    · rintro k a c rfl -
      apply Client.sound_act hs.tasks he
  clients := consistent_after hs.tasks.toIndexed hs.clients he

/-! ### What a step of a client leaves alone -/

/-- A client with a task of its own works on that one only. -/
theorem task?_of_proper {before : Tasks} {c : Client} {e : Client.Effect}
    (he : e.Proper before c) {i : String} (hi : c.wizard.taskId? = some i) :
  e.client.wizard.taskId? = some i
    ∧ ∀ j, j ≠ i → e.manager.tasks.task? j = before.task? j
  := by
  cases he.recorded with
  | kept records taskId =>
    refine ⟨by rw [taskId, hi], ?_⟩
    intro j hj
    rw [Tasks.task?, records, Tasks.task?]
  | changed id r records present own taskId =>
    obtain rfl := Option.some.inj (hi.symm.trans own)
    refine ⟨taskId, ?_⟩
    intro j hj
    rw [Tasks.task?, records, Keyed.find?_put, if_neg hj, Tasks.task?]
  | made id r records absent own taskId => simp [own] at hi

/-- A commit whose name is that of another task by now comes to nothing. -/
theorem effect?_contested {s : Workshop} (hs : s.manager.tasks.Sound) {k : Nat} {c : Client}
    (hc : s.clients[k]? = some c) {t : TaskType} (hstage : c.stage = .judged t)
    (hcontested : c.wizard.Contested s.manager.tasks) (outcome : SaveOutcome) (now : Timestamp)
    (id : String) :
  ∃ e, s.effect? k (.write outcome now id)
    = some ⟨{ c with stage := .idle }, s.manager, s.dir, some (.error (.manager (.task e)))⟩
  := by
  obtain ⟨e, he⟩ : ∃ e, c.wizard.write t s.manager s.dir outcome now id
      = ⟨c.wizard, s.manager, s.dir, .done (.error (.manager (.task e))), []⟩ :=
    Wizard.write_contested hs hcontested
  use e
  rw [effect?_eq_some]
  refine ⟨c, hc, ?_⟩
  simp only [Client.act, hstage, Client.write, he]

/-- Names are distinct and every client added at most one task.  A client that added a task has it
as its own, leaves all others alone and hands out sessions of that task only.  A client that writes
while another task has the name of its wizard ends its commit with an error and changes nothing. -/
structure Orderly (s : Workshop) : Prop where
  names_distinct : ∀ {i j r q}, s.manager.tasks.task? i = some r →
    s.manager.tasks.task? j = some q → r.name = q.name → i = j
  adds_one : ∀ c ∈ s.clients, c.added.length ≤ 1
  keeps_own : ∀ {k c i a e}, s.clients[k]? = some c → i ∈ c.added → a.Fresh s.manager.tasks →
    s.effect? k a = some e →
    c.wizard.taskId? = some i ∧ e.client.wizard.taskId? = some i
      ∧ (∀ j, j ≠ i → e.manager.tasks.task? j = s.manager.tasks.task? j)
      ∧ (∀ session, e.answer = some (.ok session) → session.taskId = i)
  contested_refused : ∀ {k c t}, s.clients[k]? = some c → c.stage = .judged t →
    c.wizard.Contested s.manager.tasks → ∀ outcome now id,
    ∃ e error, s.effect? k (.write outcome now id) = some e
      ∧ e.answer = some (.error error) ∧ e.manager = s.manager ∧ e.dir = s.dir

theorem Safe.orderly {s : Workshop} (hs : s.Safe) :
  s.Orderly
  where
  names_distinct := hs.tasks.name_injective
  adds_one c hc := by
    obtain hadded | ⟨i, hadded, -⟩ := (hs.clients c hc).added <;> simp [hadded]
  keeps_own {k c i a e} hc hi ha he := by
    obtain ⟨c', hc', rfl⟩ := effect?_eq_some.mp he
    obtain rfl := Option.some.inj (hc.symm.trans hc')
    have hconsistent := hs.clients c (List.mem_of_getElem? hc)
    have hproper : (c.act s.manager s.dir a).Proper s.manager.tasks c :=
      Client.proper_act hs.tasks.toIndexed hconsistent ha
    have hown : c.wizard.taskId? = some i := by
      obtain hadded | ⟨j, hadded, hj⟩ := hconsistent.added
      · simp [hadded] at hi
      · obtain rfl : i = j := by simpa [hadded] using hi
        exact hj
    obtain ⟨hkept, hothers⟩ := task?_of_proper hproper hown
    refine ⟨hown, hkept, hothers, ?_⟩
    intro session hsession
    have htask := hproper.answer session hsession
    rw [hkept] at htask
    exact (Option.some.inj htask).symm
  contested_refused {k c t} hc hstage hcontested outcome now id := by
    obtain ⟨e, he⟩ := effect?_contested hs.tasks hc hstage hcontested outcome now id
    exact ⟨_, _, he, rfl, rfl, rfl⟩

/-- Every state of a workshop that starts without tasks is orderly, whatever the order in which
the clients take their steps and others call the manager, and whatever becomes of the saves. -/
theorem orderly_of_start (project : String) (isBacked : Bool) (dir : TaskDir)
    (events : List Event) (h : (start project isBacked dir).Obeys Event.Admissible events) :
  ((start project isBacked dir).run events).Orderly
  := by
  have hsafe : ((start project isBacked dir).run events).Safe :=
    run_induction (fun hs he => safe_after hs he) (safe_start project isBacked dir) h
  exact hsafe.orderly

/-- Two wizards find the same name good, one takes it, the other is refused, takes another name,
fails to save, tries again, and renames its task in a second commit. -/
theorem orderly_of_start_instance :
  let catalog : Catalog := ⟨[.mk ⟨"common", "Common", "", none, none⟩ []
    [⟨"shell", "Shell", "common", "", none, true, .anyDriver⟩]]⟩
  let day : Timestamp := ⟨2024, 2, 29, 23, 59, 60, 1⟩
  let events : List Event := [
    .create catalog, .create catalog,
    .act 0 (.operate (.act (.name "Backup"))), .act 0 (.operate (.act (.type "shell"))),
    .act 1 (.operate (.act (.name "Backup"))), .act 1 (.operate (.act (.type "shell"))),
    .act 0 .begin, .act 1 .begin,
    .act 1 (.write .saved day "t1"), .act 0 (.write .saved day "t2"),
    .act 0 (.operate (.act (.name "Restore"))), .act 0 .begin,
    .act 0 (.write (.notRenamed .isADirectory) day "t2"), .act 0 .begin,
    .call ⟨.createFolder "Nightly", day, .saved⟩,
    .act 0 (.write .saved day "t2"),
    .act 0 (.operate (.act (.name "Verify"))),
    .act 0 (.operate (.act (.folder (some "Nightly")))), .act 0 .begin,
    .act 0 (.write .saved day "t3"), .act 0 (.move .saved day), .act 0 .reread]
  (start "General" true TaskDir.new).Obeys Event.Admissible events
    ∧ ((start "General" true TaskDir.new).run events).Orderly
  := by
  intro catalog day events
  have h : (start "General" true TaskDir.new).Obeys Event.Admissible events := by decide +kernel
  exact ⟨h, orderly_of_start "General" true TaskDir.new events h⟩

end Workshop

end TaskDesk
