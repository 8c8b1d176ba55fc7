import TaskDesk.Proofs.Clients.Safety
import TaskDesk.Proofs.Wizard.Validity

/-!
# Commits of what a wizard at work finds good

Whatever happened in a workshop, a commit of good fields whose saves go well succeeds exactly if the
manager accepts what the wizard holds.  As long as records keep their ids and only records of the
manager are edited, a wizard is accepted unless it gives its task the name of another one.  That a
wizard does not look for such a name, once its record is saved, is why it finds fields good that
are then refused.
-/

namespace TaskDesk

/-! ### Selected task types -/

namespace Client

variable {c : Client} {m : Manager} {dir : TaskDir}

/-- Whatever a client does, a selected task type is in the catalog. -/
theorem offered_act (h : c.wizard.Offered) (a : Act) :
  (c.act m dir a).client.wizard.Offered
  := by
  have hworked := c.worked_act m dir a
  generalize (c.act m dir a).client.wizard = w at hworked ⊢
  cases hworked with
  | operated o _ => exact Wizard.offered_operate m h o
  | judged _ => exact h.of_eq rfl rfl
  | finished _ t r _ => exact Wizard.offered_finish h t r
  | kept _ _ => exact h

end Client

namespace Workshop

theorem offered_after {s : Workshop} (h : ∀ c ∈ s.clients, c.wizard.Offered) (e : Event) :
  ∀ c ∈ (s.after e).clients, c.wizard.Offered
  := by
  apply clients_after h
  · intro catalog _
    apply Wizard.offered_create
  · intro catalog r w _ hw
    apply Wizard.offered_edit hw
  · intro k a c _ hc
    apply Client.offered_act
    apply h c (List.mem_of_getElem? hc)

theorem offered_run {s : Workshop} (h : ∀ c ∈ s.clients, c.wizard.Offered)
    (events : List Event) :
  ∀ c ∈ (s.run events).clients, c.wizard.Offered
  := by
  induction events generalizing s with
  | nil => exact h
  | cons e rest ih => exact ih (offered_after h e)

/-! ### Own tasks -/

/-- A client whose wizard has a saved record has it from the tasks of the manager. -/
structure Rooted (s : Workshop) : Prop where
  tasks : s.manager.tasks.Indexed
  consistent : ∀ c ∈ s.clients, c.Consistent
  present : ∀ c ∈ s.clients, ∀ id, c.wizard.taskId? = some id →
    ∃ r, s.manager.tasks.task? id = some r

/-- An event is rooted if it is admissible and a saved record that it takes for editing is one of
a task. -/
def Event.Rooted (s : Tasks) : Event → Prop
  | .call step => step.action.Admissible s
  | .create _ => True
  | .edit _ r => r.isSaved = true → (s.task? r.id).isSome = true
  | .act _ a => a.Fresh s

instance (s : Tasks) : (e : Event) → Decidable (e.Rooted s)
  | .call step => inferInstanceAs (Decidable (step.action.Admissible s))
  | .create _ => inferInstanceAs (Decidable True)
  | .edit _ r => inferInstanceAs (Decidable (r.isSaved = true → (s.task? r.id).isSome = true))
  | .act _ a => inferInstanceAs (Decidable (a.Fresh s))

theorem Event.Rooted.admissible {s : Tasks} {e : Event} (h : e.Rooted s) :
  e.Admissible s
  := by
  cases e with
  | call step => exact h
  | create catalog => trivial
  | edit catalog r => trivial
  | act k a => exact h

/-- A task that is there before a proper effect is there afterwards. -/
theorem exists_task?_of_proper {before : Tasks} {c : Client} {e : Client.Effect}
    (he : e.Proper before c) {id : String} {r : Record} (hr : before.task? id = some r) :
  ∃ q, e.manager.tasks.task? id = some q
  := by
  cases he.recorded with
  | kept records _ => exact ⟨r, by rwa [Tasks.task?, records]⟩
  | changed i q records _ _ _ | made i q records _ _ _ =>
    rw [Tasks.task?, records, Keyed.find?_put]
    split
    · exact ⟨q, rfl⟩
    · exact ⟨r, hr⟩

/-- If the task of a wizard was there before a proper effect, it is there afterwards. -/
theorem exists_own_of_proper {before : Tasks} {c : Client} {e : Client.Effect}
    (he : e.Proper before c)
    (hc : ∀ id, c.wizard.taskId? = some id → ∃ r, before.task? id = some r) {id : String}
    (hid : e.client.wizard.taskId? = some id) :
  ∃ r, e.manager.tasks.task? id = some r
  := by
  cases he.recorded with
  | kept _ taskId =>
    rw [taskId] at hid
    obtain ⟨r, hr⟩ := hc id hid
    exact exists_task?_of_proper he hr
  | changed i q records _ _ taskId | made i q records _ _ taskId =>
    obtain rfl := Option.some.inj (taskId.symm.trans hid)
    exact ⟨q, by rw [Tasks.task?, records, Keyed.find?_put, if_pos rfl]⟩

/-- No event that is rooted takes a task away. -/
theorem Rooted.exists_task?_after {s : Workshop} (hs : s.Rooted) {e : Event}
    (he : e.Rooted s.manager.tasks) {id : String} {r : Record}
    (hr : s.manager.tasks.task? id = some r) :
  ∃ q, (s.after e).manager.tasks.task? id = some q
  := by
  apply tasks_after (motive := fun t => ∃ q, t.task? id = some q) ⟨r, hr⟩
  · rintro step change rfl hchange
    obtain ⟨q, hq, -⟩ := (Manager.Action.within_change he hchange).task hr
    exact ⟨q, hq⟩
  · rintro k a c rfl hc
    have hproper : (c.act s.manager s.dir a).Proper s.manager.tasks c :=
      Client.proper_act hs.tasks (hs.consistent c (List.mem_of_getElem? hc)) he
    exact exists_task?_of_proper hproper hr

theorem rooted_after {s : Workshop} (hs : s.Rooted) {e : Event} (he : e.Rooted s.manager.tasks) :
  (s.after e).Rooted
  where
  tasks := by
    apply tasks_after hs.tasks
    · rintro step change rfl hchange
      apply Manager.Action.indexed_change hs.tasks he hchange
    · intro k a c _ _
      apply Client.indexed_act hs.tasks
  consistent := consistent_after hs.tasks hs.consistent he.admissible
  present := by
    apply clients_after
    · intro c hc id hid
      obtain ⟨r, hr⟩ := hs.present c hc id hid
      apply hs.exists_task?_after he hr
    · rintro catalog - id hid
      cases hid
    · rintro catalog r w rfl hw id hid
      obtain ⟨q, hq, rfl, hne⟩ := Wizard.taskId?_eq_some.mp hid
      obtain ⟨hrecord, -⟩ := Wizard.edit_ok hw
      obtain rfl : r = q := Option.some.inj (hrecord.symm.trans hq)
      obtain ⟨q, hq⟩ := Option.isSome_iff_exists.mp (he (decide_eq_true hne))
      apply hs.exists_task?_after he hq
    · rintro k a c rfl hc id hid
      have heffect : s.effect? k a = some (c.act s.manager s.dir a) :=
        effect?_eq_some.mpr ⟨c, hc, rfl⟩
      rw [after_act heffect]
      have hmem := List.mem_of_getElem? hc
      have hproper : (c.act s.manager s.dir a).Proper s.manager.tasks c :=
        Client.proper_act hs.tasks (hs.consistent c hmem) he
      exact exists_own_of_proper hproper (hs.present c hmem) hid

/-! ### Commits of good fields -/

/-- If a wizard at work finds its fields good and is then committed at once, with saves that go
well, the commit succeeds exactly if the manager accepts what the wizard holds.

If the workshop began with records under their own ids, and all events since were rooted, the
commit succeeds unless the wizard gives its task the name of another one; for that name the
manager then refuses it. -/
theorem commit_of_validate {m : Manager} {dir : TaskDir} {events : List Event} {k : Nat}
    {c : Client} (hc : ((mk m dir []).run events).clients[k]? = some c)
    (hvalid : (c.wizard.act ((mk m dir []).run events).manager .validate).answer = .ok true)
    (now : Timestamp) (id : String) :
  let s := (mk m dir []).run events
  let w := (c.wizard.act s.manager .validate).wizard
  let reply := w.commit s.manager s.dir .saved .saved now id
  ((∃ session, reply.answer = .ok session) ↔ w.Accepted s.manager.tasks)
    ∧ (m.tasks.Indexed → (mk m dir []).Obeys Event.Rooted events →
      ((∃ session, reply.answer = .ok session) ↔ ¬w.Clashes s.manager.tasks)
        ∧ (w.Clashes s.manager.tasks →
          reply = ⟨w, s.manager, s.dir,
            .error (.manager (.task (.duplicateName w.name s.manager.project))), []⟩))
  := by
  intro s w reply
  have hmem : c ∈ s.clients := List.mem_of_getElem? hc
  have hoffered : w.Offered := by
    have hclient : c.wizard.Offered := offered_run (by simp) events c hmem
    apply hclient.of_eq rfl rfl
  have hgood : w.validate s.manager = none :=
    Option.isNone_iff_eq_none.mp (Except.ok.inj hvalid)
  have haccepted : (∃ session, reply.answer = .ok session) ↔ w.Accepted s.manager.tasks :=
    Wizard.isOk_commit_iff hoffered hgood
  refine ⟨haccepted, ?_⟩
  intro hm hobeys
  have hrooted : s.Rooted := by
    apply run_induction (fun hs he => rooted_after hs he) _ hobeys
    exact ⟨hm, by simp, by simp⟩
  have hown : ∀ id, w.taskId? = some id → ∃ r, s.manager.tasks.task? id = some r :=
    hrooted.present c hmem
  refine ⟨?_, ?_⟩
  · rw [haccepted, Wizard.accepted_iff_not_clashes hrooted.tasks hown]
  · intro hclashes
    apply Wizard.commit_of_clashes hrooted.tasks hoffered hgood hclashes

/-- A wizard made its task, takes the name of another one, and finds that good. -/
theorem commit_of_validate_instance :
  let catalog : Catalog := ⟨[.mk ⟨"common", "Common", "", none, none⟩ []
    [⟨"shell", "Shell", "common", "", none, true, .anyDriver⟩]]⟩
  let day : Timestamp := ⟨2024, 2, 29, 23, 59, 60, 1⟩
  let restore : NewTask := ⟨"shell", "Restore", "", none, Span.zero, Properties.empty⟩
  let events : List Event := [
    .call ⟨.createTask "t1" restore, day, .saved⟩, .create catalog,
    .act 0 (.operate (.act (.name "Backup"))), .act 0 (.operate (.act (.type "shell"))),
    .act 0 .begin, .act 0 (.write .saved day "t2"),
    .act 0 (.operate (.act (.name "Restore")))]
  let s := (mk (Manager.new "General") TaskDir.new []).run events
  ∃ c, s.clients[0]? = some c ∧ (c.wizard.act s.manager .validate).answer = .ok true
    ∧ ((c.wizard.act s.manager .validate).wizard.commit s.manager s.dir .saved .saved day
        "t3").answer = .error (.manager (.task (.duplicateName "Restore" "General")))
  := by
  intro catalog day restore events s
  obtain ⟨c, hc, hfields⟩ : ∃ c, s.clients[0]? = some c
      ∧ (c.wizard.name, c.wizard.taskId?, (c.wizard.validate s.manager).isNone)
        = ("Restore", some "t2", true) :=
    Option.map_eq_some_iff.mp (by decide +kernel)
  simp only [Prod.mk.injEq] at hfields
  obtain ⟨hname, hid, hgood⟩ := hfields
  have hvalid : (c.wizard.act s.manager .validate).answer = .ok true := congrArg Except.ok hgood
  obtain ⟨r, hr, hown⟩ : ∃ r, s.manager.tasks.task? "t2" = some r ∧ r.name = "Backup" :=
    Option.map_eq_some_iff.mp (by decide +kernel)
  obtain ⟨q, hq, hother⟩ : ∃ q, s.manager.tasks.task? "t1" = some q ∧ q.name = "Restore" :=
    Option.map_eq_some_iff.mp (by decide +kernel)
  have hclashes : c.wizard.Clashes s.manager.tasks := by
    refine ⟨"t2", r, hid, hr, ?_, "t1", q, hq, hother.trans hname.symm, ?_⟩
    · rw [hown, hname]
      decide
    · rw [hid]
      decide
  have hobeys : (mk (Manager.new "General") TaskDir.new []).Obeys Event.Rooted events := by
    decide +kernel
  obtain ⟨-, hrooted⟩ := commit_of_validate hc hvalid day "t3"
  obtain ⟨-, hrefused⟩ := hrooted Tasks.sound_empty.toIndexed hobeys
  refine ⟨c, hc, hvalid, ?_⟩
  have hsettled : (c.wizard.act s.manager .validate).wizard.name = "Restore" := hname
  have hproject : s.manager.project = "General" := by decide +kernel
  rw [hrefused hclashes, hsettled, hproject]

end Workshop

end TaskDesk
