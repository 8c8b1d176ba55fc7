import TaskDesk.Proofs.Manager.Runs
import TaskDesk.Proofs.Wizard.Conclusion
import TaskDesk.Proofs.Wizard.Validity

/-!
# The sessions that commits hand out

A wizard makes one session for each task type under which its task is committed and hands it out
again at every later commit of that type, while the task may be changed in between.  A `Docket`
notes, beside a wizard that works on a manager together with other callers, what was stored for its
task right after each commit.  A session always belongs to the task of the wizard and to the type
that is stored for it.  Its properties are those that were stored when the type was committed first,
`session_of_run`, which need not be those that are stored by now, `session_outdated`.
-/

namespace TaskDesk

namespace Wizard

variable {w : Wizard} {t : TaskType} {r : Record}

/-! ### Finishing -/

theorem snd_finish :
  (w.finish t r).2 = (Keyed.find? t.id w.sessions).getD ⟨r.id, t, r.properties⟩
  := by
  rw [finish]
  cases Keyed.find? t.id w.sessions <;> rfl

/-- A type keeps the session that it has, and the type that is committed has one. -/
theorem find?_sessions_finish (type : String) :
  Keyed.find? type (w.finish t r).1.sessions
    = (Keyed.find? type w.sessions).or
        (if type = t.id then some ⟨r.id, t, r.properties⟩ else none)
  := by
  rw [finish]
  cases h : Keyed.find? t.id w.sessions with
  | some s =>
    simp only
    by_cases htype : type = t.id
    · rw [htype, h, Option.some_or]
    · rw [if_neg htype, Option.or_none]
  | none =>
    simp only
    rw [Keyed.find?_put]
    by_cases htype : type = t.id
    · rw [if_pos htype, if_pos htype, htype, h, Option.none_or]
    · rw [if_neg htype, if_neg htype, Option.or_none]

theorem catalog_finish :
  (w.finish t r).1.catalog = w.catalog
  := by
  rw [finish]
  split <;> rfl

end Wizard

/-- A wizard that works on a manager, and the type and the properties that were stored for its task
right after each of its commits that succeeded, the first one first. -/
structure Docket where
  wizard : Wizard
  manager : Manager
  dir : TaskDir
  stored : List (String × Properties)

namespace Docket

/-- What can happen: an operation of the wizard, a commit, or a call of the manager by others. -/
inductive Event where
  | operate (o : Wizard.Operation)
  | commit (first second : SaveOutcome) (now : Timestamp) (id : String)
  | call (step : Manager.Step)

/-- A docket in which nothing was committed yet. -/
def start (w : Wizard) (m : Manager) (dir : TaskDir) : Docket :=
  ⟨w, m, dir, []⟩

/-- What is stored for the task of a wizard after a commit, if that succeeded. -/
def entry (reply : Wizard.StepReply (Except WizardError Session)) : List (String × Properties) :=
  match reply.answer with
  | .error _ => []
  | .ok _ =>
    match reply.wizard.taskId?.bind reply.manager.tasks.task? with
    | none => []
    | some r => [(r.taskType, r.properties)]

/-- The docket after an event. -/
def after (d : Docket) : Event → Docket
  | .operate o => { d with wizard := d.wizard.operate d.manager o }
  | .commit first second now id =>
    let reply := d.wizard.commit d.manager d.dir first second now id
    ⟨reply.wizard, reply.manager, reply.dir, d.stored ++ entry reply⟩
  | .call step =>
    let r := d.manager.mutate d.dir step.outcome (step.action.change d.manager.project step.now)
    { d with manager := r.manager, dir := r.dir }

/-- The docket after events, the first one first. -/
def run (d : Docket) (events : List Event) : Docket :=
  events.foldl after d

/-- An event is admissible if the id that it brings is unused and a call of the manager is
admissible. -/
def Event.Admissible (s : Tasks) : Event → Prop
  | .operate _ => True
  | .commit _ _ _ id => id ≠ "" ∧ s.task? id = none
  | .call step => step.action.Admissible s

instance (s : Tasks) : (e : Event) → Decidable (e.Admissible s)
  | .operate _ => inferInstanceAs (Decidable True)
  | .commit _ _ _ id => inferInstanceAs (Decidable (id ≠ "" ∧ s.task? id = none))
  | .call step => inferInstanceAs (Decidable (step.action.Admissible s))

/-- Whether each of the events is admissible when its turn comes. -/
def Admits : Docket → List Event → Prop
  | _, [] => True
  | d, e :: rest => e.Admissible d.manager.tasks ∧ (d.after e).Admits rest

instance decidableAdmits : (d : Docket) → (events : List Event) → Decidable (d.Admits events)
  | _, [] => inferInstanceAs (Decidable True)
  | d, e :: rest =>
    have := decidableAdmits (d.after e) rest
    inferInstanceAs (Decidable (e.Admissible d.manager.tasks ∧ (d.after e).Admits rest))

theorem admits_append {d : Docket} {first second : List Event} :
  d.Admits (first ++ second) ↔ d.Admits first ∧ (d.run first).Admits second
  := by
  induction first generalizing d with
  | nil => simp [Admits, run]
  | cons e rest ih => simp [Admits, run, ih, and_assoc]

/-! ### What dockets keep -/

/-- The sessions belong to the task of the wizard and to the types under which they are held, and
have the properties that were stored when the type was committed first. -/
structure Faithful (catalog : Catalog) (d : Docket) : Prop where
  indexed : d.manager.tasks.Indexed
  catalog_eq : d.wizard.catalog = catalog
  taskId : ∀ {type s}, Keyed.find? type d.wizard.sessions = some s →
    d.wizard.taskId? = some s.taskId
  taskType : ∀ {type s}, Keyed.find? type d.wizard.sessions = some s →
    catalog.type? type = some s.taskType
  properties : ∀ type, Keyed.find? type d.stored
    = (Keyed.find? type d.wizard.sessions).map Session.properties

theorem faithful_start {w : Wizard} {m : Manager} (hsessions : w.sessions = [])
    (hs : m.tasks.Indexed) (dir : TaskDir) :
  (start w m dir).Faithful w.catalog
  where
  indexed := hs
  catalog_eq := rfl
  taskId h := by simp [start, hsessions, Keyed.find?] at h
  taskType h := by simp [start, hsessions, Keyed.find?] at h
  properties type := by simp [start, hsessions, Keyed.find?]

variable {catalog : Catalog} {d : Docket}

/-- What is said of the sessions depends on the wizard through its task, its sessions and its
catalog only. -/
theorem Faithful.of_sameTask (h : d.Faithful catalog) {w : Wizard} (hsame : d.wizard.SameTask w)
    {m : Manager} (hs : m.tasks.Indexed) (dir : TaskDir) :
  Faithful catalog ⟨w, m, dir, d.stored⟩
  where
  indexed := hs
  catalog_eq := hsame.catalog.trans h.catalog_eq
  taskId hfind := by
    rw [hsame.sessions] at hfind
    rw [hsame.taskId?]
    exact h.taskId hfind
  taskType hfind := by
    rw [hsame.sessions] at hfind
    exact h.taskType hfind
  properties type := by
    rw [hsame.sessions]
    exact h.properties type

section Finish

variable {t : TaskType} {r : Record}

/-- What is finished with a record of the task under a type of the catalog is noted faithfully. -/
theorem Faithful.finish (h : d.Faithful catalog) (ht : catalog.type? t.id = some t)
    (hid : r.id ≠ "") (hown : ∀ {type s}, Keyed.find? type d.wizard.sessions = some s →
      s.taskId = r.id) {m : Manager} (hs : m.tasks.Indexed) (dir : TaskDir) :
  Faithful catalog ⟨(d.wizard.finish t r).1, m, dir, d.stored ++ [(t.id, r.properties)]⟩
  := by
  -- A session is one that was there, or the one that is made for the type.
  have hcases {type : String} {s : Session}
      (hfind : Keyed.find? type (d.wizard.finish t r).1.sessions = some s) :
      Keyed.find? type d.wizard.sessions = some s
        ∨ type = t.id ∧ s = ⟨r.id, t, r.properties⟩ := by
    rw [Wizard.find?_sessions_finish, Option.or_eq_some_iff] at hfind
    obtain hold | ⟨-, hnew⟩ := hfind
    · exact .inl hold
    · split at hnew
      · next htype => exact .inr ⟨htype, (Option.some.inj hnew).symm⟩
      · cases hnew
  have htask : (d.wizard.finish t r).1.taskId? = some r.id :=
    Wizard.taskId?_eq_some.mpr ⟨r, Wizard.record_finish d.wizard t r, rfl, hid⟩
  constructor
  · exact hs
  · exact Wizard.catalog_finish.trans h.catalog_eq
  · intro type s hfind
    rw [htask]
    obtain hold | ⟨-, rfl⟩ := hcases hfind
    · rw [hown hold]
    · rfl
  · intro type s hfind
    obtain hold | ⟨rfl, rfl⟩ := hcases hfind
    · exact h.taskType hold
    · exact ht
  · intro type
    rw [Keyed.find?_append, h.properties, Wizard.find?_sessions_finish, Keyed.find?, Keyed.find?]
    cases Keyed.find? type d.wizard.sessions with
    | some s => rfl
    | none => by_cases htype : type = t.id <;> simp [htype]

/-- The session with which the commit of a type is finished. -/
theorem Faithful.snd_finish (h : d.Faithful catalog) (ht : catalog.type? t.id = some t)
    (hown : ∀ {type s}, Keyed.find? type d.wizard.sessions = some s → s.taskId = r.id) :
  let session := (d.wizard.finish t r).2
  session.taskId = r.id ∧ catalog.type? t.id = some session.taskType
    ∧ session.properties = (Keyed.find? t.id d.stored).getD r.properties
  := by
  intro session
  have hsession : session = (Keyed.find? t.id d.wizard.sessions).getD ⟨r.id, t, r.properties⟩ :=
    Wizard.snd_finish
  rw [hsession, h.properties]
  cases hfind : Keyed.find? t.id d.wizard.sessions with
  | some s => exact ⟨hown hfind, h.taskType hfind, rfl⟩
  | none => exact ⟨rfl, ht, rfl⟩

end Finish

variable {first second : SaveOutcome} {now : Timestamp} {id : String}

/-- A commit that succeeds hands out a session of the task as it is stored then, and is noted
faithfully. -/
theorem Faithful.commit_ok (h : d.Faithful catalog) (hid : id ≠ "") {session : Session}
    (hok : (d.wizard.commit d.manager d.dir first second now id).answer = .ok session) :
  let reply := d.wizard.commit d.manager d.dir first second now id
  (∃ r, reply.wizard.record = some r ∧ reply.manager.tasks.task? r.id = some r
      ∧ session.taskId = r.id ∧ catalog.type? r.taskType = some session.taskType
      ∧ session.properties = (Keyed.find? r.taskType d.stored).getD r.properties)
    ∧ Faithful catalog ⟨reply.wizard, reply.manager, reply.dir, d.stored ++ entry reply⟩
  := by
  intro reply
  have hconclusion : d.wizard.Conclusion d.manager d.dir first second now id reply :=
    Wizard.conclusion_commit d.wizard d.manager d.dir first second now id
  have hindexed : reply.manager.tasks.Indexed := hconclusion.indexed h.indexed
  obtain ⟨t, r, htype?, hr, htype, hown, hwizard, hsession⟩ := hconclusion.stored h.indexed hok
  have hsettled := h.of_sameTask (Wizard.sameTask_settle d.manager d.wizard) h.indexed d.dir
  have ht : catalog.type? t.id = some t := by
    rw [← h.catalog_eq]
    exact Wizard.type?_of_taskType? htype?
  have hnonempty : r.id ≠ "" := by
    obtain hsaved | ⟨-, hnew⟩ := hown
    · obtain ⟨-, -, -, hne⟩ := Wizard.taskId?_eq_some.mp hsaved
      exact hne
    · rwa [hnew]
  -- Sessions that are there already belong to the task that is committed again.
  have hown' {type : String} {s : Session} (hs : Keyed.find? type d.wizard.sessions = some s) :
      s.taskId = r.id := by
    have htaskId := h.taskId hs
    obtain hsaved | ⟨hnew, -⟩ := hown
    · exact Option.some.inj (htaskId.symm.trans hsaved)
    · simp [hnew] at htaskId
  have hrecord : reply.wizard.record = some r := by rw [hwizard, Wizard.record_finish]
  have hentry : entry reply = [(t.id, r.properties)] := by
    have htaskId := Wizard.taskId?_eq_some.mpr ⟨r, hrecord, rfl, hnonempty⟩
    rw [entry, hok]
    simp only [htaskId, Option.bind_some, hr, htype]
  constructor
  · refine ⟨r, hrecord, hr, ?_⟩
    rw [htype, hsession]
    exact hsettled.snd_finish ht hown'
  · rw [hentry, hwizard]
    exact hsettled.finish ht hnonempty hown' hindexed reply.dir

/-- A commit that fails leaves the task and the sessions of the wizard alone. -/
theorem Faithful.commit_failed (h : d.Faithful catalog) {e : WizardError}
    (herror : (d.wizard.commit d.manager d.dir first second now id).answer = .error e) :
  let reply := d.wizard.commit d.manager d.dir first second now id
  Faithful catalog ⟨reply.wizard, reply.manager, reply.dir, d.stored ++ entry reply⟩
  := by
  intro reply
  have hconclusion : d.wizard.Conclusion d.manager d.dir first second now id reply :=
    Wizard.conclusion_commit d.wizard d.manager d.dir first second now id
  have hentry : entry reply = [] := by rw [entry, herror]
  rw [hentry, List.append_nil]
  apply h.of_sameTask _ (hconclusion.indexed h.indexed)
  rw [hconclusion.wizard_of_error herror]
  apply Wizard.sameTask_settle

theorem Faithful.after (h : d.Faithful catalog) {e : Event} (he : e.Admissible d.manager.tasks) :
  (d.after e).Faithful catalog
  := by
  cases e with
  | operate o => exact h.of_sameTask (d.wizard.sameTask_operate d.manager o) h.indexed d.dir
  | commit first second now id =>
    cases hanswer : (d.wizard.commit d.manager d.dir first second now id).answer with
    | error e => exact h.commit_failed hanswer
    | ok session => exact (h.commit_ok he.1 hanswer).2
  | call step =>
    apply h.of_sameTask (Wizard.SameTask.refl d.wizard)
    apply Manager.mutate_induction h.indexed
    intro c hc
    exact Manager.Action.indexed_change h.indexed he hc

theorem Faithful.run (h : d.Faithful catalog) {events : List Event} (hadmits : d.Admits events) :
  (d.run events).Faithful catalog
  := by
  induction events generalizing d with
  | nil => exact h
  | cons e rest ih => exact ih (h.after hadmits.1) hadmits.2

/-- Whatever was done with a wizard and to the tasks: a commit that succeeds leaves the wizard with
the record of its task as it is stored then, and hands out a session of that task and of the type
that it has, with the properties that were stored when the type was committed first. -/
theorem session_of_run {w : Wizard} {m : Manager} (hsessions : w.sessions = [])
    (hs : m.tasks.Indexed) (dir : TaskDir) (events : List Event) (first second : SaveOutcome)
    (now : Timestamp) (id : String)
    (hadmits : (start w m dir).Admits (events ++ [.commit first second now id]))
    (session : Session) :
  let d := (start w m dir).run events
  let reply := d.wizard.commit d.manager d.dir first second now id
  reply.answer = .ok session →
  ∃ r, reply.wizard.record = some r ∧ reply.manager.tasks.task? r.id = some r
    ∧ session.taskId = r.id
    ∧ session.taskType.id = r.taskType ∧ w.catalog.type? r.taskType = some session.taskType
    ∧ session.properties = (Keyed.find? r.taskType d.stored).getD r.properties
  := by
  intro d reply hok
  obtain ⟨hevents, hlast⟩ := admits_append.mp hadmits
  have hd : d.Faithful w.catalog := (faithful_start hsessions hs dir).run hevents
  obtain ⟨⟨r, hrecord, hr, htaskId, htype, hproperties⟩, -⟩ := hd.commit_ok hlast.1.1 hok
  exact ⟨r, hrecord, hr, htaskId, Wizard.id_of_type? htype, htype, hproperties⟩

/-- A task is committed under another type and then under the first one again: it has lost its
properties, and the session has those with which it was made. -/
theorem session_of_run_instance :
  let catalog : Catalog := ⟨[.mk ⟨"common", "Common", "", none, none⟩ []
    [⟨"dump", "Dump", "common", "", none, true, .anyDriver⟩,
      ⟨"shell", "Shell", "common", "", none, true, .anyDriver⟩]]⟩
  let day : Timestamp := ⟨2024, 2, 29, 23, 59, 60, 1⟩
  let events : List Event := [
    .operate (.act (.name "Backup")), .operate (.act (.type "shell")),
    .operate (.act (.property "script" (.str "backup.sh"))), .commit .saved .saved day "t1",
    .operate (.act (.type "dump")), .commit .saved .saved day "t2",
    .operate (.act (.type "shell"))]
  let d := (start (Wizard.create catalog) (Manager.new "General") TaskDir.new).run events
  let reply := d.wizard.commit d.manager d.dir .saved .saved day "t2"
  ((reply.manager.tasks.task? "t1").map fun r => r.properties.isEmpty) = some true
    ∧ ((Keyed.find? "shell" d.stored).map fun p => p.text? "script") = some (some "backup.sh")
    ∧ ∃ session, reply.answer = .ok session
      ∧ ∃ r, reply.wizard.record = some r ∧ reply.manager.tasks.task? r.id = some r
        ∧ session.taskId = r.id
        ∧ session.taskType.id = r.taskType ∧ catalog.type? r.taskType = some session.taskType
        ∧ session.properties = (Keyed.find? r.taskType d.stored).getD r.properties
  := by
  refine ⟨?lost, ?kept, ?handed⟩
  case handed =>
    apply exists_eq_ok_and
    · decide +kernel
    · apply session_of_run (w := Wizard.create _) (m := Manager.new "General") rfl
        Tasks.sound_empty.toIndexed TaskDir.new [_, _, _, _, _, _, _]
      decide +kernel
  all_goals decide +kernel

/-- A session need not have the properties that are stored: others change them after the task was
committed, and it is committed again. -/
theorem session_outdated :
  let catalog : Catalog := ⟨[.mk ⟨"common", "Common", "", none, none⟩ []
    [⟨"shell", "Shell", "common", "", none, true, .anyDriver⟩]]⟩
  let day : Timestamp := ⟨2024, 2, 29, 23, 59, 60, 1⟩
  let events : List Event := [
    .operate (.act (.name "Backup")), .operate (.act (.type "shell")),
    .operate (.act (.property "script" (.str "backup.sh"))), .commit .saved .saved day "t1",
    .call ⟨.updateTask "t1" [.property "script" (.str "nightly.sh")], day, .saved⟩]
  let d := (start (Wizard.create catalog) (Manager.new "General") TaskDir.new).run events
  let reply := d.wizard.commit d.manager d.dir .saved .saved day "t2"
  (start (Wizard.create catalog) (Manager.new "General") TaskDir.new).Admits
      (events ++ [.commit .saved .saved day "t2"])
    ∧ ∃ session r, reply.answer = .ok session ∧ session.taskId = r.id
      ∧ reply.manager.tasks.task? r.id = some r ∧ session.properties ≠ r.properties
  := by
  intro catalog day events d reply
  have hadmits : (start (Wizard.create catalog) (Manager.new "General") TaskDir.new).Admits
      (events ++ [.commit .saved .saved day "t2"]) := by
    decide +kernel
  have hsession : (reply.answer.toOption.map fun s => (s.taskId, s.properties.text? "script"))
      = some ("t1", some "backup.sh") := by
    decide +kernel
  have hstored : ((reply.manager.tasks.task? "t1").map fun r =>
      (r.id, r.properties.text? "script")) = some ("t1", some "nightly.sh") := by
    decide +kernel
  -- What is left depends on the reply through these facts only.
  clear_value reply
  obtain ⟨r, hr, hread⟩ := Option.map_eq_some_iff.mp hstored
  obtain ⟨hid, hchanged⟩ := Prod.mk.inj hread
  cases hok : reply.answer with
  | error e =>
    rw [hok] at hsession
    cases hsession
  | ok session =>
    rw [hok] at hsession
    obtain ⟨htaskId, hscript⟩ := Prod.mk.inj (Option.some.inj hsession)
    refine ⟨hadmits, session, r, rfl, ?_, ?_, ?_⟩
    · rw [htaskId, hid]
    · rw [hid, hr]
    · intro hsame
      rw [hsame, hchanged] at hscript
      simp at hscript

end Docket

end TaskDesk
