import TaskDesk.Proofs.Wizard.Commit
import TaskDesk.Proofs.Manager.Runs

/-!
# Wizards at work on one project

A `Workshop` is a manager with the directory of its task file and any number of clients, each
with a wizard.  A client does its commits in steps, between which the other clients and whoever
else calls the manager have their turns.  For each client the ids of the tasks are kept that its
steps added.
-/

namespace TaskDesk

/-- Where a client stands in a commit: in none, after the fields were found good, after the task
was written, or after it was moved. -/
inductive Stage where
  | idle
  | judged (t : TaskType)
  | written (t : TaskType) (r : Record)
  | moved (t : TaskType) (r : Record)

/-- The record that a client works on within a commit. -/
def Stage.record? : Stage → Option Record
  | .idle => none
  | .judged _ => none
  | .written _ r => some r
  | .moved _ r => some r

/-- A wizard, where its commit stands, and the ids of the tasks that it added. -/
structure Client where
  wizard : Wizard
  stage : Stage
  added : List String

namespace Client

/-- A client that has done nothing with its wizard. -/
def new (w : Wizard) : Client := ⟨w, .idle, []⟩

/-- What a client can do next: work on the fields or begin a commit, if it is in none, and
otherwise take the next step of the commit. -/
inductive Act where
  | operate (o : Wizard.Operation)
  | begin
  | write (outcome : SaveOutcome) (now : Timestamp) (id : String)
  | move (outcome : SaveOutcome) (now : Timestamp)
  | reread

/-- The id that an act brings for a new task is unused. -/
def Act.Fresh (s : Tasks) : Act → Prop
  | .write _ _ id => id ≠ "" ∧ s.task? id = none
  | _ => True

instance (s : Tasks) : (a : Act) → Decidable (a.Fresh s)
  | .operate _ => inferInstanceAs (Decidable True)
  | .begin => inferInstanceAs (Decidable True)
  | .write _ _ id => inferInstanceAs (Decidable (id ≠ "" ∧ s.task? id = none))
  | .move _ _ => inferInstanceAs (Decidable True)
  | .reread => inferInstanceAs (Decidable True)

/-- What comes out of an act: the client, the manager and the directory, and how the commit ended,
if it did. -/
structure Effect where
  client : Client
  manager : Manager
  dir : TaskDir
  answer : Option (Except WizardError Session)

/-- Nothing happens. -/
def rest (c : Client) (m : Manager) (dir : TaskDir) : Effect :=
  ⟨c, m, dir, none⟩

/-- Takes the first step of a commit. -/
def begin (c : Client) (m : Manager) (dir : TaskDir) : Effect :=
  match c.wizard.begin m with
  | (w, .error e) => ⟨{ c with wizard := w }, m, dir, some (.error e)⟩
  | (w, .ok t) => ⟨{ c with wizard := w, stage := .judged t }, m, dir, none⟩

/-- Takes the step that writes the task. -/
def write (c : Client) (t : TaskType) (m : Manager) (dir : TaskDir) (outcome : SaveOutcome)
    (now : Timestamp) (id : String) : Effect :=
  let r := c.wizard.write t m dir outcome now id
  match r.answer with
  | .done answer =>
    ⟨{ c with wizard := r.wizard, stage := .idle }, r.manager, r.dir, some answer⟩
  | .move record =>
    ⟨{ c with wizard := r.wizard, stage := .written t record }, r.manager, r.dir, none⟩

/-- Takes the step that moves the task. -/
def move (c : Client) (t : TaskType) (record : Record) (m : Manager) (dir : TaskDir)
    (outcome : SaveOutcome) (now : Timestamp) : Effect :=
  let r := c.wizard.relocate record m dir outcome now
  match r.answer with
  | .error e => ⟨{ c with stage := .idle }, r.manager, r.dir, some (.error (.manager e))⟩
  | .ok false =>
    let (w, s) := c.wizard.finish t record
    ⟨{ c with wizard := w, stage := .idle }, r.manager, r.dir, some (.ok s)⟩
  | .ok true => ⟨{ c with stage := .moved t record }, r.manager, r.dir, none⟩

/-- Takes the step that reads the task again after it was moved. -/
def reread (c : Client) (t : TaskType) (record : Record) (m : Manager) (dir : TaskDir) : Effect :=
  let (w, answer) := c.wizard.reread t record m
  ⟨{ c with wizard := w, stage := .idle }, m, dir, some answer⟩

/-- Does an act; one that it is not the time for does nothing. -/
def act (c : Client) (m : Manager) (dir : TaskDir) (a : Act) : Effect :=
  match a, c.stage with
  | .operate o, .idle => ⟨{ c with wizard := c.wizard.operate m o }, m, dir, none⟩
  | .begin, .idle => c.begin m dir
  | .write outcome now id, .judged t => c.write t m dir outcome now id
  | .move outcome now, .written t record => c.move t record m dir outcome now
  | .reread, .moved t record => c.reread t record m dir
  | _, _ => c.rest m dir

/-- What acts come to, the first one first; the answer is the first one that is given. -/
def acts (c : Client) (m : Manager) (dir : TaskDir) (todo : List Act) : Effect :=
  todo.foldl (fun e a =>
    let next := e.client.act e.manager e.dir a
    { next with answer := e.answer <|> next.answer }) (c.rest m dir)

/-- A commit that is done at once is its steps with nobody in between. -/
theorem acts_eq_commit (w : Wizard) (added : List String) (m : Manager) (dir : TaskDir)
    (first second : SaveOutcome) (now : Timestamp) (id : String) :
  acts ⟨w, .idle, added⟩ m dir [.begin, .write first now id, .move second now, .reread]
    = let r := w.commit m dir first second now id
      ⟨⟨r.wizard, .idle, added⟩, r.manager, r.dir, some r.answer⟩
  := by
  simp only [acts, List.foldl_cons, List.foldl_nil, rest, act, Wizard.commit]
  obtain ⟨judged, answer, hbegin⟩ : ∃ judged answer, w.begin m = (judged, answer) := ⟨_, _, rfl⟩
  cases answer with
  | error e => simp [begin, hbegin]
  | ok t =>
    simp only [begin, hbegin]
    cases hwritten : (judged.write t m dir first now id).answer with
    | done answer => simp [write, hwritten]
    | move record =>
      simp only [write, hwritten, Wizard.move_eq]
      cases hmoved : ((judged.write t m dir first now id).wizard.relocate record
          (judged.write t m dir first now id).manager (judged.write t m dir first now id).dir second
          now).answer with
      | error e => simp [move, hmoved]
      | ok moved =>
        cases moved with
        | false => simp [move, hmoved]
        | true => simp [move, hmoved, reread]

/-! ### What an act does to the wizard -/

/-- What an act makes of the wizard of a client: in no commit, an operation is done or the fields
are judged; in a commit the wizard may be finished; and an act that it is not the time for, or that
ends in an error or not yet, does nothing. -/
inductive Worked (c : Client) (m : Manager) : Act → Wizard → Prop where
  | operated (o : Wizard.Operation) (idle : c.stage = .idle) :
    Worked c m (.operate o) (c.wizard.operate m o)
  | judged (idle : c.stage = .idle) : Worked c m .begin (c.wizard.settle m)
  | finished (a : Act) (t : TaskType) (r : Record) (busy : c.stage ≠ .idle) :
    Worked c m a (c.wizard.finish t r).1
  | kept (a : Act) (unfit : c.stage = .idle → (∀ o, a ≠ .operate o) ∧ a ≠ .begin) :
    Worked c m a c.wizard

theorem worked_act (c : Client) (m : Manager) (dir : TaskDir) (a : Act) :
  c.Worked m a (c.act m dir a).client.wizard
  := by
  unfold act
  split
  · next o hidle => exact .operated o hidle
  · next hidle =>
    have hjudged : (c.begin m dir).client.wizard = c.wizard.settle m := by
      rw [← Wizard.fst_begin, begin]
      split <;> next hbegin => rw [hbegin]
    rw [hjudged]
    exact .judged hidle
  · next outcome now id t hstage =>
    have hbusy : c.stage ≠ .idle := by simp [hstage]
    have hwritten : c.Worked m (.write outcome now id)
        (c.wizard.write t m dir outcome now id).wizard := by
      rw [Wizard.write_eq]
      simp only
      split
      · exact .kept _ fun hidle => absurd hidle hbusy
      · split
        · exact .finished _ t _ hbusy
        · exact .kept _ fun hidle => absurd hidle hbusy
    unfold write
    simp only
    split <;> exact hwritten
  · next outcome now t record hstage =>
    have hbusy : c.stage ≠ .idle := by simp [hstage]
    rw [move]
    simp only
    split
    · exact .kept _ fun hidle => absurd hidle hbusy
    · exact .finished _ _ _ hbusy
    · exact .kept _ fun hidle => absurd hidle hbusy
  · next t record hstage =>
    have hbusy : c.stage ≠ .idle := by simp [hstage]
    rw [reread, Wizard.reread]
    simp only
    split
    · exact .kept _ fun hidle => absurd hidle hbusy
    · exact .finished _ _ _ hbusy
  · next hoperate hbegin _ _ _ =>
    exact .kept _ fun hidle => ⟨fun o ho => hoperate o ho hidle, fun hb => hbegin hb hidle⟩

end Client

/-- A manager, the directory of its task file, and the clients. -/
structure Workshop where
  manager : Manager
  dir : TaskDir
  clients : List Client

namespace Workshop

/-- A workshop with a manager without tasks and no clients. -/
def start (project : String) (isBacked : Bool) (dir : TaskDir) : Workshop :=
  ⟨⟨project, Tasks.empty, isBacked⟩, dir, []⟩

/-- What can happen in a workshop: a call of the manager, a new wizard, or an act of a client. -/
inductive Event where
  | call (step : Manager.Step)
  | create (catalog : Catalog)
  | edit (catalog : Catalog) (r : Record)
  | act (k : Nat) (a : Client.Act)

/-- The ids in some tasks that are not in others. -/
def newIds (before after : Tasks) : List String :=
  (Keyed.keys after.records).filter fun id => id ∉ Keyed.keys before.records

/-- What the act of a client comes to, if there is the client. -/
def effect? (s : Workshop) (k : Nat) (a : Client.Act) : Option Client.Effect :=
  s.clients[k]?.map fun c => c.act s.manager s.dir a

/-- The client after its act. -/
def credited (s : Workshop) (e : Client.Effect) : Client :=
  { e.client with added := e.client.added ++ newIds s.manager.tasks e.manager.tasks }

/-- The workshop after an event. -/
def after (s : Workshop) : Event → Workshop
  | .call step =>
    let r := s.manager.mutate s.dir step.outcome (step.action.change s.manager.project step.now)
    { s with manager := r.manager, dir := r.dir }
  | .create catalog => { s with clients := s.clients ++ [.new (.create catalog)] }
  | .edit catalog r =>
    match Wizard.edit catalog r with
    | .error _ => s
    | .ok w => { s with clients := s.clients ++ [.new w] }
  | .act k a =>
    match s.effect? k a with
    | none => s
    | some e => ⟨e.manager, e.dir, s.clients.set k (s.credited e)⟩

/-- The workshop after events, the first one first. -/
def run (s : Workshop) (events : List Event) : Workshop :=
  events.foldl after s

/-! ### What an event changes -/

theorem effect?_eq_some {s : Workshop} {k : Nat} {a : Client.Act} {e : Client.Effect} :
  s.effect? k a = some e ↔ ∃ c, s.clients[k]? = some c ∧ c.act s.manager s.dir a = e
  := Option.map_eq_some_iff

theorem after_act {s : Workshop} {k : Nat} {a : Client.Act} {e : Client.Effect}
    (h : s.effect? k a = some e) :
  s.after (.act k a) = ⟨e.manager, e.dir, s.clients.set k (s.credited e)⟩
  := by
  simp only [after, h]

/-- What holds of the tasks and is kept by calls and by acts of clients holds after an event. -/
theorem tasks_after {motive : Tasks → Prop} {s : Workshop} {e : Event}
    (hbefore : motive s.manager.tasks)
    (hcall : ∀ {step change}, e = .call step →
      step.action.change s.manager.project step.now s.manager.tasks = .ok change →
      motive change.tasks)
    (hact : ∀ {k a c}, e = .act k a → s.clients[k]? = some c →
      motive (c.act s.manager s.dir a).manager.tasks) :
  motive (s.after e).manager.tasks
  := by
  cases e with
  | call step => exact Manager.mutate_induction hbefore (hcall rfl)
  | create catalog => exact hbefore
  | edit catalog r =>
    unfold after
    simp only
    split <;> exact hbefore
  | act k a =>
    cases heffect : s.effect? k a with
    | none =>
      simp only [after, heffect]
      exact hbefore
    | some e =>
      obtain ⟨c, hc, rfl⟩ := effect?_eq_some.mp heffect
      rw [after_act heffect]
      exact hact rfl hc

/-- What holds of all clients, of every new one and of the client that acted holds of all clients
after an event. -/
theorem clients_after {motive : Client → Prop} {s : Workshop} {e : Event}
    (hbefore : ∀ c ∈ s.clients, motive c)
    (hcreate : ∀ {catalog}, e = .create catalog → motive (.new (.create catalog)))
    (hedit : ∀ {catalog r w}, e = .edit catalog r → Wizard.edit catalog r = .ok w →
      motive (.new w))
    (hact : ∀ {k a c}, e = .act k a → s.clients[k]? = some c →
      motive (s.credited (c.act s.manager s.dir a))) :
  ∀ c ∈ (s.after e).clients, motive c
  := by
  have happend : ∀ {w}, motive (.new w) → ∀ c ∈ s.clients ++ [.new w], motive c := by
    intro w hw c hc
    obtain hc | hc := List.mem_append.mp hc
    · exact hbefore c hc
    · obtain rfl := List.mem_singleton.mp hc
      exact hw
  cases e with
  | call step => exact hbefore
  | create catalog => exact happend (hcreate rfl)
  | edit catalog r =>
    cases hw : Wizard.edit catalog r with
    | error _ =>
      simp only [after, hw]
      exact hbefore
    | ok w =>
      simp only [after, hw]
      exact happend (hedit rfl hw)
  | act k a =>
    cases heffect : s.effect? k a with
    | none =>
      simp only [after, heffect]
      exact hbefore
    | some e =>
      obtain ⟨c, hc, rfl⟩ := effect?_eq_some.mp heffect
      rw [after_act heffect]
      intro c' hc'
      obtain hc' | rfl := List.mem_or_eq_of_mem_set hc'
      · exact hbefore c' hc'
      · exact hact rfl hc

/-! ### Runs by a rule -/

/-- An event is admissible if the id that it brings is unused and a call of the manager is
admissible. -/
def Event.Admissible (s : Tasks) : Event → Prop
  | .call step => step.action.Admissible s
  | .act _ a => a.Fresh s
  | _ => True

instance (s : Tasks) : (e : Event) → Decidable (e.Admissible s)
  | .call step => inferInstanceAs (Decidable (step.action.Admissible s))
  | .create _ => inferInstanceAs (Decidable True)
  | .edit _ _ => inferInstanceAs (Decidable True)
  | .act _ a => inferInstanceAs (Decidable (a.Fresh s))

/-- Whether each of the events obeys a rule when its turn comes. -/
def Obeys (rule : Tasks → Event → Prop) : Workshop → List Event → Prop
  | _, [] => True
  | s, e :: rest => rule s.manager.tasks e ∧ (s.after e).Obeys rule rest

instance decidableObeys (rule : Tasks → Event → Prop) [∀ s e, Decidable (rule s e)] :
    (s : Workshop) → (events : List Event) → Decidable (s.Obeys rule events)
  | _, [] => inferInstanceAs (Decidable True)
  | s, e :: rest =>
    have := decidableObeys rule (s.after e) rest
    inferInstanceAs (Decidable (rule s.manager.tasks e ∧ (s.after e).Obeys rule rest))

/-- What holds of a workshop and is kept by every event that obeys the rule holds after a run. -/
theorem run_induction {rule : Tasks → Event → Prop} {motive : Workshop → Prop}
    (hafter : ∀ {s e}, motive s → rule s.manager.tasks e → motive (s.after e)) {s : Workshop}
    (hs : motive s) {events : List Event} (h : s.Obeys rule events) :
  motive (s.run events)
  := by
  induction events generalizing s with
  | nil => exact hs
  | cons e rest ih => exact ih (hafter hs h.1) h.2

end Workshop

end TaskDesk
