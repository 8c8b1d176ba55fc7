import TaskDesk.Project.Mailbox
import TaskDesk.Proofs.Clients.Verdict

/-!
# Those who listen to a wizard

A listener notes what is selected when it begins to listen and brings that up to date with each
event that it takes out of its mailbox.  Picking a category and picking a task type change the
selection in two ways and have rules of their own for when they change nothing; `Announces` says
what either of them, and everything else, tells.  So as long as nothing is lost from the mailbox,
what a `Listening` client has told is what is selected, and that the properties were taken away is
told right after the type that took them: `Listening.heard_of_start`.
-/

namespace TaskDesk

/-- What is selected in a wizard. -/
structure Selected where
  category : Option String
  taskType : Option String
deriving DecidableEq

/-- What is selected after an event. -/
def Selected.hear (s : Selected) : WizardEvent → Selected
  | .category id => ⟨some id, none⟩
  | .type category id => ⟨some category, some id⟩
  | .reset _ => s

/-- Whether an event tells about a selection. -/
def WizardEvent.isSelection : WizardEvent → Bool
  | .category _ => true
  | .type _ _ => true
  | .reset _ => false

namespace Wizard

/-- What is selected. -/
def selected (w : Wizard) : Selected := ⟨w.category, w.taskType⟩

/-- What others are told of an operation. -/
def news (m : Manager) (w : Wizard) : Operation → List WizardEvent
  | .act a => (w.act m a).events
  | _ => []

/-- How the selection changes, and what is told of it. -/
inductive Announces (w w' : Wizard) : List WizardEvent → Prop where
  | none (same : w'.selected = w.selected) : Announces w w' []
  | category (id : String) (new : w.selected ≠ ⟨some id, .none⟩)
      (picked : w'.selected = ⟨some id, .none⟩) : Announces w w' [.category id]
  | type (category id : String) (new : w.taskType ≠ some id)
      (picked : w'.selected = ⟨some category, some id⟩) : Announces w w' [.type category id]
  | reset (category id : String) (new : w.taskType ≠ some id)
      (picked : w'.selected = ⟨some category, some id⟩) :
      Announces w w' [.type category id, .reset id]

variable {m : Manager} {w w' : Wizard} {told : List WizardEvent}

/-- What is told brings the selection up to date. -/
theorem Announces.selected_eq (h : w.Announces w' told) :
  told.foldl Selected.hear w.selected = w'.selected
  := by
  cases h with
  | none hsame => exact hsame.symm
  | category _ _ hpicked | type _ _ _ hpicked | reset _ _ _ hpicked => exact hpicked.symm

/-- A selection is told exactly if the selection changed. -/
theorem Announces.isSelection_iff (h : w.Announces w' told) :
  (∃ e ∈ told, e.isSelection = true) ↔ w'.selected ≠ w.selected
  := by
  cases h with
  | none hsame => simp [hsame]
  | category id hnew hpicked =>
    rw [hpicked]
    simp [WizardEvent.isSelection, hnew.symm]
  | type category id hnew hpicked | reset category id hnew hpicked =>
    have hchanged : w'.selected ≠ w.selected := by
      rw [hpicked]
      intro hsame
      exact hnew (congrArg Selected.taskType hsame).symm
    simp [WizardEvent.isSelection, hchanged]

/-- That the properties were taken away is told right after the type. -/
theorem Announces.eq_of_reset (h : w.Announces w' told) {id : String} (hreset : .reset id ∈ told) :
  ∃ category, told = [.type category id, .reset id]
  := by
  cases h with
  | none | category | type => simp at hreset
  | reset category id' =>
    obtain rfl : id = id' := by simpa using hreset
    exact ⟨category, rfl⟩

theorem announces_act (m : Manager) (w : Wizard) (a : Action) :
  w.Announces (w.act m a).wizard (w.act m a).events
  := by
  cases a with
  | name text =>
    have heffect : (w.act m (.name text)).wizard = (w.setName m text).1 := rfl
    rw [heffect, setName]
    split <;> exact .none rfl
  | category id =>
    rw [act]
    cases hs : w.selectCategory m id with
    | error e => exact .none rfl
    | ok s =>
      obtain rfl | ⟨hnew, rfl⟩ := selectCategory_eq_ok hs
      · exact .none rfl
      · refine .category id ?_ rfl
        intro hsame
        exact hnew ⟨congrArg Selected.category hsame, congrArg Selected.taskType hsame⟩
  | type id =>
    rw [act]
    cases hs : w.selectType m id with
    | error e => exact .none rfl
    | ok s =>
      obtain ⟨t, -, ⟨-, rfl⟩ | ⟨hnew, rfl⟩⟩ := selectType_eq_ok hs
      · exact .none rfl
      · simp only [Effect.ofSelection]
        split
        · exact .reset t.category id hnew rfl
        · exact .type t.category id hnew rfl
  | _ => exact .none rfl

/-- What is told of an operation is how it changed the selection. -/
theorem announces_operate (m : Manager) (w : Wizard) (o : Operation) :
  w.Announces (w.operate m o) (w.news m o)
  := by
  cases o with
  | act a => exact announces_act m w a
  | _ => exact .none rfl

/-- That the properties were taken away is told exactly if the selection of a type did so. -/
theorem reset_mem_news {o : Operation} {id : String} :
  .reset id ∈ w.news m o
    ↔ o = .act (.type id) ∧ w.properties.isEmpty = false
      ∧ (w.operate m o).properties.isEmpty = true
  := by
  cases o with
  | act a =>
    cases a with
    | category picked =>
      rw [news, act]
      cases hs : w.selectCategory m picked with
      | error e => simp [Effect.ofSelection]
      | ok s => obtain rfl | ⟨-, rfl⟩ := selectCategory_eq_ok hs <;> simp [Effect.ofSelection]
    | type picked =>
      rw [news, operate, act]
      cases hs : w.selectType m picked with
      | error e => simp [Effect.ofSelection]
      | ok s =>
        obtain ⟨t, -, ⟨-, rfl⟩ | ⟨-, rfl⟩⟩ := selectType_eq_ok hs
        · simp [Effect.ofSelection]
        · have hsettled (v : Wizard) : (settle m v).properties = v.properties := rfl
          simp only [Effect.ofSelection, hsettled]
          split
          · next hresets =>
            have hsome : w.properties.isEmpty = false := by simp_all
            have hgone : Properties.empty.isEmpty = true := rfl
            simp only [hsome, hgone, List.mem_cons, reduceCtorEq, WizardEvent.reset.injEq,
              List.not_mem_nil, Operation.act.injEq, Action.type.injEq, or_false, false_or,
              and_true]
            exact eq_comm
          · simp
    | _ => simp [news, act]
  | _ => simp [news]

end Wizard

/-! ### Acts of a client -/

namespace Client

variable {m : Manager} {c : Client}

/-- What others are told of an act. -/
def news (c : Client) (m : Manager) (a : Act) : List WizardEvent :=
  match a, c.stage with
  | .operate o, .idle => c.wizard.news m o
  | _, _ => []

theorem news_of_unfit {a : Act} (h : c.stage = .idle → (∀ o, a ≠ .operate o) ∧ a ≠ .begin) :
  c.news m a = []
  := by
  unfold news
  split
  · next o hidle => exact absurd rfl ((h hidle).1 o)
  · rfl

theorem news_operate (h : c.stage = .idle) (o : Wizard.Operation) :
  c.news m (.operate o) = c.wizard.news m o
  := by
  simp only [news, h]

theorem selected_finish (w : Wizard) (t : TaskType) (r : Record) :
  (w.finish t r).1.selected = w.selected
  := by
  rw [Wizard.finish]
  split <;> rfl

/-- What is told of an act is how it changed the selection; commits do not. -/
theorem announces_act (c : Client) (m : Manager) (dir : TaskDir) (a : Act) :
  c.wizard.Announces (c.act m dir a).client.wizard (c.news m a)
  := by
  have hworked := c.worked_act m dir a
  generalize (c.act m dir a).client.wizard = w at hworked ⊢
  cases hworked with
  | operated o hidle =>
    rw [news_operate hidle]
    exact Wizard.announces_operate m c.wizard o
  | judged hidle => exact .none rfl
  | finished _ t r hbusy =>
    rw [news_of_unfit fun hidle => absurd hidle hbusy]
    exact .none (selected_finish c.wizard t r)
  | kept _ hunfit =>
    rw [news_of_unfit hunfit]
    exact .none rfl

end Client

/-! ### Listening -/

/-- A client with the mailbox of somebody who listens to its wizard, and what was taken out of
it. -/
structure Listening where
  client : Client
  mail : Mailbox WizardEvent
  heard : List WizardEvent

namespace Listening

/-- What can happen: the client has a turn, or the listener empties the mailbox. -/
inductive Event where
  | turn (t : Dialog.Turn)
  | read

/-- Somebody begins to listen. -/
def start (c : Client) : Listening :=
  ⟨c, .empty wizardEventCapacity, []⟩

/-- The listening after an event. -/
def after (s : Listening) : Event → Listening
  | .turn t =>
    ⟨(s.client.act t.manager t.dir t.act).client, s.mail.tell (s.client.news t.manager t.act),
      s.heard⟩
  | .read => ⟨s.client, s.mail.read, s.heard ++ s.mail.entries⟩

/-- The listening after events, the first one first. -/
def run (s : Listening) (events : List Event) : Listening :=
  events.foldl after s

/-- What the listener has received: what was taken out of the mailbox and what is in it. -/
def received (s : Listening) : List WizardEvent :=
  s.heard ++ s.mail.entries

/-- Whether the listener looks often enough, so that the mailbox never loses anything. -/
def Attends : Listening → List Event → Prop
  | _, [] => True
  | s, e :: rest => (s.after e).mail.lost = 0 ∧ (s.after e).Attends rest

instance decidableAttends : (s : Listening) → (events : List Event) → Decidable (s.Attends events)
  | _, [] => inferInstanceAs (Decidable True)
  | s, e :: rest =>
    have := decidableAttends (s.after e) rest
    inferInstanceAs (Decidable ((s.after e).mail.lost = 0 ∧ (s.after e).Attends rest))

variable {s : Listening} {first : Selected}

/-- A mailbox that lost nothing has got everything. -/
theorem entries_tell_of_lost {mail : Mailbox WizardEvent} {news : List WizardEvent}
    (h : (mail.tell news).lost = 0) :
  (mail.tell news).entries = mail.entries ++ news
  := by
  apply Mailbox.entries_tell
  simp only [Mailbox.tell, List.length_append] at h
  omega

/-- As long as nothing is lost, what is received brings the selection up to date. -/
theorem selected_after (hs : s.received.foldl Selected.hear first = s.client.wizard.selected)
    {e : Event} (he : (s.after e).mail.lost = 0) :
  (s.after e).received.foldl Selected.hear first = (s.after e).client.wizard.selected
  := by
  cases e with
  | turn t =>
    have hannounces := s.client.announces_act t.manager t.dir t.act
    have hreceived : (s.after (.turn t)).received
        = s.received ++ s.client.news t.manager t.act := by
      have hentries := entries_tell_of_lost he
      rw [received, received, List.append_assoc, ← hentries]
      rfl
    rw [hreceived, List.foldl_append, hs, hannounces.selected_eq]
    rfl
  | read =>
    have hreceived : (s.after .read).received = s.received := by
      simp [after, received, Mailbox.read, Mailbox.empty]
    rw [hreceived, hs]
    rfl

theorem selected_run (hs : s.received.foldl Selected.hear first = s.client.wizard.selected)
    {events : List Event} (h : s.Attends events) :
  (s.run events).received.foldl Selected.hear first = (s.run events).client.wizard.selected
  := by
  induction events generalizing s with
  | nil => exact hs
  | cons e rest ih => exact ih (selected_after hs h.1) h.2

theorem reset_mem_news {c : Client} {m : Manager} (dir : TaskDir) {a : Client.Act} {id : String} :
  .reset id ∈ c.news m a
    ↔ a = .operate (.act (.type id)) ∧ c.wizard.properties.isEmpty = false
      ∧ (c.act m dir a).client.wizard.properties.isEmpty = true
  := by
  cases hstage : c.stage with
  | idle =>
    cases a with
    | operate o =>
      have hwizard : (c.act m dir (.operate o)).client.wizard = c.wizard.operate m o := by
        simp only [Client.act, hstage]
      rw [Client.news_operate hstage, hwizard, Wizard.reset_mem_news]
      simp
    | _ => simp [Client.news]
  | judged | written | moved =>
    -- In a commit an operation does nothing.
    have hbusy : c.stage ≠ .idle := by simp [hstage]
    rw [Client.news_of_unfit fun hidle => absurd hidle hbusy]
    constructor
    · simp
    · rintro ⟨rfl, hsome, hnone⟩
      simp [Client.act, hstage, Client.rest, hsome] at hnone

/-- Whoever begins to listen to a wizard at any time, is told of what is selected then, and misses
nothing, has what is selected by bringing that up to date with what was received, whatever is done
with the wizard and becomes of its commits.  In every turn a selection is told exactly if it
changed, and that the properties were taken away is told exactly if a type was picked that took
them, right after the type. -/
theorem heard_of_start (c : Client) (events : List Event) (h : (start c).Attends events) :
  let s := (start c).run events
  s.received.foldl Selected.hear c.wizard.selected = s.client.wizard.selected
    ∧ ∀ t : Dialog.Turn,
      let news := s.client.news t.manager t.act
      let before := s.client.wizard
      let after := (s.client.act t.manager t.dir t.act).client.wizard
      ((∃ e ∈ news, e.isSelection = true) ↔ after.selected ≠ before.selected)
        ∧ (∀ id, .reset id ∈ news ↔ t.act = .operate (.act (.type id))
          ∧ before.properties.isEmpty = false ∧ after.properties.isEmpty = true)
        ∧ ∀ id, .reset id ∈ news → ∃ category, news = [.type category id, .reset id]
  := by
  intro s
  refine ⟨selected_run rfl h, ?_⟩
  intro t news before after
  have hannounces := s.client.announces_act t.manager t.dir t.act
  refine ⟨hannounces.isSelection_iff, ?_, ?_⟩
  · intro id
    exact reset_mem_news t.dir
  · intro id hreset
    exact hannounces.eq_of_reset hreset

/-- A type is picked, then another one that takes the properties, then the same again, and then the
category: the listener looks once in between. -/
theorem heard_of_start_instance :
  let catalog : Catalog := ⟨[.mk ⟨"common", "Common", "", none, none⟩ []
    [⟨"dump", "Dump", "common", "", none, true, .anyDriver⟩,
      ⟨"shell", "Shell", "common", "", none, true, .anyDriver⟩]]⟩
  let turn (a : Wizard.Action) : Event :=
    .turn ⟨Manager.new "General", TaskDir.new, .operate (.act a)⟩
  let c := Client.new (Wizard.create catalog)
  let events : List Event := [
    turn (.type "shell"), turn (.property "script" (.str "backup.sh")), .read, turn (.type "dump"),
    turn (.type "dump"), turn (.category "common")]
  let s := (start c).run events
  (start c).Attends events
    ∧ s.received = [.type "common" "shell", .type "common" "dump", .reset "dump", .category "common"]
    ∧ s.received.foldl Selected.hear c.wizard.selected = s.client.wizard.selected
    ∧ ∀ t : Dialog.Turn,
      let news := s.client.news t.manager t.act
      let before := s.client.wizard
      let after := (s.client.act t.manager t.dir t.act).client.wizard
      ((∃ e ∈ news, e.isSelection = true) ↔ after.selected ≠ before.selected)
        ∧ (∀ id, .reset id ∈ news ↔ t.act = .operate (.act (.type id))
          ∧ before.properties.isEmpty = false ∧ after.properties.isEmpty = true)
        ∧ ∀ id, .reset id ∈ news → ∃ category, news = [.type category id, .reset id]
  := by
  intro catalog turn c events s
  have h : (start c).Attends events := by decide +kernel
  exact ⟨h, by decide +kernel, heard_of_start c events h⟩

end Listening

end TaskDesk
