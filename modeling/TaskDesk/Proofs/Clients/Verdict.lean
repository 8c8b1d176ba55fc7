import TaskDesk.Proofs.Catalog.Listing
import TaskDesk.Proofs.Clients.Basic
import TaskDesk.Proofs.Wizard.Validity

/-!
# What a wizard shows

An operation that has an effect has the fields of a wizard judged, and so has a commit when it
begins; everything else leaves the verdict alone.  A `Dialog` notes, beside a client, the manager
that the last judgement looked at and the wizard that it left.  Whatever the client does and
whatever becomes of the manager meanwhile, the wizard shows that verdict, the first of its
`Wizard.faults`, and the task type and the category that are selected belong together:
`Dialog.honest_of_start`.  A commit is taken in its steps, so that others come in between; one
that is done at once is those steps, `Client.acts_eq_commit`.
-/

namespace TaskDesk

namespace Wizard

/-! ### Faults -/

/-- All that is wrong with the fields, in the order in which it is looked for: there is no name, a
task has the name while the record has no id, no task type is selected. -/
def faults (m : Manager) (w : Wizard) : List Problem :=
  (if w.name = "" then [.emptyName] else [])
    ++ (if w.taskId? = none ∧ ∃ r ∈ m.tasks.list, r.name = w.name then
      [.duplicateName w.name m.project] else [])
    ++ if w.taskType = none then [.missingTaskType] else []

/-- The first of the faults is what is found wrong. -/
theorem validate_eq_head? (m : Manager) (w : Wizard) :
  w.validate m = (w.faults m).head?
  := by
  have htaken :
      (m.tasks.taskNamed? w.name).isSome = true ↔ ∃ r ∈ m.tasks.list, r.name = w.name := by
    simp only [Tasks.taskNamed?, List.find?_isSome, decide_eq_true_eq, Tasks.list,
      (Text.sortOn_perm Record.name _).mem_iff]
  rw [validate, faults, isSaved_eq]
  by_cases hname : w.name = ""
  · rw [if_pos hname, if_pos hname]
    rfl
  · by_cases hduplicate : w.taskId? = none ∧ ∃ r ∈ m.tasks.list, r.name = w.name
    · simp [hname, hduplicate.1, htaken.mpr hduplicate.2, hduplicate.2]
    · have hfree : ¬(!w.taskId?.isSome && (m.tasks.taskNamed? w.name).isSome) = true := by
        simpa [htaken] using hduplicate
      rw [if_neg hname, if_neg hname, if_neg hfree, if_neg hduplicate]
      cases w.taskType <;> rfl

/-! ### Judgements -/

/-- The selected category is that of the selected task type, which is in the catalog. -/
def Matched (w : Wizard) : Prop :=
  ∀ id, w.taskType = some id → ∃ t, w.catalog.type? id = some t ∧ w.category = some t.category

/-- Whether an effect is that of an operation that was accepted or of a selection that changed. -/
def Effect.isDone (e : Effect) : Bool :=
  match e.answer with
  | .ok done => done
  | .error _ => false

/-- Whether an operation has the fields judged: entries of properties and choices in advance do not,
nor does a refused name or a selection that changes nothing. -/
def Operation.isEffective (m : Manager) (w : Wizard) : Operation → Bool
  | .act .validate => true
  | .act (.property _ _) => false
  | .act a => (w.act m a).isDone
  | _ => false

/-- What becomes of what a wizard shows: the wizard was judged, with a selection that matches if it
did so before, or all is as it was. -/
inductive Shown (m : Manager) (w w' : Wizard) : Bool → Prop where
  | judged (v : Wizard) (settled : w' = v.settle m) (catalog : v.catalog = w.catalog)
      (matched : w.Matched → v.Matched) : Shown m w w' true
  | kept (catalog : w'.catalog = w.catalog) (name : w'.name = w.name)
      (taskType : w'.taskType = w.taskType) (category : w'.category = w.category)
      (state : w'.state = w.state) (problem : w'.problem = w.problem) : Shown m w w' false

variable {m : Manager} {w : Wizard}

theorem Shown.refl :
  Shown m w w false
  := .kept rfl rfl rfl rfl rfl rfl

/-- An action that is not effective leaves the wizard as it was and tells nobody, but for entries of
properties, and one that is effective has the fields judged. -/
theorem act_outcome (m : Manager) (w : Wizard) (a : Action) :
  (Operation.isEffective m w (.act a) = false ∧ (w.act m a).wizard = w ∧ (w.act m a).events = [])
    ∨ (Operation.isEffective m w (.act a) = true ∧ Shown m w (w.act m a).wizard true)
    ∨ ∃ key value, a = .property key value
  := by
  cases a with
  | name text =>
    have heffective :
        Operation.isEffective m w (.act (.name text)) = (w.act m (.name text)).isDone := rfl
    rw [heffective, act, setName]
    by_cases hread : w.nameEditable = true
    · rw [if_pos hread]
      exact .inr (.inl ⟨rfl, .judged { w with name := text } rfl rfl id⟩)
    · rw [if_neg hread]
      exact .inl ⟨rfl, rfl, rfl⟩
  | description text => exact .inr (.inl ⟨rfl, .judged { w with description := text } rfl rfl id⟩)
  | folder name => exact .inr (.inl ⟨rfl, .judged { w with folder := _ } rfl rfl id⟩)
  | limit limit => exact .inr (.inl ⟨rfl, .judged { w with limit := _ } rfl rfl id⟩)
  | category id =>
    have heffective :
        Operation.isEffective m w (.act (.category id)) = (w.act m (.category id)).isDone := rfl
    rw [heffective, act]
    cases hs : w.selectCategory m id with
    | error e => exact .inl ⟨rfl, rfl, rfl⟩
    | ok s =>
      obtain rfl | ⟨-, rfl⟩ := selectCategory_eq_ok hs
      · exact .inl ⟨rfl, rfl, rfl⟩
      · refine .inr (.inl ⟨rfl, .judged _ rfl rfl ?_⟩)
        rintro - _ ⟨⟩
  | type id =>
    have heffective :
        Operation.isEffective m w (.act (.type id)) = (w.act m (.type id)).isDone := rfl
    rw [heffective, act]
    cases hs : w.selectType m id with
    | error e => exact .inl ⟨rfl, rfl, rfl⟩
    | ok s =>
      obtain ⟨t, ht, ⟨-, rfl⟩ | ⟨-, rfl⟩⟩ := selectType_eq_ok hs
      · exact .inl ⟨rfl, rfl, rfl⟩
      · refine .inr (.inl ⟨rfl, .judged _ rfl rfl ?_⟩)
        rintro - _ ⟨⟩
        exact ⟨t, ht, rfl⟩
  | property key value => exact .inr (.inr ⟨key, value, rfl⟩)
  | validate => exact .inr (.inl ⟨rfl, .judged w rfl rfl id⟩)

/-- An action that is not answered by "done" leaves the wizard as it was and tells nobody. -/
theorem act_of_answer {a : Action} (ha : a ≠ .validate) (h : (w.act m a).answer ≠ .ok true) :
  (w.act m a).wizard = w ∧ (w.act m a).events = []
  := by
  have hdone : (w.act m a).isDone ≠ true := by
    intro hdone
    rw [Effect.isDone] at hdone
    split at hdone
    · next hanswer => exact h (hdone ▸ hanswer)
    · cases hdone
  obtain ⟨-, hkept⟩ | ⟨heffective, -⟩ | ⟨key, value, rfl⟩ := act_outcome m w a
  · exact hkept
  · cases a with
    | validate => exact absurd rfl ha
    | property key value => cases heffective
    | _ => exact absurd heffective hdone
  · exact absurd rfl h

/-- An operation has the fields judged exactly if it is effective. -/
theorem shown_operate (m : Manager) (w : Wizard) (o : Operation) :
  Shown m w (w.operate m o) (o.isEffective m w)
  := by
  cases o with
  | act a =>
    have hoperate : w.operate m (.act a) = (w.act m a).wizard := rfl
    obtain ⟨heffective, hkept, -⟩ | ⟨heffective, hshown⟩ | ⟨key, value, rfl⟩ := act_outcome m w a
    · rw [hoperate, hkept, heffective]
      exact .refl
    · rw [hoperate, heffective]
      exact hshown
    · exact .kept rfl rfl rfl rfl rfl rfl
  | _ => exact .kept rfl rfl rfl rfl rfl rfl

theorem shown_finish (m : Manager) (w : Wizard) (t : TaskType) (r : Record) :
  Shown m w (w.finish t r).1 false
  := by
  rw [finish]
  split <;> exact .kept rfl rfl rfl rfl rfl rfl

end Wizard

/-! ### Dialogs -/

namespace Client

variable {m : Manager} {dir : TaskDir}

/-- Whether an act of a client has the fields judged: an effective operation does, and a commit when
it begins. -/
def Act.isEffective (m : Manager) (c : Client) (a : Act) : Bool :=
  match a, c.stage with
  | .operate o, .idle => o.isEffective m c.wizard
  | .begin, .idle => true
  | _, _ => false

theorem Act.isEffective_of_unfit {c : Client} {a : Act}
    (h : c.stage = .idle → (∀ o, a ≠ .operate o) ∧ a ≠ .begin) :
  a.isEffective m c = false
  := by
  unfold Act.isEffective
  split
  · next o hidle => exact absurd rfl ((h hidle).1 o)
  · next hidle => exact absurd rfl (h hidle).2
  · rfl

/-- An act has the fields judged exactly if it is effective. -/
theorem shown_act (c : Client) (m : Manager) (dir : TaskDir) (a : Act) :
  Wizard.Shown m c.wizard (c.act m dir a).client.wizard (a.isEffective m c)
  := by
  have hworked := c.worked_act m dir a
  generalize (c.act m dir a).client.wizard = w at hworked ⊢
  cases hworked with
  | operated o hidle =>
    have heffective : (Act.operate o).isEffective m c = o.isEffective m c.wizard := by
      simp only [Act.isEffective, hidle]
    rw [heffective]
    exact Wizard.shown_operate m c.wizard o
  | judged hidle =>
    have heffective : Act.begin.isEffective m c = true := by
      simp only [Act.isEffective, hidle]
    rw [heffective]
    exact .judged c.wizard rfl rfl id
  | finished _ t r hbusy =>
    rw [Act.isEffective_of_unfit fun hidle => absurd hidle hbusy]
    exact Wizard.shown_finish m c.wizard t r
  | kept _ hunfit =>
    rw [Act.isEffective_of_unfit hunfit]
    exact .refl

end Client

/-- A client, with the manager that the last judgement looked at and the wizard that it left. -/
structure Dialog where
  client : Client
  judged : Option (Manager × Wizard)

namespace Dialog

/-- An act of the client, with the manager and the directory as they are then. -/
structure Turn where
  manager : Manager
  dir : TaskDir
  act : Client.Act

/-- Nothing was done yet. -/
def start (w : Wizard) : Dialog :=
  ⟨.new w, none⟩

/-- The dialog after a turn. -/
def after (d : Dialog) (t : Turn) : Dialog :=
  let client := (d.client.act t.manager t.dir t.act).client
  ⟨client,
    if t.act.isEffective t.manager d.client then some (t.manager, client.wizard) else d.judged⟩

/-- The dialog after turns, the first one first. -/
def run (d : Dialog) (turns : List Turn) : Dialog :=
  turns.foldl after d

/-- Whether a wizard shows the verdict on the fields that a judgement left. -/
structure Verdict (w : Wizard) (m : Manager) (v : Wizard) : Prop where
  name : w.name = v.name
  taskType : w.taskType = v.taskType
  problem : w.problem = (v.faults m).head?
  state : w.state = if v.faults m = [] then .valid else .invalid

theorem verdict_settle (m : Manager) (w : Wizard) :
  Verdict (w.settle m) m (w.settle m)
  where
  name := rfl
  taskType := rfl
  problem := by
    rw [← Wizard.validate_eq_head?]
    rfl
  state := by
    have hproblem : ((w.settle m).faults m).head? = w.validate m :=
      ((w.settle m).validate_eq_head? m).symm
    have hstate : (w.settle m).state = if (w.validate m).isNone then .valid else .invalid := rfl
    rw [hstate, ← hproblem]
    cases (w.settle m).faults m <;> rfl

/-- What a dialog shows: a selection that matches, the state of the start without a problem before
the first judgement, and the verdict of the last one afterwards. -/
structure Honest (catalog : Catalog) (begun : Wizard.State) (d : Dialog) : Prop where
  catalog : d.client.wizard.catalog = catalog
  matched : d.client.wizard.Matched
  unjudged : d.judged = none → d.client.wizard.state = begun ∧ d.client.wizard.problem = none
  judged : ∀ m v, d.judged = some (m, v) → Verdict d.client.wizard m v

variable {catalog : Catalog} {begun : Wizard.State} {d : Dialog}

theorem Honest.after (h : d.Honest catalog begun) (t : Turn) :
  (d.after t).Honest catalog begun
  := by
  have hshown := Client.shown_act d.client t.manager t.dir t.act
  rw [Dialog.after]
  generalize (d.client.act t.manager t.dir t.act).client = client at hshown ⊢
  cases heffective : t.act.isEffective t.manager d.client with
  | true =>
    rw [heffective] at hshown
    cases hshown with
    | judged v hsettled hcatalog hmatched =>
    constructor
    · exact (congrArg Wizard.catalog hsettled).trans (hcatalog.trans h.catalog)
    · rw [hsettled]
      exact hmatched h.matched
    · intro hnone
      cases hnone
    · rintro _ _ ⟨⟩
      rw [hsettled]
      exact verdict_settle t.manager v
  | false =>
    rw [heffective] at hshown
    cases hshown with
    | kept hcatalog hname htaskType hcategory hstate hproblem =>
    constructor
    · exact hcatalog.trans h.catalog
    · rw [Wizard.Matched, hcatalog, htaskType, hcategory]
      exact h.matched
    · intro hnone
      rw [hstate, hproblem]
      exact h.unjudged hnone
    · intro m v hjudged
      obtain ⟨hname', htaskType', hproblem', hstate'⟩ := h.judged m v hjudged
      exact ⟨hname.trans hname', htaskType.trans htaskType', hproblem.trans hproblem',
        hstate.trans hstate'⟩

theorem Honest.run (h : d.Honest catalog begun) (turns : List Turn) :
  (d.run turns).Honest catalog begun
  := by
  induction turns generalizing d with
  | nil => exact h
  | cons t rest ih => exact ih (h.after t)

theorem honest_start {w : Wizard}
    (hw : w = Wizard.create catalog ∨ ∃ r, Wizard.edit catalog r = .ok w) :
  (start w).Honest catalog (if w.mode = .create then .empty else .typeSelected)
  := by
  obtain rfl | ⟨r, hr⟩ := hw
  · refine ⟨rfl, ?_, fun _ => ⟨rfl, rfl⟩, ?_⟩
    · rintro _ ⟨⟩
    · rintro _ _ ⟨⟩
  · rw [Wizard.edit] at hr
    split at hr
    · cases hr
    · next t ht =>
      cases hr
      refine ⟨rfl, ?_, fun _ => ⟨rfl, rfl⟩, ?_⟩
      · rintro _ ⟨⟩
        exact ⟨t, by rwa [Wizard.id_of_type? ht], rfl⟩
      · rintro _ _ ⟨⟩

/-- The type that is selected stands in the catalog under the category that is selected. -/
theorem Honest.selection (h : d.Honest catalog begun) (hcatalog : Branch.WellFormed catalog.roots)
    {id : String} (hid : d.client.wizard.taskType = some id) :
  ∃ b ∈ Branch.branchesOf catalog.roots, ∃ t ∈ b.types, t.id = id
    ∧ d.client.wizard.taskType? = some t ∧ d.client.wizard.category? = some b.category
  := by
  obtain ⟨t, ht, hcategory⟩ := h.matched id hid
  rw [h.catalog] at ht
  have hmem : t ∈ (Branch.branchesOf catalog.roots).flatMap Branch.types :=
    (Branch.typesOf_perm catalog.roots).mem_iff.mp (List.mem_of_find?_eq_some ht)
  obtain ⟨b, hb, htypes⟩ := List.mem_flatMap.mp hmem
  have howner : t.category = b.category.id := (hcatalog.below hb).2 t htypes
  have hfound : catalog.category? b.category.id = some b.category := by
    rw [Catalog.category?_eq_some_iff hcatalog, Catalog.categories,
      ← Branch.map_category_branchesOf]
    exact List.mem_map_of_mem hb
  refine ⟨b, hb, t, htypes, Wizard.id_of_type? ht, ?_, ?_⟩
  · rw [Wizard.taskType?, hid, h.catalog]
    exact ht
  · rw [Wizard.category?, hcategory, h.catalog, howner]
    exact hfound

/-- Whatever is done with a wizard and whatever others do to the manager meanwhile, what it shows is
so.  A selected type is in the catalog, under the selected category.  Before the first effective act
the state is that of the start; afterwards it is the verdict of the last one: the first of the
faults that were there then, if there was any.  An action that is not answered by "done" changes
nothing. -/
theorem honest_of_start (hcatalog : Branch.WellFormed catalog.roots) {w : Wizard}
    (hw : w = Wizard.create catalog ∨ ∃ r, Wizard.edit catalog r = .ok w) (turns : List Turn) :
  let d := (start w).run turns
  let shown := d.client.wizard
  (∀ id, shown.taskType = some id → ∃ b ∈ Branch.branchesOf catalog.roots, ∃ t ∈ b.types,
      t.id = id ∧ shown.taskType? = some t ∧ shown.category? = some b.category)
    ∧ (match d.judged with
      | none => shown.problem = none
        ∧ shown.state = if w.mode = .create then .empty else .typeSelected
      | some (m, v) => shown.problem = (v.faults m).head?
        ∧ shown.state = (if v.faults m = [] then .valid else .invalid)
        ∧ shown.name = v.name ∧ shown.taskType = v.taskType)
    ∧ shown.state ≠ .categorySelected
    ∧ (shown.state = .empty ∨ shown.state = .typeSelected ↔ d.judged = none)
    ∧ (shown.problem ≠ none ↔ shown.state = .invalid)
    ∧ ∀ m a, a ≠ .validate → (shown.act m a).answer ≠ .ok true →
      (shown.act m a).wizard = shown ∧ (shown.act m a).events = []
  := by
  intro d shown
  have hhonest : d.Honest catalog (if w.mode = .create then .empty else .typeSelected) :=
    (honest_start hw).run turns
  refine ⟨fun id hid => hhonest.selection hcatalog hid, ?_⟩
  -- All but the last part is about the state that is shown.
  rw [← and_assoc, ← and_assoc, ← and_assoc]
  refine ⟨?_, fun m a ha hanswer => Wizard.act_of_answer ha hanswer⟩
  cases hjudged : d.judged with
  | none =>
    obtain ⟨hstate, hproblem⟩ := hhonest.unjudged hjudged
    simp only [shown, hstate, hproblem]
    split <;> simp
  | some judged =>
    obtain ⟨m, v⟩ := judged
    obtain ⟨hname, htaskType, hproblem, hstate⟩ := hhonest.judged m v hjudged
    simp only [shown, hstate, hproblem, hname, htaskType]
    cases v.faults m <;> simp

/-- Another client takes the name meanwhile: to select the type again is no judgement, so the wizard
still shows what was so, and the next effective operation finds the name taken. -/
theorem honest_of_start_instance :
  let day : Timestamp := ⟨2024, 2, 29, 23, 59, 60, 1⟩
  let steps : List Builder.Step := [.category ⟨"common", "Common", "", none, none⟩,
    .type ⟨"shell", "Shell", "common", "", none, true, .anyDriver⟩]
  let catalog := (Builder.empty.run steps).1.build
  let taken : Tasks := ⟨[("t1", (Record.new day "Backup" "shell").assignId "t1")], []⟩
  let turn (s : Tasks) (a : Wizard.Action) : Turn :=
    ⟨⟨"General", s, false⟩, TaskDir.new, .operate (.act a)⟩
  let d := (start (Wizard.create catalog)).run [turn .empty (.type "shell"),
    turn .empty (.name "Backup"), turn taken (.type "shell")]
  (∃ k, d.client.wizard.category? = some k ∧ k.id = "common") ∧ d.client.wizard.state = .valid
    ∧ (d.after (turn taken (.description ""))).client.wizard.problem
      = some (.duplicateName "Backup" "General")
  := by
  intro day steps catalog taken turn d
  obtain ⟨hselection, -⟩ := honest_of_start (Builder.wellFormed_build steps)
    (w := Wizard.create catalog) (.inl rfl) [turn .empty (.type "shell"),
      turn .empty (.name "Backup"), turn taken (.type "shell")]
  obtain ⟨b, -, t, -, -, -, hcategory⟩ := hselection "shell" (by decide +kernel)
  have hid : d.client.wizard.category?.map Category.id = some "common" := by decide +kernel
  refine ⟨⟨b.category, hcategory, ?_⟩, by decide +kernel, by decide +kernel⟩
  rw [show d.client.wizard.category? = some b.category from hcategory] at hid
  exact Option.some.inj hid

end Dialog

end TaskDesk
