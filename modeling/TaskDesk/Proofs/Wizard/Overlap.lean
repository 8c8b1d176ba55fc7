import TaskDesk.Proofs.Wizard.Outcome

/-!
# Two wizards for one task

A wizard for a task holds what the task had when the wizard was made, but for the fields that were
changed in it, and a commit writes all that it holds.  So of two wizards that change one `Field`
each, the one that commits last has its change in the task, and the other three fields are as it
found them, `overlap_of_run`: the change of the first wizard is there if the second one was made
after it was committed, and otherwise it is lost, `change_lost`.
-/

namespace TaskDesk

/-- The fields of a task that a wizard for it can change. -/
inductive Field where
  | description
  | limit
  | folder
  | taskType
deriving DecidableEq

/-- What a field has. -/
inductive Content where
  | text (s : String)
  | span (d : Span)
  | name (n : Option String)
deriving DecidableEq

/-- What a record has in a field. -/
def Record.content (r : Record) : Field → Content
  | .description => .text r.description
  | .limit => .span r.limit
  | .folder => .name r.folder
  | .taskType => .name (some r.taskType)

/-- The destination of a folder depends on the names of the folders only. -/
theorem Tasks.Replaced.destination {s s' : Tasks} {id : String} {r : Record}
    (h : s.Replaced s' id r) (name : Option String) :
  s'.destination name = s.destination name
  := by
  ext n
  rw [Tasks.destination_eq_some, Tasks.destination_eq_some]
  have hthere : (∃ f, s'.folder? n = some f) ↔ ∃ f, s.folder? n = some f := by
    rw [← Option.isSome_iff_exists, ← Option.isSome_iff_exists, ← Option.isSome_map, h.folder,
      Option.isSome_map]
  rw [hthere]

/-- A record that a task had at some time of a run. -/
def Manager.State.Had (s : State) (steps : List Step) (id : String) (r : Record) : Prop :=
  ∃ done next, steps = done ++ next ∧ (s.run done).manager.tasks.task? id = some r

/-- The task is there still, and so is the folder in which it was. -/
theorem Manager.State.Had.found {s : State} {steps : List Step} {id : String} {r : Record}
    (h : s.Had steps id r) (hs : s.manager.tasks.Placed) (hsteps : s.Admits steps) :
  let after := (s.run steps).manager.tasks
  ∃ q, after.task? id = some q ∧ id ≠ "" ∧ r.id = id ∧ after.destination r.folder = r.folder
  := by
  intro after
  obtain ⟨done, next, rfl, hr⟩ := h
  obtain ⟨hdone, hnext⟩ := admits_append.mp hsteps
  have hplaced : (s.run done).manager.tasks.Placed := placed_run hs hdone
  have hafter : after = ((s.run done).run next).manager.tasks := by
    simp only [after, run, List.foldl_append]
  have hwithin : (s.run done).manager.tasks.Within after := by
    rw [hafter]
    exact within_run hnext
  obtain ⟨q, hq, -⟩ := hwithin.task hr
  refine ⟨q, hq, hplaced.id_ne_empty hr, hplaced.id_eq hr, ?_⟩
  have hstays := Tasks.destination_of_placed hplaced hr
  cases hfolder : r.folder with
  | none => rfl
  | some n =>
    rw [hfolder] at hstays
    obtain ⟨-, hn, _, hf⟩ := Tasks.destination_eq_some.mp hstays
    exact Tasks.destination_eq_some.mpr ⟨rfl, hn, hwithin.folder hf⟩

namespace Wizard

/-- What a wizard is to write into a field of its task. -/
def content (w : Wizard) (s : Tasks) : Field → Content
  | .description => .text w.description
  | .limit => .span w.taskLimit
  | .folder => .name (s.destination w.folder)
  | .taskType => .name w.taskType

/-- The field that an operation may change, if any. -/
def Operation.field? : Operation → Option Field
  | .act (.description _) => some .description
  | .act (.limit _) => some .limit
  | .act (.folder _) | .withFolder _ => some .folder
  | .act (.category _) | .act (.type _) => some .taskType
  | _ => none

/-- A wizard for a record in which at most one field was changed. -/
inductive Edits (f : Field) (r : Record) : Wizard → Prop where
  | opened {catalog w} (h : edit catalog r = .ok w) : Edits f r w
  | operated {w} (h : Edits f r w) (m : Manager) (o : Operation)
      (ho : ∀ g, o.field? = some g → g = f) : Edits f r (w.operate m o)

variable {w : Wizard} {s : Tasks} {f : Field} {r : Record}

/-! ### What a wizard holds -/

theorem content_ofSelection (s : Tasks) {x : Except WizardError Selection}
    (h : ∀ {y}, x = .ok y → y.wizard.content s f = w.content s f) :
  (Effect.ofSelection w x).wizard.content s f = w.content s f
  := by
  cases x with
  | error e => rfl
  | ok y => apply h rfl

theorem content_selectCategory {m : Manager} {id : String} {y : Selection}
    (h : w.selectCategory m id = .ok y) (hf : f ≠ .taskType) :
  y.wizard.content s f = w.content s f
  := by
  obtain rfl | ⟨-, rfl⟩ := selectCategory_eq_ok h
  · rfl
  · cases f with
    | taskType => exact absurd rfl hf
    | _ => rfl

theorem content_selectType {m : Manager} {id : String} {y : Selection}
    (h : w.selectType m id = .ok y) (hf : f ≠ .taskType) :
  y.wizard.content s f = w.content s f
  := by
  obtain ⟨t, -, ⟨-, rfl⟩ | ⟨-, rfl⟩⟩ := selectType_eq_ok h
  · rfl
  · cases f with
    | taskType => exact absurd rfl hf
    | _ => rfl

/-- An operation leaves the fields alone that it is not about. -/
theorem content_operate (m : Manager) (w : Wizard) (s : Tasks) {o : Operation}
    (h : o.field? ≠ some f) :
  (w.operate m o).content s f = w.content s f
  := by
  cases o with
  | act a =>
    cases a with
    | name text =>
      have heffect : w.operate m (.act (.name text)) = (w.setName m text).1 := rfl
      rw [heffect, setName]
      split <;> rfl
    | category id =>
      have hf : f ≠ .taskType := by
        rintro rfl
        exact h rfl
      apply content_ofSelection
      intro y hy
      apply content_selectCategory hy hf
    | type id =>
      have hf : f ≠ .taskType := by
        rintro rfl
        exact h rfl
      apply content_ofSelection
      intro y hy
      apply content_selectType hy hf
    | description text | folder name | limit limit =>
      cases f with
      | description | limit | folder | taskType => first | rfl | exact absurd rfl h
    | property key value | validate => rfl
  | withFolder folder =>
    cases f with
    | folder => exact absurd rfl h
    | _ => rfl
  | properties p | withFiltering filtering | withDefaultLimit limit => rfl

/-- A wizard for a task that stays in its folder holds what the task had when the wizard was made,
but for the field that was changed. -/
theorem Edits.held (h : Edits f r w) (hplaced : s.destination r.folder = r.folder) :
  w.record = some r ∧ ∀ g, g ≠ f → w.content s g = r.content g
  := by
  induction h with
  | opened h =>
    obtain ⟨hrecord, -⟩ := edit_ok h
    obtain ⟨hlimit, -, hdescription, hfolder, htype⟩ := fields_edit h
    refine ⟨hrecord, ?_⟩
    intro g _
    cases g with
    | description => exact congrArg Content.text hdescription
    | limit => exact congrArg Content.span hlimit
    | folder =>
      rw [content, hfolder, hplaced]
      rfl
    | taskType => exact congrArg Content.name htype
  | operated _ m o ho ih =>
    obtain ⟨hrecord, hheld⟩ := ih
    refine ⟨(sameTask_operate m _ o).record.trans hrecord, ?_⟩
    intro g hg
    rw [content_operate, hheld g hg]
    intro ho'
    exact hg (ho g ho')

/-! ### What a commit writes -/

theorem content_amended {now : Timestamp} {type : String} (htype : w.taskType = some type)
    (r : Record) (f : Field) :
  (w.amended now type (s.destination w.folder) r).content f = w.content s f
  := by
  cases f with
  | taskType => exact congrArg Content.name htype.symm
  | _ => rfl

/-- A commit of a saved task replaces the record of that task. -/
theorem Committed.of_saved {now : Timestamp} {id saved : String} {s' : Tasks}
    (h : w.Committed now id s s') (hsaved : w.taskId? = some saved) :
  ∃ type r, w.taskType = some type ∧ s.task? saved = some r
    ∧ s.Replaced s' saved (w.amended now type (s.destination w.folder) r)
  := by
  obtain ⟨type, folder, htype, hfolder, hreplaced⟩ := h
  have hdestination : folder = s.destination w.folder := by
    ext n
    rw [hfolder, Tasks.destination_eq_some]
  rw [hsaved, hdestination] at hreplaced
  obtain ⟨r, hr, hreplaced⟩ := hreplaced
  exact ⟨type, r, htype, hr, hreplaced⟩

/-- All that a commit of a wizard for a task writes is found in the task, which has lost its
properties if it was of another type. -/
theorem written_of_commit {m : Manager} (hs : m.tasks.Placed) {id : String}
    (hid : id ≠ "") (hw : w.record = some r) (hr : r.id = id) {current : Record}
    (hcurrent : m.tasks.task? id = some current) (dir : TaskDir) (first second : SaveOutcome)
    (now : Timestamp) (new : String)
    (hok : (w.commit m dir first second now new).answer.isOk = true) :
  let after := (w.commit m dir first second now new).manager.tasks
  after.Placed ∧ (∀ n, after.destination n = m.tasks.destination n)
    ∧ ∃ q, after.task? id = some q ∧ (∀ f, q.content f = w.content m.tasks f)
      ∧ q.properties
        = if w.taskType = some current.taskType then current.properties else Properties.empty
  := by
  intro after
  have hsaved : w.taskId? = some id := taskId?_eq_some.mpr ⟨r, hw, hr, hid⟩
  have hending := w.ending_commit m dir first second now new
  have hplaced : after.Placed := by
    apply hending.placed hs
    simp [hsaved]
  obtain ⟨hcommitted, -⟩ := hending.committed hs (by simp [hsaved])
  obtain ⟨type, current', htype, hcurrent', hreplaced⟩ := (hcommitted hok).of_saved hsaved
  obtain rfl := Option.some.inj (hcurrent.symm.trans hcurrent')
  refine ⟨hplaced, hreplaced.destination,
    w.amended now type (m.tasks.destination w.folder) current, ?_, ?_, ?_⟩
  · exact (hreplaced.task id).trans (if_pos rfl)
  · apply content_amended htype
  · rw [htype, amended]
    simp [eq_comm]

/-! ### Two wizards -/

/-- Two wizards that were made for a task at any time of a run, for what it had then, are committed
one after the other, and each changes another field.  The task then has the change of the later one,
and in the other fields what that one found when it was made, so it has both changes if the later
one was made after the first commit.  It keeps its properties if neither commit changes its type. -/
theorem overlap_of_run {start : Manager.State} (hstart : start.manager.tasks.Placed)
    (steps : List Manager.Step) (hsteps : start.Admits steps)
    (first second : SaveOutcome × SaveOutcome) (now later : Timestamp) (new new' id : String)
    {v w : Wizard} {f g : Field} {r q : Record} (hv : v.Edits f r) (hw : w.Edits g q)
    (hfg : f ≠ g) :
  let s := start.run steps
  let once := v.commit s.manager s.dir first.1 first.2 now new
  let twice := w.commit once.manager once.dir second.1 second.2 later new'
  start.Had steps id r →
  (start.Had steps id q ∨ once.manager.tasks.task? id = some q) →
  once.answer.isOk → twice.answer.isOk →
  ∃ before after, s.manager.tasks.task? id = some before
    ∧ twice.manager.tasks.task? id = some after
    ∧ after.content g = w.content once.manager.tasks g
    ∧ (∀ h, h ≠ g → after.content h = q.content h)
    ∧ (once.manager.tasks.task? id = some q → after.content f = v.content s.manager.tasks f)
    ∧ after.properties
      = if v.taskType = some before.taskType ∧ w.taskType = v.taskType then before.properties
        else Properties.empty
  := by
  intro s once twice hr hq hok hok'
  have hs : s.manager.tasks.Placed := Manager.State.placed_run hstart hsteps
  obtain ⟨before, hbefore, hid, hrid, hstays⟩ := hr.found hstart hsteps
  obtain ⟨hrecord, -⟩ := hv.held hstays
  obtain ⟨hs', hdestination, r', hr', hwritten, hproperties⟩ :=
    written_of_commit hs hid hrecord hrid hbefore s.dir first.1 first.2 now new hok
  -- The folder in which the later wizard found the task is there still.
  have hq' : q.id = id ∧ once.manager.tasks.destination q.folder = q.folder := by
    obtain hearlier | hafter := hq
    · obtain ⟨-, -, -, hqid, hstays'⟩ := hearlier.found hstart hsteps
      rw [hdestination]
      exact ⟨hqid, hstays'⟩
    · exact ⟨hs'.id_eq hafter, Tasks.destination_of_placed hs' hafter⟩
  obtain ⟨hrecord', hheld⟩ := hw.held hq'.2
  obtain ⟨-, -, after, hafter, hwritten', hproperties'⟩ :=
    written_of_commit hs' hid hrecord' hq'.1 hr' once.dir second.1 second.2 later new' hok'
  refine ⟨before, after, hbefore, hafter, hwritten' g, ?_, ?_, ?_⟩
  · intro h hh
    rw [hwritten', hheld h hh]
  · intro hfresh
    obtain rfl := Option.some.inj (hr'.symm.trans hfresh)
    rw [hwritten', hheld f hfg, hwritten]
  · have htype : v.taskType = some r'.taskType := by
      have hcontent : Content.name (some r'.taskType) = Content.name v.taskType :=
        hwritten .taskType
      exact (Content.name.inj hcontent).symm
    rw [hproperties', hproperties, htype]
    by_cases hsame : w.taskType = some r'.taskType <;> simp [hsame]

/-- One wizard moves a task, and one that was made after it and before the move, when the task had
got a description, gives the task another type: the task has the description, is moved back and has
lost its properties. -/
theorem overlap_of_run_instance :
  let catalog : Catalog := ⟨[.mk ⟨"common", "Common", "", none, none⟩ []
    [⟨"dump", "Dump", "common", "", none, true, .anyDriver⟩,
      ⟨"shell", "Shell", "common", "", none, true, .anyDriver⟩]]⟩
  let day : Timestamp := ⟨2024, 2, 29, 23, 59, 60, 1⟩
  let backup : NewTask := ⟨"shell", "Backup", "", some "Nightly", Span.zero,
    Properties.empty.insert "script" (.str "backup.sh")⟩
  let done : List Manager.Step := [
    ⟨.createFolder "Nightly", day, .saved⟩, ⟨.createFolder "Weekly", day, .saved⟩,
    ⟨.createTask "t1" backup, day, .saved⟩]
  let next : List Manager.Step := [⟨.updateTask "t1" [.description "All"], day, .saved⟩]
  let start := Manager.State.start "General" true TaskDir.new
  let s := start.run (done ++ next)
  let r := Tasks.newRecord day "t1" backup (some "Nightly")
  let q := r.setDescription day "All"
  let v := ((edit catalog r).toOption.getD (create catalog)).operate s.manager
    (.act (.folder (some "Weekly")))
  let w := ((edit catalog q).toOption.getD (create catalog)).operate s.manager (.act (.type "dump"))
  let once := v.commit s.manager s.dir .saved .saved day "t2"
  let twice := w.commit once.manager once.dir .saved .saved day "t2"
  start.manager.tasks.Placed ∧ start.Admits (done ++ next) ∧ v.Edits .folder r
    ∧ w.Edits .taskType q ∧ start.Had (done ++ next) "t1" r ∧ start.Had (done ++ next) "t1" q
    ∧ once.answer.isOk ∧ twice.answer.isOk
    ∧ ∃ before after, s.manager.tasks.task? "t1" = some before
      ∧ twice.manager.tasks.task? "t1" = some after
      ∧ after.content .taskType = w.content once.manager.tasks .taskType
      ∧ (∀ h, h ≠ .taskType → after.content h = q.content h)
      ∧ (once.manager.tasks.task? "t1" = some q → after.content .folder
          = v.content s.manager.tasks .folder)
      ∧ after.properties
        = if v.taskType = some before.taskType ∧ w.taskType = v.taskType then before.properties
          else Properties.empty
  := by
  refine ⟨Tasks.placed_empty, ?admits, ?moves, ?retypes, ?made, ?changed, ?first, ?second,
    overlap_of_run Tasks.placed_empty _ ?admits (.saved, .saved) (.saved, .saved) _ _
      "t2" "t2" "t1" ?moves ?retypes (by decide) ?made (.inl ?changed) ?first ?second⟩
  case moves | retypes =>
    apply Edits.operated (.opened (eq_ok_getD (by decide +kernel) _))
    rintro _ ⟨⟩
    rfl
  case made => exact ⟨_, _, rfl, rfl⟩
  case changed => exact ⟨_, [], (List.append_nil _).symm, rfl⟩
  all_goals decide +kernel

/-- The change of a wizard may be lost: of two wizards that are made for a task at the same time the
first one gives it a description and the second one a limit, and the description is gone. -/
theorem change_lost :
  let catalog : Catalog := ⟨[.mk ⟨"common", "Common", "", none, none⟩ []
    [⟨"shell", "Shell", "common", "", none, true, .anyDriver⟩]]⟩
  let day : Timestamp := ⟨2024, 2, 29, 23, 59, 60, 1⟩
  let backup : NewTask := ⟨"shell", "Backup", "", none, Span.zero, Properties.empty⟩
  let s := (Manager.State.start "General" true TaskDir.new).run
    [⟨.createTask "t1" backup, day, .saved⟩]
  let made := ((s.manager.tasks.task? "t1").map (edit catalog)).bind Except.toOption
  let opened := made.getD (create catalog)
  let v := opened.setDescription s.manager "Every night"
  let w := opened.setLimit s.manager (some (Span.ofSeconds 60))
  let once := v.commit s.manager s.dir .saved .saved day "t2"
  let twice := w.commit once.manager once.dir .saved .saved day "t2"
  made.isSome ∧ once.answer.isOk ∧ twice.answer.isOk
    ∧ ((twice.manager.tasks.task? "t1").map fun q => (q.description, q.limit))
      = some ("", Span.ofSeconds 60)
  := by
  decide +kernel

end Wizard

end TaskDesk
