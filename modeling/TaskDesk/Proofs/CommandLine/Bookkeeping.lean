import TaskDesk.Proofs.CommandLine.Drafts
import TaskDesk.Proofs.CommandLine.Table

/-!
# What commands do to the table

At a desk that fits the rules, with the tasks of a table, a command to create, edit or bind a task
succeeds exactly if the table has a next one, and leaves that in the task file; if it is refused,
the task file holds the table as it was: `Desk.Fits.perform`.
-/

namespace TaskDesk

open TaskDesk.Text

/-- The task file can be written and holds tasks that show a table. -/
def TaskDir.Holds (dir : TaskDir) (table : CommandLine.Table) (used : List String) : Prop :=
  dir.made.outcome = .saved
    ∧ ∃ s : Tasks, s.Shows table used ∧ dir.load = .ok s.snapshot

namespace CommandLine

variable {rules : Rules} {table : Table} {used : List String}

theorem holds_savedDir {s : Tasks} (h : s.Shows table used) :
  (Manager.savedDir s).Holds table used
  := ⟨rfl, s, h, h.load_savedDir⟩

theorem holds_mono {dir : TaskDir} (h : dir.Holds table used) {used' : List String}
    (hused : used ⊆ used') :
  dir.Holds table used'
  := by
  obtain ⟨hsaved, s, hs, hload⟩ := h
  exact ⟨hsaved, s, hs.mono hused, hload⟩

/-- A desk for commands under rules: the tasks are those of a table, and so are those in the task
file. -/
structure Desk.Fits (d : Desk) (rules : Rules) (table : Table) (used : List String) : Prop where
  catalog : d.catalog = rules.catalog
  objects : d.settings.project.objects = rules.objects
  defaultSeconds : d.settings.wizard.defaultSeconds = rules.defaultSeconds
  now : d.now.valid = true
  id_ne_empty : d.freshId ≠ ""
  id_fresh : d.freshId ∉ used
  isBacked : d.manager.isBacked = true
  saved : d.dir.outcome = .saved
  shows : d.manager.tasks.Shows table used
  holds : d.dir.Holds table used

/-- A command comes to what the table says: it succeeds if there is a next table, and the task file
then holds that, and otherwise the table as it was. -/
def Settles (done : Except Failure String × Desk) (table : Table) (used : List String)
    (next : Option Table) : Prop :=
  done.1.isOk = next.isSome ∧ done.2.dir.Holds (next.getD table) used

/-- A refused command leaves the table alone. -/
theorem Desk.Fits.refuses {d : Desk} (h : d.Fits rules table used) (id : String) (f : Failure) :
  Settles (.error f, d) table (id :: used) none
  := ⟨rfl, holds_mono h.holds (List.subset_cons_self id used)⟩

/-! ### Limits -/

theorem limitOf_of_fits {d : Desk} (h : d.Fits rules table used) :
  d.limitOf = rules.limit
  := by
  funext seconds
  rw [Desk.limitOf, Rules.limit, Settings.defaultLimit, h.defaultSeconds]
  split <;> rfl

/-- A time limit that can be written and read back as it is. -/
def IsWhole (limit : Span) : Prop :=
  limit.seconds ≤ maxWord ∧ limit.nanos = 0

theorem isWhole_zero :
  IsWhole Span.zero
  := ⟨Nat.zero_le _, rfl⟩

theorem isWhole_limitOf {d : Desk} (h : d.Fits rules table used) {seconds : Nat}
    (hseconds : seconds ≤ maxWord) :
  IsWhole (d.limitOf seconds)
  := by
  rw [limitOf_of_fits h, Rules.limit]
  refine ⟨?_, rfl⟩
  rw [Span.ofSeconds]
  split
  · exact rules.le_maxWord
  · exact hseconds

theorem stored_eq_iff {r : Record} :
  r.stored = r ↔ r.limit.nanos = 0
  := by
  obtain ⟨_, _, _, _, _, ⟨seconds, nanos⟩, _, _, _⟩ := r
  simp [Record.stored, Span.ofSeconds, eq_comm]

theorem isWhole_of_shows {s : Tasks} (h : s.Shows table used) {id : String} {r : Record}
    (hr : s.task? id = some r) :
  IsWhole r.limit
  := ⟨(h.record hr).limit, stored_eq_iff.mp (h.stored_eq hr)⟩

/-! ### Folders -/

/-- After its folder was made, if one is named, a command has the same tasks before it. -/
theorem Desk.Fits.ensureFolder {d : Desk} (h : d.Fits rules table used) (folder : Option String) :
  ∃ d', (CommandLine.ensureFolder folder).run.run d = (.ok (), d') ∧ d'.Fits rules table used
    ∧ d'.freshId = d.freshId
    ∧ (∀ id, d'.manager.tasks.task? id = d.manager.tasks.task? id)
    ∧ ∀ n, folder = some n → n ≠ "" → ∃ f, d'.manager.tasks.folder? n = some f
  := by
  refine ⟨_, run_ensureFolder_saved h.isBacked h.saved, ?_⟩
  cases hnew : d.newFolder? folder with
  | none =>
    refine ⟨h, rfl, fun _ => rfl, ?_⟩
    rintro n rfl hn
    apply Option.ne_none_iff_exists'.mp
    intro (habsent : d.manager.tasks.folder? n = none)
    rw [newFolder?_eq_some.mpr ⟨rfl, hn, habsent⟩] at hnew
    cases hnew
  | some n =>
    obtain ⟨rfl, -, habsent⟩ := newFolder?_eq_some.mp hnew
    have hshows : (d.manager.tasks.addFolder n).Shows table used := h.shows.createFolder habsent
    refine ⟨?_, rfl, fun _ => rfl, ?_⟩
    · exact { h with saved := rfl, shows := hshows, holds := holds_savedDir hshows }
    · rintro _ ⟨⟩ -
      refine ⟨Folder.new n, ?_⟩
      simp [Desk.keep, Tasks.addFolder]

/-! ### Records -/

/-- If the record of the fresh id, with a name that is free, or one that keeps its name is replaced
and the tasks are saved, the row of the record is put into the table. -/
theorem Desk.Fits.holds_of_replaced {d : Desk} (h : d.Fits rules table used) {s' : Tasks}
    (hstorable : s'.Storable) {id : String} {r : Record}
    (hreplaced : d.manager.tasks.Replaced s' id r) (hname : r.name ≠ "")
    (hfolder : r.folder ≠ some "") (hwhole : IsWhole r.limit)
    (hid : (id = d.freshId ∧ d.manager.tasks.isTaken r.name none = false)
      ∨ ∃ q, d.manager.tasks.task? id = some q ∧ q.name = r.name) :
  (Manager.savedDir s').Holds (Keyed.put r.name (Row.of r) table) (d.freshId :: used)
  := by
  have hstored : r.stored = r := stored_eq_iff.mpr hwhole.2
  apply holds_savedDir
  obtain ⟨rfl, hfree⟩ | ⟨q, hq, hsame⟩ := hid
  · apply h.shows.replaced hreplaced hstorable h.id_ne_empty hname hfolder hstored
    intro i p hp
    constructor
    · intro hn
      have htaken : d.manager.tasks.isTaken r.name none = true :=
        (Tasks.isTaken_iff h.shows.ids_nodup).mpr ⟨i, p, hp, hn, nofun⟩
      simp [hfree] at htaken
    · rintro rfl
      exact absurd (h.shows.id_mem hp) h.id_fresh
  · have hshows := h.shows.replaced hreplaced hstorable (h.shows.id_ne_empty hq) hname hfolder
      hstored fun {i p} hp => by
        constructor
        · intro hn
          exact h.shows.name_injective hp hq (hn.trans hsame.symm)
        · rintro rfl
          obtain rfl := Option.some.inj (hp.symm.trans hq)
          exact hsame
    apply hshows.mono
    rw [List.cons_subset]
    exact ⟨List.mem_cons_of_mem _ (h.shows.id_mem hq), List.subset_cons_self _ _⟩

/-! ### Commits -/

/-- A wizard that may be committed at a desk, and whose task is that of a row. -/
structure Desk.Ready (d : Desk) (w : Wizard) : Prop where
  offered : w.Offered
  valid : w.validate d.manager = none
  accepted : w.Accepted d.manager.tasks
  whole : IsWhole w.taskLimit
  properties : w.taskId? = none → w.properties = Properties.empty
  folder : ∀ n, w.folder = some n → n ≠ "" ∧ ∃ f, d.manager.tasks.folder? n = some f

/-- A wizard that is ready is committed with success, and the tasks are in the task file. -/
theorem Desk.Fits.commit {d : Desk} (h : d.Fits rules table used) {w : Wizard} (hw : d.Ready w)
    (done : String) :
  ∃ output d', (CommandLine.commit done w).run.run d = (.ok output, d')
    ∧ d'.dir = Manager.savedDir d'.manager.tasks ∧ d'.manager.tasks.Storable
    ∧ w.Committed d.now d.freshId d.manager.tasks d'.manager.tasks
  := by
  obtain ⟨session, hok⟩ : ∃ session,
      (w.commit d.manager d.dir .saved .saved d.now d.freshId).answer = .ok session :=
    (Wizard.isOk_commit_iff hw.offered hw.valid).mpr hw.accepted
  have hconclusion := Wizard.conclusion_commit w d.manager d.dir .saved .saved d.now d.freshId
  have hending := hconclusion.ending
  have hdir := hconclusion.dir_of_ok h.isBacked hok
  rw [run_commit, h.saved]
  simp only at hending hdir ⊢
  rw [hok] at hending ⊢
  have hfresh : w.taskId? = none → d.manager.tasks.task? d.freshId = none := by
    intro _
    apply Option.eq_none_iff_forall_ne_some.mpr
    intro r hr
    exact h.id_fresh (h.shows.id_mem hr)
  have hstorable : w.Storable := by
    refine ⟨hw.whole.1, fun hnew => ?_⟩
    rw [hw.properties hnew]
    rfl
  refine ⟨_, _, rfl, hdir, hending.storable h.shows.storable hstorable h.now, ?_⟩
  exact (hending.committed h.shows.toPlaced hfresh).1 rfl

/-- The folder of a task that was committed is that of the wizard, if it is there. -/
theorem Desk.Ready.folder_eq {d : Desk} {w : Wizard} (h : d.Ready w) {folder : Option String}
    (hfolder : ∀ n, folder = some n
      ↔ w.folder = some n ∧ n ≠ "" ∧ ∃ f, d.manager.tasks.folder? n = some f) :
  folder = w.folder
  := by
  apply Option.ext
  intro n
  rw [hfolder]
  exact ⟨fun hn => hn.1, fun hn => ⟨hn, h.folder n hn⟩⟩

/-- A wizard that is ready and has no saved record puts a new row into the table. -/
theorem Desk.Fits.commit_new {d : Desk} (h : d.Fits rules table used) {w : Wizard}
    (hw : d.Ready w) (hnew : w.taskId? = none) {type : String} (htype : w.taskType = some type)
    (done : String) :
  Settles ((CommandLine.commit done w).run.run d) table (d.freshId :: used)
    (some (Keyed.put w.name ⟨type, w.description, w.folder, w.taskLimit, Properties.empty⟩ table))
  := by
  obtain ⟨output, d', hrun, hdir, hstorable, type', folder, htype', hfolder, htask⟩ :=
    h.commit hw done
  obtain rfl := Option.some.inj (htype.symm.trans htype')
  obtain rfl := hw.folder_eq hfolder
  rw [hnew] at htask
  obtain ⟨hfresh, hreplaced⟩ := htask
  obtain ⟨hname, hfree, -⟩ := Wizard.validate_eq_none.mp hw.valid
  have hholds := h.holds_of_replaced hstorable hreplaced hname
    (fun hempty => (hw.folder "" hempty).1 rfl) hw.whole (.inl ⟨rfl, hfree hnew⟩)
  have hrow : Row.of (w.made d.now d.freshId type w.folder)
      = ⟨type, w.description, w.folder, w.taskLimit, Properties.empty⟩ := by
    rw [← hw.properties hnew]
    rfl
  rw [hrow] at hholds
  rw [hrun]
  refine ⟨rfl, ?_⟩
  rw [hdir]
  exact hholds

/-- A wizard that is ready and has a saved record changes the row of that. -/
theorem Desk.Fits.commit_saved {d : Desk} (h : d.Fits rules table used) {w : Wizard}
    (hw : d.Ready w) {r : Record} (hrecord : w.record = some r)
    (hr : d.manager.tasks.task? r.id = some r) (hname : w.name = r.name) {type : String}
    (htype : w.taskType = some type) (done : String) :
  Settles ((CommandLine.commit done w).run.run d) table (d.freshId :: used)
    (some (Keyed.put r.name ⟨type, w.description, w.folder, w.taskLimit,
      if r.taskType = type then r.properties else Properties.empty⟩ table))
  := by
  obtain ⟨output, d', hrun, hdir, hstorable, type', folder, htype', hfolder, htask⟩ :=
    h.commit hw done
  obtain rfl := Option.some.inj (htype.symm.trans htype')
  obtain rfl := hw.folder_eq hfolder
  have hsaved : w.taskId? = some r.id :=
    Wizard.taskId?_eq_some.mpr ⟨r, hrecord, rfl, h.shows.id_ne_empty hr⟩
  rw [hsaved] at htask
  obtain ⟨q, hq, hreplaced⟩ := htask
  obtain rfl := Option.some.inj (hr.symm.trans hq)
  obtain ⟨hempty, -, -⟩ := Wizard.validate_eq_none.mp hw.valid
  have hholds := h.holds_of_replaced hstorable hreplaced hempty
    (fun hempty => (hw.folder "" hempty).1 rfl) hw.whole (.inr ⟨r, hr, hname.symm⟩)
  rw [← hname, hrun]
  refine ⟨rfl, ?_⟩
  rw [hdir]
  exact hholds

/-! ### Commands -/

theorem Rules.knows_iff {type : String} :
  rules.knows type = true ↔ ∃ t, rules.catalog.type? type = some t
  := Option.isSome_iff_exists

/-- The wizard for a new task is ready if nothing is wrong with its fields. -/
theorem Desk.Fits.ready_draft {d : Desk} (h : d.Fits rules table used) {name : String}
    {t : TaskType} (ht : rules.catalog.type? t.id = some t) {description : String}
    {folder : Option String} {limit : Option Nat}
    (hfolder : ∀ n, folder = some n → n ≠ "" → ∃ f, d.manager.tasks.folder? n = some f)
    (hlimit : ∀ n, limit = some n → n ≤ maxWord)
    (hvalid : (d.draft name t description folder limit).validate d.manager = none) :
  d.Ready ((d.draft name t description folder limit).settle d.manager)
  where
  offered := by
    rintro _ ⟨⟩
    exact ⟨t, by rwa [← h.catalog] at ht⟩
  valid := hvalid
  accepted := nofun
  whole := by
    cases limit with
    | none => exact isWhole_zero
    | some n => exact isWhole_limitOf h (hlimit n rfl)
  properties _ := rfl
  folder n hn := by
    obtain ⟨hn, hne⟩ := Option.filter_eq_some_iff.mp hn
    rw [decide_eq_true_eq] at hne
    exact ⟨hne, hfolder n hn hne⟩

theorem Desk.Fits.createTask {d : Desk} (h : d.Fits rules table used)
    (name type description : String) (folder : Option String) {limit : Option Nat}
    (hlimit : ∀ n, limit = some n → n ≤ maxWord) :
  Settles ((CommandLine.createTask name type description folder limit).run.run d) table
    (d.freshId :: used) (rules.next table (.create name type description folder limit))
  := by
  obtain ⟨d', hrun, h', hid, -, hfolder⟩ := h.ensureFolder folder
  rw [run_createTask, hrun, ← hid]
  dsimp only
  rw [h'.catalog]
  cases ht : rules.catalog.type? type with
  | none =>
    have hunknown : rules.knows type = false := by rw [Rules.knows, ht, Option.isSome_none]
    rw [Rules.next, hunknown, if_neg (fun hnext => Bool.false_ne_true hnext.2.2)]
    exact h'.refuses _ _
  | some t =>
    obtain rfl := Wizard.id_of_type? ht
    have hknown : rules.knows t.id = true := Rules.knows_iff.mpr ⟨t, ht⟩
    dsimp only
    -- As the type is known, the fields are good exactly if the name is given and not in the table.
    cases hvalid : (d'.draft name t description folder limit).validate d'.manager with
    | some p =>
      have hrefused : ¬(name ≠ "" ∧ name ∉ Keyed.keys table ∧ rules.knows t.id) := by
        rintro ⟨hname, hunused, -⟩
        have hfree : d'.manager.tasks.isTaken name none = false := by
          rwa [← Bool.not_eq_true, h'.shows.isTaken_iff]
        rw [Wizard.validate_eq_none.mpr ⟨hname, fun _ => hfree, t.id, rfl⟩] at hvalid
        cases hvalid
      rw [Rules.next, if_neg hrefused]
      exact h'.refuses _ _
    | none =>
      obtain ⟨hname, hfree, -⟩ := Wizard.validate_eq_none.mp hvalid
      have hunused : name ∉ Keyed.keys table := by
        rw [← h'.shows.isTaken_iff, Bool.not_eq_true]
        exact hfree rfl
      have hrow : rules.created t.id description folder limit
          = ⟨t.id, description, folder.filter fun n => n ≠ "",
              (limit.map d'.limitOf).getD Span.zero, Properties.empty⟩ := by
        rw [Rules.created]
        cases limit with
        | none => rfl
        | some n =>
          rw [Option.elim_some, ← limitOf_of_fits h']
          rfl
      rw [Rules.next, if_pos ⟨hname, hunused, hknown⟩, hrow]
      exact h'.commit_new (h'.ready_draft ht hfolder hlimit hvalid) rfl rfl "created"

/-- A wizard that holds the changes of a task is ready. -/
theorem Desk.Fits.ready_revised {d : Desk} (h : d.Fits rules table used) {r : Record}
    (hr : d.manager.tasks.task? r.id = some r) {type description folder : Option String}
    {limit : Option (Option Nat)} {w : Wizard}
    (hw : d.Revised r type description folder limit w)
    (hknown : rules.knows (type.getD r.taskType) = true)
    (hfolder : ∀ n, folder = some n → n ≠ "" → ∃ f, d.manager.tasks.folder? n = some f)
    (hlimit : ∀ n, limit = some (some n) → n ≤ maxWord) :
  d.Ready w
  := by
  have hsaved : w.taskId? = some r.id :=
    Wizard.taskId?_eq_some.mpr ⟨r, hw.record, rfl, h.shows.id_ne_empty hr⟩
  constructor
  case offered =>
    rw [Wizard.Offered, hw.taskType, hw.catalog, h.catalog]
    rintro _ ⟨⟩
    exact Rules.knows_iff.mp hknown
  case valid =>
    rw [Wizard.validate_eq_none, hw.name, hsaved, hw.taskType]
    refine ⟨h.shows.name_ne_empty hr, ?_, _, rfl⟩
    intro hnew
    cases hnew
  case accepted =>
    rw [Wizard.Accepted, hsaved, hw.name]
    rintro _ ⟨⟩
    exact ⟨r, hr, .inl rfl, .inr ⟨r, hr⟩⟩
  case whole =>
    rw [hw.limit]
    cases limit with
    | none => exact isWhole_of_shows h.shows hr
    | some seconds =>
      cases seconds with
      | none => exact isWhole_zero
      | some n => exact isWhole_limitOf h (hlimit n rfl)
  case properties =>
    rw [hsaved]
    intro hnew
    cases hnew
  case folder =>
    rw [hw.folder]
    cases folder with
    | none =>
      intro n hn
      refine ⟨?_, ?_⟩
      · rintro rfl
        exact h.shows.folder_ne_empty hr hn
      · obtain ⟨f, hf, -⟩ := (h.shows.folder_iff hr).mp hn
        exact ⟨f, hf⟩
    | some n =>
      by_cases hn : n = ""
      · simp [hn]
      · simp only [Option.elim_some, if_neg hn]
        rintro _ ⟨⟩
        exact ⟨hn, hfolder n rfl hn⟩

theorem Desk.Fits.editTask {d : Desk} (h : d.Fits rules table used) (name : String)
    (type description folder : Option String) {limit : Option (Option Nat)}
    (hlimit : ∀ n, limit = some (some n) → n ≤ maxWord) :
  Settles ((CommandLine.editTask name type description folder limit).run.run d) table
    (d.freshId :: used) (rules.next table (.edit name type description folder limit))
  := by
  rw [run_editTask, run_findTask, Rules.next]
  cases hnamed : d.manager.tasks.taskNamed? name with
  | none =>
    rw [h.shows.find?_of_unnamed hnamed]
    exact h.refuses _ _
  | some r =>
    obtain ⟨hrow, rfl, hr⟩ := h.shows.find?_of_named hnamed
    obtain ⟨d', hrun, h', hid, htask, hfolder⟩ := h.ensureFolder folder
    rw [hrun, hrow, ← hid, Option.bind_some]
    rw [← htask] at hr
    dsimp only
    -- The wizard can be filled in exactly if both types are known, and then nothing is refused.
    cases hrevision : d'.revision r type description folder limit with
    | error e =>
      have hrefused : ¬(rules.knows r.taskType ∧ rules.knows (type.getD r.taskType)) := by
        rintro ⟨hrecord, hasked⟩
        obtain ⟨t, ht⟩ := Rules.knows_iff.mp hrecord
        rw [← h'.catalog] at ht
        have htype : ∀ id, type = some id → ∃ t, d'.catalog.type? id = some t := by
          rintro id rfl
          rw [h'.catalog]
          exact Rules.knows_iff.mp hasked
        obtain ⟨w, hw⟩ := revision_of_known description folder limit ht htype
        rw [hrevision] at hw
        cases hw
      rw [Row.of, if_neg hrefused]
      exact h'.refuses _ _
    | ok w =>
      obtain ⟨hrecord, hasked, hw⟩ := revision_ok hrevision
      rw [h'.catalog, ← Rules.knows_iff] at hrecord
      have hknown : rules.knows (type.getD r.taskType) = true := by
        cases type with
        | none => exact hrecord
        | some id =>
          rw [Option.getD_some, Rules.knows_iff, ← h'.catalog]
          exact hasked id rfl
      have hready := h'.ready_revised hr hw hknown hfolder hlimit
      have hdone := h'.commit_saved hready hw.record hr hw.name hw.taskType "updated"
      have hafter : rules.edited (Row.of r) type description folder limit
          = ⟨type.getD r.taskType, w.description, w.folder, w.taskLimit,
              if r.taskType = type.getD r.taskType then r.properties else Properties.empty⟩ := by
        rw [hw.description, hw.folder, hw.limit, limitOf_of_fits h']
        rfl
      rw [Row.of, if_pos ⟨hrecord, hknown⟩, ← Row.of, hafter]
      exact hdone

/-- What a task is to be bound to is looked up as the table says, and nothing is changed. -/
theorem run_targetFor {d : Desk} (h : d.Fits rules table used) (r : Record)
    (target : Option String) :
  match rules.target? (Row.of r) target with
  | none => ∃ f, (targetFor r target).run.run d = (.error f, d)
  | some o => (targetFor r target).run.run d = (.ok (some o), d)
  := by
  have hindex : d.index = ⟨rules.objects, 0, none⟩ := by rw [Desk.index, h.objects]
  cases target with
  | some id =>
    simp only [targetFor, run_bind, run_get, hindex, ObjectIndex.find?, Rules.target?,
      Option.some_or]
    by_cases hblank : blank id = true
    · simp only [if_pos hblank, run_check]
      exact ⟨_, rfl⟩
    · simp only [if_neg hblank, run_check, Except.mapError, run_need]
      cases rules.objects.find? fun o => o.id = id with
      | none => exact ⟨_, rfl⟩
      | some o => rfl
  | none =>
    simp only [targetFor, run_bind, run_get, hindex, Resolver.load, Resolver.storedId?,
      Rules.target?, Option.none_or, Row.of, Resolver.scriptDatabase]
    cases (r.properties.text? "pg.script.database").filter fun id => id ≠ "" with
    | none =>
      simp only [Resolver.scan]
      cases rules.objects.find? fun o => o.kind = "database" with
      | none => exact ⟨_, rfl⟩
      | some o => rfl
    | some id =>
      simp only [ObjectIndex.find?]
      by_cases hblank : blank id = true
      · simp only [if_pos hblank]
        exact ⟨_, rfl⟩
      · simp only [if_neg hblank]
        cases rules.objects.find? fun o => o.id = id with
        | none => exact ⟨_, rfl⟩
        | some o => rfl

/-- The record of a task that is bound to an object. -/
def boundRecord (r : Record) (now : Timestamp) (o : BoundObject) : Record :=
  r.setProperties now (r.properties.insert "pg.script.database" (.str o.id))

/-- Binding a task that is there to an object puts its new record in its place. -/
theorem run_bindTask {d : Desk} (h : d.Fits rules table used) {name : String}
    {target : Option String} {r : Record} {o : BoundObject}
    (hnamed : d.manager.tasks.taskNamed? name = some r)
    (htarget : (targetFor r target).run.run d = (.ok (some o), d)) :
  (bindTask name target).run.run d
    = (.ok (line ("task '" ++ r.name ++ "' bound to " ++ o.name ++ " (" ++ o.id ++ ")")),
        d.keep (d.manager.tasks.store r.id (boundRecord r d.now o)))
  := by
  obtain ⟨-, -, hr⟩ := h.shows.find?_of_named hnamed
  have hname : r.name ≠ "" := h.shows.name_ne_empty hr
  have hsave : (((Binding.new .scriptDatabase).setTarget (some o)).save d.index r.properties).2
      = r.properties.insert "pg.script.database" (.str o.id) := rfl
  have hupdate : d.manager.tasks.updateTask d.manager.project d.now r.id
        (fun q => q.setProperties d.now (r.properties.insert "pg.script.database" (.str o.id)))
      = .ok ⟨d.manager.tasks.store r.id (boundRecord r d.now o), boundRecord r d.now o, []⟩ :=
    Tasks.updateTask_eq_ok.mpr ⟨r, hr, (if_pos rfl).symm, hname, .inl rfl, rfl, rfl⟩
  rw [bindTask, run_bind, run_findTask, hnamed]
  dsimp only
  rw [run_bind, htarget]
  dsimp only
  rw [run_bind, run_get]
  dsimp only
  rw [hsave, run_bind, run_change_saved h.isBacked h.saved, hupdate]
  rfl

theorem Desk.Fits.bindTask {d : Desk} (h : d.Fits rules table used) (name : String)
    (target : Option String) :
  Settles ((CommandLine.bindTask name target).run.run d) table (d.freshId :: used)
    (rules.next table (.bind name target))
  := by
  rw [Rules.next]
  cases hnamed : d.manager.tasks.taskNamed? name with
  | none =>
    rw [h.shows.find?_of_unnamed hnamed, CommandLine.bindTask, run_bind, run_findTask, hnamed]
    exact h.refuses _ _
  | some r =>
    obtain ⟨hrow, rfl, hr⟩ := h.shows.find?_of_named hnamed
    have htarget := run_targetFor h r target
    rw [hrow, Option.bind_some]
    cases hfound : rules.target? (Row.of r) target with
    | none =>
      rw [hfound] at htarget
      obtain ⟨f, hf⟩ := htarget
      rw [CommandLine.bindTask, run_bind, run_findTask, hnamed]
      dsimp only
      rw [run_bind, hf]
      exact h.refuses _ _
    | some o =>
      rw [hfound] at htarget
      have hname : r.name ≠ "" := h.shows.name_ne_empty hr
      have hfolder : r.folder ≠ some "" := h.shows.folder_ne_empty hr
      have hwhole : IsWhole r.limit := isWhole_of_shows h.shows hr
      have hreplaced := Tasks.replaced_store h.shows.toSound hr (r := boundRecord r d.now o) rfl
      have hstorable : (d.manager.tasks.store r.id (boundRecord r d.now o)).Storable := by
        apply h.shows.storable.store (r := boundRecord r d.now o)
        have hbefore := h.shows.record hr
        refine ⟨hbefore.createdAt, h.now, hbefore.limit, ?_⟩
        exact Properties.isPlain_insert hbefore.properties rfl
      rw [run_bindTask h hnamed htarget]
      refine ⟨rfl, ?_⟩
      exact h.holds_of_replaced hstorable hreplaced hname hfolder hwhole (.inr ⟨r, hr, rfl⟩)

/-- Whether a command creates, edits or binds a task. -/
def Command.changesTask : Command → Bool
  | .create .. | .edit .. | .bind .. => true
  | _ => false

/-- The number of seconds that a command gives. -/
def Command.seconds? : Command → Option Nat
  | .create _ _ _ _ limit => limit
  | .edit _ _ _ _ limit => limit.join
  | _ => none

/-- At a desk that fits the rules a command comes to what the table says. -/
theorem Desk.Fits.perform {d : Desk} (h : d.Fits rules table used) {c : Command}
    (hc : c.changesTask = true) (hseconds : ∀ n, c.seconds? = some n → n ≤ maxWord) :
  Settles (c.perform.run.run d) table (d.freshId :: used) (rules.next table c)
  := by
  cases c with
  | create name type description folder limit =>
    exact h.createTask name type description folder hseconds
  | edit name type description folder limit =>
    apply h.editTask name type description folder
    rintro n rfl
    exact hseconds n rfl
  | bind name target => exact h.bindTask name target
  | _ => cases hc

end CommandLine

end TaskDesk
