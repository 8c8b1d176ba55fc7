import TaskDesk.CommandLine.Command
import TaskDesk.Target.Basic
import TaskDesk.Proofs.Manager.Persistence
import TaskDesk.Proofs.Manager.Placement
import Mathlib.Data.List.Nodup

/-!
# A table of tasks

To its user the program keeps a table: under the name of each task a `Row` with what a command can
set.  `Rules.next` says what the table is after a command, and when the command is refused.  Tasks
are those of a table, `Tasks.Shows`, if they are as the program has them and the records, without
their ids and times, are the rows; then the task file that they are saved in holds the table:
`Tasks.Shows.load_savedDir` and `Tasks.Shows.perm`.
-/

namespace TaskDesk

open TaskDesk.Text

namespace CommandLine

/-- What a table says of a task. -/
structure Row where
  taskType : String
  description : String
  folder : Option String
  limit : Span
  properties : Properties

/-- The row of a record. -/
def Row.of (r : Record) : Row :=
  ⟨r.taskType, r.description, r.folder, r.limit, r.properties⟩

/-- The rows under the names of the tasks. -/
abbrev Table := List (String × Row)

/-- What commands depend on besides the table: the catalog, the objects that tasks can be bound to,
and the seconds of the time limit that is offered, which fit in a word. -/
structure Rules where
  catalog : Catalog
  objects : List BoundObject
  defaultSeconds : Nat
  le_maxWord : defaultSeconds ≤ maxWord

namespace Rules

/-- Whether a task type is in the catalog. -/
def knows (rules : Rules) (type : String) : Bool :=
  (rules.catalog.type? type).isSome

/-- The time limit that a number of seconds stands for. -/
def limit (rules : Rules) (seconds : Nat) : Span :=
  Span.ofSeconds (if seconds = 0 then rules.defaultSeconds else seconds)

/-- The row of a new task. -/
def created (rules : Rules) (type description : String) (folder : Option String)
    (limit : Option Nat) : Row where
  taskType := type
  description := description
  folder := folder.filter fun n => n ≠ ""
  limit := limit.elim Span.zero rules.limit
  properties := Properties.empty

/-- The row of a task after it was edited: what is given is changed, and another type takes the
properties away. -/
def edited (rules : Rules) (row : Row) (type description folder : Option String)
    (limit : Option (Option Nat)) : Row where
  taskType := type.getD row.taskType
  description := description.getD row.description
  folder := folder.elim row.folder fun n => if n = "" then none else some n
  limit := limit.elim row.limit fun n => n.elim Span.zero rules.limit
  properties := if row.taskType = type.getD row.taskType then row.properties else Properties.empty

/-- The object that a task is bound to: the one with the given id, or with the id that the task has
stored if that is not empty, or else the first database.  No object is found under a blank id. -/
def target? (rules : Rules) (row : Row) (target : Option String) : Option BoundObject :=
  match target.or ((row.properties.text? "pg.script.database").filter fun id => id ≠ "") with
  | some id => if blank id then none else rules.objects.find? fun o => o.id = id
  | none => rules.objects.find? fun o => o.kind = "database"

/-- The row of a task after it was bound to an object. -/
def bound (row : Row) (o : BoundObject) : Row :=
  { row with properties := row.properties.insert "pg.script.database" (.str o.id) }

/-- The table after a command to create, edit or bind a task, if it is not refused. -/
def next (rules : Rules) (table : Table) : Command → Option Table
  | .create name type description folder limit =>
    if name ≠ "" ∧ name ∉ Keyed.keys table ∧ rules.knows type then
      some (Keyed.put name (rules.created type description folder limit) table)
    else none
  | .edit name type description folder limit =>
    (Keyed.find? name table).bind fun row =>
      if rules.knows row.taskType ∧ rules.knows (type.getD row.taskType) then
        some (Keyed.put name (rules.edited row type description folder limit) table)
      else none
  | .bind name target =>
    (Keyed.find? name table).bind fun row =>
      (rules.target? row target).map fun o => Keyed.put name (bound row o) table
  | _ => none

end Rules

end CommandLine

namespace Tasks

open CommandLine

/-! ### Tasks that show a table -/

/-- The tasks are those of a table, and their ids are among those that were used. -/
structure Shows (s : Tasks) (table : Table) (used : List String) : Prop
    extends Placed s, Storable s where
  stored_eq : ∀ {id r}, s.task? id = some r → r.stored = r
  id_mem : ∀ {id r}, s.task? id = some r → id ∈ used
  names_nodup : (Keyed.keys table).Nodup
  row_iff : ∀ {name row}, Keyed.find? name table = some row
    ↔ ∃ id r, s.task? id = some r ∧ r.name = name ∧ Row.of r = row

variable {s s' : Tasks} {table : Table} {used : List String}

theorem Shows.storable (h : s.Shows table used) :
  s.Storable
  := ⟨h.toIndexed, h.record, h.folder⟩

theorem Shows.mono (h : s.Shows table used) {used' : List String} (hused : used ⊆ used') :
  s.Shows table used'
  := { h with id_mem := fun hr => hused (h.id_mem hr) }

/-- Which table tasks show depends on what can be looked up. -/
theorem Shows.of_lookups (h : s.Shows table used) (hindexed : s'.Indexed)
    (htask : ∀ id, s'.task? id = s.task? id) (hfolder : ∀ n, s'.folder? n = s.folder? n) :
  s'.Shows table used
  := by
  have hlists : ∀ n id, s'.Lists n id ↔ s.Lists n id := by
    intro n id
    rw [Lists, Lists, hfolder]
  constructor
  · refine ⟨⟨hindexed, ?_, ?_, ?_, ?_, ?_⟩, ?_⟩ <;> simp only [htask, hlists]
    · exact h.id_ne_empty
    · exact h.name_ne_empty
    · exact h.name_injective
    · exact h.folder_iff
    · exact h.listed
    · exact h.folder_ne_empty
  · simp only [htask]
    exact h.record
  · simp only [hfolder]
    exact h.folder
  · simp only [htask]
    exact h.stored_eq
  · simp only [htask]
    exact h.id_mem
  · exact h.names_nodup
  · simp only [htask]
    exact h.row_iff

/-- A new folder is not seen in the table. -/
theorem Shows.createFolder (h : s.Shows table used) {name : String}
    (hname : s.folder? name = none) :
  Shows { s with folders := Keyed.put name (Folder.new name) s.folders } table used
  where
  toSound := h.toSound.createFolder hname
  folder_ne_empty := h.folder_ne_empty
  record := h.record
  folder := (h.storable.createFolder name).folder
  stored_eq := h.stored_eq
  id_mem := h.id_mem
  names_nodup := h.names_nodup
  row_iff := h.row_iff

/-- If a record is replaced under an id, its row is put into the table, provided that no other
record has its name. -/
theorem Shows.replaced (h : s.Shows table used) {id : String} {r : Record}
    (hreplaced : s.Replaced s' id r) (hstorable : s'.Storable) (hid : id ≠ "") (hname : r.name ≠ "")
    (hfolder : r.folder ≠ some "") (hstored : r.stored = r)
    (hother : ∀ {i q}, s.task? i = some q → (q.name = r.name ↔ i = id)) :
  s'.Shows (Keyed.put r.name (Row.of r) table) (id :: used)
  := by
  have hsound : s'.Sound :=
    h.toSound.of_replaced hstorable.toIndexed hreplaced hid hname fun hq hn => (hother hq).mp hn
  constructor
  · refine ⟨hsound, ?_⟩
    intro i q hq
    obtain ⟨-, rfl⟩ | ⟨-, hq⟩ := hreplaced.task?_eq_some.mp hq
    · exact hfolder
    · exact h.folder_ne_empty hq
  · exact hstorable.record
  · exact hstorable.folder
  · intro i q hq
    obtain ⟨-, rfl⟩ | ⟨-, hq⟩ := hreplaced.task?_eq_some.mp hq
    · exact hstored
    · exact h.stored_eq hq
  · intro i q hq
    obtain ⟨rfl, -⟩ | ⟨-, hq⟩ := hreplaced.task?_eq_some.mp hq
    · exact List.mem_cons_self
    · exact List.mem_cons_of_mem _ (h.id_mem hq)
  · exact Keyed.nodup_keys_put h.names_nodup
  -- Under the name of the record there is its row alone, and no row of another name is touched.
  · intro name row
    have hr : s'.task? id = some r := hreplaced.task?_eq_some.mpr (.inl ⟨rfl, rfl⟩)
    rw [Keyed.find?_put]
    split
    · next hname =>
      subst hname
      constructor
      · rintro ⟨⟩
        exact ⟨id, r, hr, rfl, rfl⟩
      · rintro ⟨i, q, hq, hn, rfl⟩
        obtain rfl := hsound.name_injective hq hr hn
        obtain rfl := Option.some.inj (hq.symm.trans hr)
        rfl
    · next hname =>
      rw [h.row_iff]
      constructor
      · rintro ⟨i, q, hq, rfl, hrow⟩
        have hi : i ≠ id := fun hi => hname ((hother hq).mpr hi)
        exact ⟨i, q, hreplaced.task?_eq_some.mpr (.inr ⟨hi, hq⟩), rfl, hrow⟩
      · rintro ⟨i, q, hq, rfl, hrow⟩
        obtain ⟨-, rfl⟩ | ⟨-, hq⟩ := hreplaced.task?_eq_some.mp hq
        · exact absurd rfl hname
        · exact ⟨i, q, hq, rfl, hrow⟩

/-! ### Names -/

theorem Shows.isTaken_iff (h : s.Shows table used) {name : String} :
  s.isTaken name none = true ↔ name ∈ Keyed.keys table
  := by
  rw [Tasks.isTaken_iff h.ids_nodup, Keyed.mem_keys_iff]
  constructor
  · rintro ⟨id, r, hr, hname, -⟩
    exact ⟨Row.of r, h.row_iff.mpr ⟨id, r, hr, hname, rfl⟩⟩
  · rintro ⟨row, hrow⟩
    obtain ⟨id, r, hr, hname, -⟩ := h.row_iff.mp hrow
    exact ⟨id, r, hr, hname, nofun⟩

theorem Shows.find?_of_named (h : s.Shows table used) {name : String} {r : Record}
    (hr : s.taskNamed? name = some r) :
  Keyed.find? name table = some (Row.of r) ∧ r.name = name ∧ s.task? r.id = some r
  := by
  have hname : r.name = name := by simpa using List.find?_some hr
  obtain ⟨id, hid⟩ := (Keyed.mem_values_iff h.ids_nodup).mp (List.mem_of_find?_eq_some hr)
  obtain rfl := h.id_eq hid
  exact ⟨h.row_iff.mpr ⟨r.id, r, hid, hname, rfl⟩, hname, hid⟩

theorem Shows.find?_of_unnamed (h : s.Shows table used) {name : String}
    (hname : s.taskNamed? name = none) :
  Keyed.find? name table = none
  := by
  rw [Keyed.find?_eq_none_iff, ← h.isTaken_iff, ← isSome_taskNamed?, hname]
  exact nofun

/-! ### The table in the task file -/

/-- What is read from the task file is what was saved. -/
theorem Shows.read?_text (h : s.Shows table used) :
  Snapshot.read? s.snapshot.text = some s.snapshot
  := by
  have hstored : ∀ r ∈ s.snapshot.tasks, r.stored = id r := fun r hr =>
    h.stored_eq ((mem_snapshot_tasks h.toIndexed).mp hr)
  rw [Snapshot.read?_text h.storable.snapshot, List.map_congr_left hstored, List.map_id]

theorem Shows.load_savedDir (h : s.Shows table used) :
  (Manager.savedDir s).load = .ok s.snapshot
  := Manager.load_of_read? rfl h.read?_text

/-- Tasks show the same table when they were read from the task file. -/
theorem Shows.ofSnapshot (h : s.Shows table used) :
  (Tasks.ofSnapshot s.snapshot).Shows table used
  := by
  obtain ⟨t, hread, htasks, hfolders⟩ := h.storable.read?_text
  obtain rfl := Option.some.inj (h.read?_text.symm.trans hread)
  apply h.of_lookups (indexed_ofSnapshot s.snapshot) _ hfolders
  intro id
  rw [htasks]
  cases hr : s.task? id with
  | none => rfl
  | some r => rw [Option.map_some, h.stored_eq hr]

/-- The entries of the table are those of the tasks in the task file. -/
theorem Shows.perm (h : s.Shows table used) :
  (s.snapshot.tasks.map fun r => (r.name, Row.of r)).Perm table
  := by
  have hrecords : s.snapshot.tasks.Nodup := List.Nodup.of_map _ (nodup_snapshot_ids h.toIndexed)
  have hentries : (s.snapshot.tasks.map fun r => (r.name, Row.of r)).Nodup := by
    apply hrecords.map_on
    intro r hr q hq heq
    rw [mem_snapshot_tasks h.toIndexed] at hr hq
    have hid : r.id = q.id := h.name_injective hr hq (congrArg Prod.fst heq)
    rw [hid, hq] at hr
    exact (Option.some.inj hr).symm
  rw [List.perm_ext_iff_of_nodup hentries (List.Nodup.of_map _ h.names_nodup)]
  rintro ⟨name, row⟩
  rw [← Keyed.find?_eq_some_iff h.names_nodup, h.row_iff]
  simp only [List.mem_map, mem_snapshot_tasks h.toIndexed, Prod.mk.injEq]
  constructor
  · rintro ⟨r, hr, rfl, rfl⟩
    exact ⟨r.id, r, hr, rfl, rfl⟩
  · rintro ⟨id, r, hr, rfl, rfl⟩
    obtain rfl := h.id_eq hr
    exact ⟨r, hr, rfl, rfl⟩

end Tasks

end TaskDesk
