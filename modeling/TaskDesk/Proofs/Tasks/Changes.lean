import TaskDesk.Manager.Tasks

/-!
# What the changes of tasks do

Each change is described once, by an equivalence that says when it succeeds and what the
tasks are afterwards: `createFolder_eq_ok`, `createTask_eq_ok`, `updateTask_eq_ok` and
`moveTask_eq_ok`.  Tasks are seen through the lookups `task?` and `folder?`; `store` puts a
record under an id, and `changeFolder` changes one folder and no record.
-/

namespace TaskDesk

namespace Tasks

/-- The tasks with a record under an id. -/
def store (s : Tasks) (id : String) (r : Record) : Tasks :=
  { s with records := Keyed.put id r s.records }

@[simp]
theorem task?_store (s : Tasks) (id i : String) (r : Record) :
  (s.store id r).task? i = if i = id then some r else s.task? i
  := Keyed.find?_put i id r s.records

theorem task?_store_eq_some {s : Tasks} {id i : String} {r q : Record} :
  (s.store id r).task? i = some q ↔ i = id ∧ q = r ∨ i ≠ id ∧ s.task? i = some q
  := Keyed.find?_put_eq_some

@[simp]
theorem folder?_store (s : Tasks) (id n : String) (r : Record) :
  (s.store id r).folder? n = s.folder? n
  := rfl

@[simp]
theorem records_changeFolder (s : Tasks) (name : Option String) (f : Folder → Folder) :
  (s.changeFolder name f).records = s.records
  := by
  unfold changeFolder
  split
  · rfl
  · split <;> rfl

@[simp]
theorem task?_changeFolder (s : Tasks) (name : Option String) (f : Folder → Folder)
    (id : String) :
  (s.changeFolder name f).task? id = s.task? id
  := by
  rw [task?, records_changeFolder, task?]

@[simp]
theorem folder?_changeFolder (s : Tasks) (name : Option String) (f : Folder → Folder)
    (n : String) :
  (s.changeFolder name f).folder? n = if name = some n then (s.folder? n).map f else s.folder? n
  := by
  cases name with
  | none => simp [changeFolder]
  | some m =>
    cases hf : s.folder? m with
    | none =>
      by_cases h : m = n
      · subst h
        simp [changeFolder, hf]
      · simp [changeFolder, hf, h]
    | some folder =>
      have hput : (s.changeFolder (some m) f).folder? n
          = if n = m then some (f folder) else s.folder? n
        := by
        rw [changeFolder, hf]
        apply Keyed.find?_put
      rw [hput]
      by_cases h : m = n
      · subst h
        simp [hf]
      · have h' : n ≠ m := Ne.symm h
        simp [h, h']

/-! ### Names and destinations -/

/-- Where ids are distinct, a name is taken exactly if a record that can be looked up has it,
the record of the given id apart. -/
theorem isTaken_iff {s : Tasks} (h : (Keyed.keys s.records).Nodup) {name : String}
    {except? : Option String} :
  s.isTaken name except? = true
    ↔ ∃ id r, s.task? id = some r ∧ r.name = name ∧ some r.id ≠ except?
  := by
  simp only [isTaken, List.any_eq_true, Keyed.mem_values_iff h, Bool.and_eq_true,
    decide_eq_true_eq, task?]
  constructor
  · rintro ⟨r, ⟨id, hr⟩, hn, hi⟩
    exact ⟨id, r, hr, hn, hi⟩
  · rintro ⟨id, r, hr, hn, hi⟩
    exact ⟨r, ⟨id, hr⟩, hn, hi⟩

/-- There is a task with a name exactly if the name is taken. -/
theorem isSome_taskNamed? (s : Tasks) (name : String) :
  (s.taskNamed? name).isSome = s.isTaken name none
  := by
  rw [Bool.eq_iff_iff, taskNamed?, List.find?_isSome, isTaken]
  simp

/-- The destination is a folder that is there and has a name. -/
theorem destination_eq_some {s : Tasks} {name : Option String} {n : String} :
  s.destination name = some n ↔ name = some n ∧ n ≠ "" ∧ ∃ f, s.folder? n = some f
  := by
  simp only [destination, Option.filter_eq_some_iff, Keyed.has, Bool.and_eq_true,
    decide_eq_true_eq, Option.isSome_iff_exists, folder?]

/-! ### The four changes -/

theorem createFolder_eq_ok {s : Tasks} {name : String} {c : Change Unit} :
  s.createFolder name = .ok c
    ↔ s.folder? name = none
      ∧ c = ⟨{ s with folders := Keyed.put name (Folder.new name) s.folders }, (),
          [.created name]⟩
  := by
  rw [createFolder, Keyed.has]
  rw [← folder?]
  cases h : s.folder? name with
  | none =>
    simp only [Option.isSome_none, Bool.false_eq_true, if_false, Except.ok.injEq, true_and]
    exact eq_comm
  | some f => simp

/-- The record of a new task. -/
def newRecord (now : Timestamp) (id : String) (t : NewTask) (folder : Option String) : Record :=
  { Record.new now t.name t.taskType with
    id, folder
    description := t.description
    limit := t.limit
    properties := t.properties }

/-- The tasks with a new record, in its folder if it has one. -/
def enroll (s : Tasks) (r : Record) : Tasks :=
  (s.changeFolder r.folder fun f => f.add r.id).store r.id r

/-- What taking a new record in comes to. -/
def enrollment (s : Tasks) (r : Record) : Change Record :=
  ⟨s.enroll r, r, if r.folder.isSome then [.moved r.id none r.folder] else []⟩

theorem createTask_eq_ok {s : Tasks} {project : String} {now : Timestamp} {id : String}
    {t : NewTask} {c : Change Record} :
  s.createTask project now id t = .ok c
    ↔ t.name ≠ "" ∧ s.isTaken t.name none = false
      ∧ c = s.enrollment (newRecord now id t (s.destination t.folder))
  := by
  by_cases hn : t.name = ""
  · simp [createTask, hn]
  by_cases ht : s.isTaken t.name none = true
  · simp [createTask, hn, ht]
  rw [Bool.not_eq_true] at ht
  rw [createTask]
  rw [if_neg hn, ht, if_neg Bool.false_ne_true]
  constructor
  · rintro ⟨⟩
    exact ⟨hn, rfl, rfl⟩
  · rintro ⟨-, -, rfl⟩
    rfl

/-- The record that a change of a record leaves: it stays in the folder where it was. -/
def revised (now : Timestamp) (f : Record → Record) (current : Record) : Record :=
  if (f current).folder = current.folder then f current
  else (f current).setFolder now current.folder

theorem id_revised (now : Timestamp) {f : Record → Record} (h : ∀ r, (f r).id = r.id)
    (r : Record) :
  (revised now f r).id = r.id
  := by
  rw [revised]
  split
  · apply h
  · apply h

theorem folder_revised (now : Timestamp) (f : Record → Record) (r : Record) :
  (revised now f r).folder = r.folder
  := by
  rw [revised]
  split
  · assumption
  · rfl

theorem name_revised (now : Timestamp) (f : Record → Record) (r : Record) :
  (revised now f r).name = (f r).name
  := by
  rw [revised]
  split <;> rfl

theorem updateTask_eq_ok {s : Tasks} {project : String} {now : Timestamp} {id : String}
    {f : Record → Record} {c : Change Record} :
  s.updateTask project now id f = .ok c
    ↔ ∃ current, s.task? id = some current
      ∧ c.value = revised now f current
      ∧ c.value.name ≠ ""
      ∧ (c.value.name = current.name ∨ s.isTaken c.value.name (some id) = false)
      ∧ c.tasks = s.store id c.value ∧ c.events = []
  := by
  obtain ⟨tasks, value, events⟩ := c
  cases hc : s.task? id with
  | none => simp [updateTask, hc]
  | some current =>
    simp only [updateTask, hc, Option.some.injEq, exists_eq_left', ← revised.eq_1]
    split
    · next hn =>
      simp only [reduceCtorEq, false_iff]
      rintro ⟨rfl, h, -⟩
      exact h hn
    · next hn =>
      split
      · next ht =>
        simp only [reduceCtorEq, false_iff]
        rintro ⟨rfl, -, h, -⟩
        obtain h | h := h
        · exact ht.1 h
        · simp [ht.2] at h
      · next ht =>
        simp only [Except.ok.injEq, Change.mk.injEq]
        constructor
        · rintro ⟨rfl, rfl, rfl⟩
          refine ⟨rfl, hn, ?_, rfl, rfl⟩
          by_cases he : (revised now f current).name = current.name
          · exact .inl he
          · exact .inr (by simpa [he] using ht)
        · rintro ⟨rfl, -, -, rfl, rfl⟩
          exact ⟨rfl, rfl, rfl⟩

/-- The tasks with the record of an id in another folder. -/
def relocate (s : Tasks) (now : Timestamp) (id : String) (r : Record) (target : Option String) :
    Tasks :=
  ((s.changeFolder r.folder fun f => f.remove id).changeFolder target fun f => f.add id).store id
    (r.setFolder now target)

theorem moveTask_eq_ok {s : Tasks} {now : Timestamp} {id : String} {name : Option String}
    {c : Change Bool} :
  s.moveTask now id name = .ok c
    ↔ ∃ r, s.task? id = some r
      ∧ ((s.destination name = r.folder ∧ c = ⟨s, false, []⟩)
        ∨ (s.destination name ≠ r.folder
          ∧ c = ⟨s.relocate now id r (s.destination name), true,
              [.moved id r.folder (s.destination name)]⟩))
  := by
  cases hr : s.task? id with
  | none => simp [moveTask, hr]
  | some r =>
    simp only [moveTask, hr, Option.some.injEq, exists_eq_left']
    split
    · next h => simp [h, eq_comm]
    · next h =>
      simp only [h, false_and, not_false_eq_true, true_and, false_or, Except.ok.injEq, ne_eq]
      exact eq_comm

theorem exists_moveTask {s : Tasks} {now : Timestamp} {id : String} {name : Option String}
    {r : Record} (h : s.task? id = some r) :
  ∃ c, s.moveTask now id name = .ok c
  := by
  by_cases hsame : s.destination name = r.folder
  · exact ⟨_, moveTask_eq_ok.mpr ⟨r, h, .inl ⟨hsame, rfl⟩⟩⟩
  · exact ⟨_, moveTask_eq_ok.mpr ⟨r, h, .inr ⟨hsame, rfl⟩⟩⟩

/-! ### The records after a change -/

theorem records_createTask {s : Tasks} {project : String} {now : Timestamp} {id : String}
    {t : NewTask} {c : Change Record} (h : s.createTask project now id t = .ok c) :
  c.tasks.records = Keyed.put id c.value s.records ∧ c.value.id = id
  := by
  obtain ⟨-, -, rfl⟩ := createTask_eq_ok.mp h
  simp [enrollment, enroll, store, newRecord]

theorem records_updateTask {s : Tasks} {project : String} {now : Timestamp} {id : String}
    {f : Record → Record} {c : Change Record} (h : s.updateTask project now id f = .ok c) :
  c.tasks.records = Keyed.put id c.value s.records ∧ id ∈ Keyed.keys s.records
  := by
  obtain ⟨current, hcurrent, -, -, -, htasks, -⟩ := updateTask_eq_ok.mp h
  rw [htasks]
  exact ⟨rfl, Keyed.mem_keys_iff.mpr ⟨current, hcurrent⟩⟩

theorem records_moveTask {s : Tasks} {now : Timestamp} {id : String} {name : Option String}
    {c : Change Bool} (h : s.moveTask now id name = .ok c) :
  ∃ r, c.tasks.records = Keyed.put id r s.records ∧ id ∈ Keyed.keys s.records
  := by
  obtain ⟨r, hr, ⟨-, rfl⟩ | ⟨-, rfl⟩⟩ := moveTask_eq_ok.mp h
  · exact ⟨r, (Keyed.put_of_find? hr).symm, Keyed.mem_keys_iff.mpr ⟨r, hr⟩⟩
  · refine ⟨r.setFolder now (s.destination name), ?_, Keyed.mem_keys_iff.mpr ⟨r, hr⟩⟩
    simp [relocate, store]

/-- A task that is moved is still there. -/
theorem exists_task?_moveTask {s : Tasks} {now : Timestamp} {id : String} {name : Option String}
    {c : Change Bool} (h : s.moveTask now id name = .ok c) :
  ∃ r, c.tasks.task? id = some r
  := by
  obtain ⟨r, hrecords, -⟩ := records_moveTask h
  refine ⟨r, ?_⟩
  rw [task?, hrecords, Keyed.find?_put, if_pos rfl]

end Tasks

end TaskDesk
