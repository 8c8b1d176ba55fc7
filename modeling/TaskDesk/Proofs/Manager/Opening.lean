import TaskDesk.Proofs.Manager.Persistence
import Mathlib.Data.List.Nodup

/-!
# What a manager takes from a task file

A manager that is opened takes the task file as it is.  Of the records with one id it has the last
only, and so of the folders with one name; whatever else the file says is not looked at.  So the
manager has all tasks of the file, and its records and folders fit together, exactly if the file is
`Coherent`, `open?_fitting_iff`.  The task files that a manager of sound tasks wrote are.
-/

namespace TaskDesk

open TaskDesk.Text

/-! ### Coherent snapshots -/

namespace Snapshot

/-- The record that counts for an id: the last one. -/
def task? (t : Snapshot) (id : String) : Option Record :=
  t.tasks.reverse.find? fun r => r.id = id

/-- The folder that counts for a name: the last one. -/
def folder? (t : Snapshot) (n : String) : Option Folder :=
  t.folders.reverse.find? fun f => f.name = n

/-- Whether the folder with a name lists an id. -/
def Lists (t : Snapshot) (n id : String) : Prop :=
  ∃ f, t.folder? n = some f ∧ id ∈ f.tasks

/-- Whether ids and names are distinct and not empty, and each record is in the folder that lists
it. -/
structure Coherent (t : Snapshot) : Prop where
  ids_nodup : (t.tasks.map Record.id).Nodup
  id_ne_empty : ∀ r ∈ t.tasks, r.id ≠ ""
  names_nodup : (t.tasks.map Record.name).Nodup
  name_ne_empty : ∀ r ∈ t.tasks, r.name ≠ ""
  folder_iff : ∀ r ∈ t.tasks, ∀ n, r.folder = some n ↔ t.Lists n r.id

end Snapshot

namespace Tasks

/-- Whether ids and names are distinct and not empty, and each record is in the folder that lists
it; folders may list other ids, too. -/
structure Fitting (s : Tasks) : Prop extends Indexed s where
  id_ne_empty : ∀ {id r}, s.task? id = some r → id ≠ ""
  name_ne_empty : ∀ {id r}, s.task? id = some r → r.name ≠ ""
  name_injective : ∀ {i j r q}, s.task? i = some r → s.task? j = some q → r.name = q.name → i = j
  folder_iff : ∀ {id r n}, s.task? id = some r → (r.folder = some n ↔ s.Lists n id)

/-! ### The tasks of a snapshot -/

variable {t : Snapshot}

theorem task?_ofSnapshot_last (t : Snapshot) (id : String) :
  (ofSnapshot t).task? id = t.task? id
  := Keyed.find?_ofList_values Record.id t.tasks id

theorem folder?_ofSnapshot_last (t : Snapshot) (n : String) :
  (ofSnapshot t).folder? n = t.folder? n
  := Keyed.find?_ofList_values Folder.name t.folders n

theorem lists_ofSnapshot {n id : String} :
  (ofSnapshot t).Lists n id ↔ t.Lists n id
  := by
  simp only [Tasks.Lists, Snapshot.Lists, folder?_ofSnapshot_last]

/-- No task of a snapshot is lost exactly if the ids are distinct. -/
theorem list_ofSnapshot_perm_iff :
  (ofSnapshot t).list.Perm t.tasks ↔ (t.tasks.map Record.id).Nodup
  := by
  have hvalues : (ofSnapshot t).list.Perm (Keyed.values (ofSnapshot t).records) := sortOn_perm _ _
  have hindexed := indexed_ofSnapshot t
  constructor
  · intro hperm
    have hids : ((Keyed.values (ofSnapshot t).records).map Record.id).Nodup := by
      rw [Keyed.map_values hindexed.ids_nodup hindexed.id_eq]
      exact hindexed.ids_nodup
    exact ((hvalues.symm.trans hperm).map Record.id).nodup_iff.mp hids
  · intro hnodup
    have hkeys : (Keyed.keys (t.tasks.map fun r => (r.id, r))).Nodup := by
      simpa [Keyed.keys, Function.comp_def] using hnodup
    have hrecords : Keyed.values (ofSnapshot t).records = t.tasks := by
      simp [ofSnapshot, Keyed.ofList_of_nodup hkeys, Keyed.values, Function.comp_def]
    rwa [hrecords] at hvalues

/-- Where ids are distinct, the tasks of a snapshot fit together exactly if it is coherent. -/
theorem fitting_ofSnapshot_iff (hids : (t.tasks.map Record.id).Nodup) :
  (ofSnapshot t).Fitting ↔ t.Coherent
  := by
  have hnodup : t.tasks.Nodup := hids.of_map _
  have htask {r : Record} (hr : r ∈ t.tasks) : (ofSnapshot t).task? r.id = some r :=
    (task?_ofSnapshot hids).mpr ⟨hr, rfl⟩
  constructor
  · intro h
    refine ⟨hids, fun r hr => h.id_ne_empty (htask hr), ?_,
      fun r hr => h.name_ne_empty (htask hr), ?_⟩
    · rw [List.nodup_map_iff_inj_on hnodup]
      intro r hr q hq hname
      exact List.inj_on_of_nodup_map hids hr hq (h.name_injective (htask hr) (htask hq) hname)
    · intro r hr n
      rw [h.folder_iff (htask hr), lists_ofSnapshot]
  · intro h
    refine ⟨indexed_ofSnapshot t, ?_, ?_, ?_, ?_⟩
    · intro id r hr
      obtain ⟨hmem, rfl⟩ := (task?_ofSnapshot hids).mp hr
      exact h.id_ne_empty r hmem
    · intro id r hr
      exact h.name_ne_empty r ((task?_ofSnapshot hids).mp hr).1
    · intro i j r q hr hq hname
      obtain ⟨hrmem, rfl⟩ := (task?_ofSnapshot hids).mp hr
      obtain ⟨hqmem, rfl⟩ := (task?_ofSnapshot hids).mp hq
      rw [List.inj_on_of_nodup_map h.names_nodup hrmem hqmem hname]
    · intro id r n hr
      obtain ⟨hmem, rfl⟩ := (task?_ofSnapshot hids).mp hr
      rw [h.folder_iff r hmem, lists_ofSnapshot]

/-! ### Written snapshots -/

/-- A record whose id no other record has is read back under it. -/
theorem exists_task?_of_readBack {s : Tasks} (ht : s.snapshot.ReadBack t) {r : Record}
    (hr : r ∈ s.list) (hown : ∀ q ∈ s.list, q.id = r.id → q = r) :
  ∃ r', (ofSnapshot t).task? r.id = some r' ∧ r' = { r.stored with
    properties := r'.properties, createdAt := r'.createdAt, updatedAt := r'.updatedAt }
  := by
  have hid : r.id ∈ t.tasks.map Record.id := by
    rw [ht.map_tasks fun _ _ _ _ => rfl]
    exact List.mem_map_of_mem (s.list_perm_snapshot.mem_iff.mp hr)
  -- The record that is found under the id was written for one with the id, which is `r`.
  obtain ⟨r', hmem, hr', hid'⟩ := exists_task?_ofSnapshot hid
  obtain ⟨q, hq, heq⟩ := ht.exists_of_mem hmem
  have hqid : q.id = r.id := by
    rw [← hid', heq]
    rfl
  obtain rfl := hown q (s.list_perm_snapshot.mem_iff.mpr hq) hqid
  exact ⟨r', hr', heq⟩

/-- Under each name there is what is read back of the folder. -/
theorem folder?_of_readBack {s : Tasks} (h : s.Indexed) (ht : s.snapshot.ReadBack t) (n : String) :
  t.folder? n = (s.folder? n).map fun f => { f with tasks := nameSet f.tasks }
  := by
  have hnames : (t.folders.map Folder.name).Nodup := by
    rw [ht.folders, List.map_map]
    exact nodup_snapshot_names h
  apply Option.ext
  intro f
  rw [← folder?_ofSnapshot_last, folder?_ofSnapshot hnames, ht.folders]
  simp only [List.mem_map, Option.map_eq_some_iff]
  constructor
  · rintro ⟨⟨g, hg, rfl⟩, rfl⟩
    exact ⟨g, (mem_snapshot_folders h).mp hg, rfl⟩
  · rintro ⟨g, hg, rfl⟩
    obtain rfl := h.folder_name_eq hg
    exact ⟨⟨g, (mem_snapshot_folders h).mpr hg, rfl⟩, rfl⟩

theorem lists_of_readBack {s : Tasks} (h : s.Indexed) (ht : s.snapshot.ReadBack t) {n id : String} :
  t.Lists n id ↔ s.Lists n id
  := by
  simp only [Snapshot.Lists, Tasks.Lists, folder?_of_readBack h ht, Option.map_eq_some_iff]
  constructor
  · rintro ⟨_, ⟨f, hf, rfl⟩, hid⟩
    exact ⟨f, hf, mem_nameSet.mp hid⟩
  · rintro ⟨f, hf, hid⟩
    exact ⟨_, ⟨f, hf, rfl⟩, mem_nameSet.mpr hid⟩

/-- What is read back of the snapshot of sound tasks is coherent. -/
theorem Sound.coherent_of_readBack {s : Tasks} (h : s.Sound) (ht : s.snapshot.ReadBack t) :
  t.Coherent
  := by
  have hids : (t.tasks.map Record.id).Nodup := by
    rw [ht.map_tasks fun _ _ _ _ => rfl]
    exact nodup_snapshot_ids h.toIndexed
  have hread {q : Record} (hq : q ∈ t.tasks) :
      ∃ r, s.task? q.id = some r ∧ q.name = r.name ∧ q.folder = r.folder := by
    obtain ⟨r, hr, heq⟩ := ht.exists_of_mem hq
    have htask := (mem_snapshot_tasks h.toIndexed).mp hr
    rw [heq]
    exact ⟨r, htask, rfl, rfl⟩
  refine ⟨hids, ?_, ?_, ?_, ?_⟩
  · intro q hq
    obtain ⟨r, hr, -, -⟩ := hread hq
    exact h.id_ne_empty hr
  · rw [List.nodup_map_iff_inj_on (hids.of_map _)]
    intro q hq q' hq' hname
    obtain ⟨r, hr, hrname, -⟩ := hread hq
    obtain ⟨r', hr', hrname', -⟩ := hread hq'
    rw [hrname, hrname'] at hname
    exact List.inj_on_of_nodup_map hids hq hq' (h.name_injective hr hr' hname)
  · intro q hq
    obtain ⟨r, hr, hname, -⟩ := hread hq
    rw [hname]
    exact h.name_ne_empty hr
  · intro q hq n
    obtain ⟨r, hr, -, hfolder⟩ := hread hq
    rw [hfolder, h.folder_iff hr, lists_of_readBack h.toIndexed ht]

end Tasks

namespace Manager

/-- A manager that is opened has under each id and each name the last record and the last folder of
the task file.  It has all tasks of the file, and they fit together, exactly if the file is
coherent, and a task file that was written for sound tasks is. -/
theorem open?_fitting_iff {project : String} {dir : TaskDir} {m : Manager}
    (h : open? project dir = .ok m) :
  ∃ t, dir.load = .ok t ∧ m.tasks.Indexed
    ∧ (∀ r, r ∈ m.tasks.list ↔ t.task? r.id = some r)
    ∧ (∀ n, m.tasks.folder? n = t.folder? n)
    ∧ (m.tasks.list.Perm t.tasks ∧ m.tasks.Fitting ↔ t.Coherent)
    ∧ ∀ s : Tasks, s.Sound → dir.file = some (.text s.snapshot.text) → t.Coherent
  := by
  obtain ⟨t, hload, rfl⟩ := open?_eq_ok.mp h
  have hindexed := Tasks.indexed_ofSnapshot t
  refine ⟨t, hload, hindexed, ?_, Tasks.folder?_ofSnapshot_last t, ?_, ?_⟩
  · intro r
    rw [hindexed.mem_list, Tasks.task?_ofSnapshot_last]
  · rw [Tasks.list_ofSnapshot_perm_iff]
    constructor
    · rintro ⟨hids, hfitting⟩
      exact (Tasks.fitting_ofSnapshot_iff hids).mp hfitting
    · intro hcoherent
      exact ⟨hcoherent.ids_nodup, (Tasks.fitting_ofSnapshot_iff hcoherent.ids_nodup).mpr hcoherent⟩
  · intro s hs hfile
    exact hs.coherent_of_readBack (Snapshot.readBack_of_read?_text (read?_of_load hfile hload))

/-- A file in which two tasks share an id: one of them is lost. -/
theorem open?_fitting_iff_instance :
  let text := "\x7b\"tasks\":[[\"t1\",\"A\",\"\",\"sh\",null,0,\x7b\x7d,
    \"2024-03-01T12:00:00Z\",\"2024-03-01T12:00:00Z\"],[\"t1\",\"B\",\"\",\"sh\",null,0,\x7b\x7d,
    \"2024-03-01T12:00:00Z\",\"2024-03-01T12:00:00Z\"]]\x7d"
  let dir : TaskDir := ⟨true, some (.text text), none⟩
  ∃ m t, open? "General" dir = .ok m ∧ dir.load = .ok t
    ∧ t.tasks.map Record.name = ["A", "B"] ∧ m.tasks.list.map Record.name = ["B"]
    ∧ ¬(m.tasks.list.Perm t.tasks ∧ m.tasks.Fitting)
  := by
  intro text dir
  have hread : (Snapshot.read? text).map (fun t => (t.tasks.map Record.id,
      t.tasks.map Record.name, (Tasks.ofSnapshot t).list.map Record.name))
      = some (["t1", "t1"], ["A", "B"], ["B"]) := by
    decide +kernel
  obtain ⟨t, ht, hlists⟩ := Option.map_eq_some_iff.mp hread
  simp only [Prod.mk.injEq] at hlists
  obtain ⟨hids, hnames, hlist⟩ := hlists
  have hload : dir.load = .ok t := load_of_read? rfl ht
  have hopen : open? "General" dir = .ok ⟨"General", Tasks.ofSnapshot t, true⟩ :=
    open?_eq_ok.mpr ⟨t, hload, rfl⟩
  refine ⟨_, t, hopen, hload, hnames, hlist, ?_⟩
  obtain ⟨t', hload', -, -, -, hiff, -⟩ := open?_fitting_iff hopen
  obtain rfl := Except.ok.inj (hload.symm.trans hload')
  rw [hiff]
  intro hcoherent
  have hnodup := hcoherent.ids_nodup
  rw [hids] at hnodup
  simp at hnodup

end Manager

end TaskDesk
