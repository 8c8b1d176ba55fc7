import TaskDesk.Proofs.Store.Snapshot
import TaskDesk.Proofs.Tasks.Integrity

/-!
# Tasks written and read back

Tasks can be stored if each record is under its own id, each folder under its own name, and each
of them can be stored.  The tasks of their snapshot as it is read back are the same: under each
id the record as stored, under each name the folder.
-/

namespace TaskDesk

open TaskDesk.Text

namespace Tasks

/-- Tasks that can be written and read back. -/
structure Storable (s : Tasks) : Prop extends Indexed s where
  record : ∀ {id r}, s.task? id = some r → r.Storable Record.propertyLevels
  folder : ∀ {n f}, s.folder? n = some f → Increasing f.tasks

/-- Whether the properties of all records are without doubles. -/
def IsExact (s : Tasks) : Prop :=
  ∀ id r, s.task? id = some r → r.properties.isExact = true

theorem isExact_of_records {s : Tasks} (h : ∀ e ∈ s.records, e.2.properties.isExact = true) :
  s.IsExact
  := fun _ _ hr => h _ (Keyed.mem_of_find? hr)

/-! ### Snapshots -/

/-- The records by name are those of the snapshot in another order. -/
theorem list_perm_snapshot (s : Tasks) :
  s.list.Perm s.snapshot.tasks
  := (sortOn_perm _ _).trans (sortOn_perm _ _).symm

theorem mem_snapshot_tasks {s : Tasks} (h : s.Indexed) {r : Record} :
  r ∈ s.snapshot.tasks ↔ s.task? r.id = some r
  := by
  rw [snapshot, (sortOn_perm _ _).mem_iff, Keyed.mem_values_iff h.ids_nodup]
  constructor
  · rintro ⟨id, hr⟩
    rwa [h.id_eq hr]
  · intro hr
    exact ⟨r.id, hr⟩

theorem Indexed.mem_list {s : Tasks} (h : s.Indexed) {r : Record} :
  r ∈ s.list ↔ s.task? r.id = some r
  := by
  rw [s.list_perm_snapshot.mem_iff, mem_snapshot_tasks h]

theorem mem_snapshot_folders {s : Tasks} (h : s.Indexed) {f : Folder} :
  f ∈ s.snapshot.folders ↔ s.folder? f.name = some f
  := by
  have hperm : (folderList s).Perm (Keyed.values s.folders) :=
    (sortOn_perm Prod.fst s.folders).map Prod.snd
  rw [snapshot, hperm.mem_iff, Keyed.mem_values_iff h.folders_nodup]
  constructor
  · rintro ⟨n, hf⟩
    rwa [h.folder_name_eq hf]
  · intro hf
    exact ⟨f.name, hf⟩

/-- The ids of the records of a snapshot are distinct. -/
theorem nodup_snapshot_ids {s : Tasks} (h : s.Indexed) :
  (s.snapshot.tasks.map Record.id).Nodup
  := by
  have hperm : (s.snapshot.tasks.map Record.id).Perm ((Keyed.values s.records).map Record.id) :=
    (sortOn_perm _ _).map _
  rw [hperm.nodup_iff, Keyed.map_values h.ids_nodup h.id_eq]
  exact h.ids_nodup

theorem nodup_snapshot_names {s : Tasks} (h : s.Indexed) :
  (s.snapshot.folders.map Folder.name).Nodup
  := by
  have hperm : (s.snapshot.folders.map Folder.name).Perm
      ((Keyed.values s.folders).map Folder.name) :=
    ((sortOn_perm Prod.fst s.folders).map Prod.snd).map _
  rw [hperm.nodup_iff, Keyed.map_values h.folders_nodup h.folder_name_eq]
  exact h.folders_nodup

theorem Storable.snapshot {s : Tasks} (h : s.Storable) :
  s.snapshot.Storable
  where
  tasks _ hr := h.record ((mem_snapshot_tasks h.toIndexed).mp hr)
  folders _ hf := h.folder ((mem_snapshot_folders h.toIndexed).mp hf)

/-- The tasks of records with distinct ids have each record under its id. -/
theorem task?_ofSnapshot {s : Snapshot} (h : (s.tasks.map Record.id).Nodup) {id : String}
    {r : Record} :
  (ofSnapshot s).task? id = some r ↔ r ∈ s.tasks ∧ r.id = id
  := Keyed.find?_ofList_iff h

/-- The tasks of a snapshot have a record under each of its ids. -/
theorem exists_task?_ofSnapshot {s : Snapshot} {id : String} (h : id ∈ s.tasks.map Record.id) :
  ∃ r ∈ s.tasks, (ofSnapshot s).task? id = some r ∧ r.id = id
  := by
  obtain ⟨q, hq, hqid⟩ := List.mem_map.mp h
  have hsome : (s.tasks.reverse.find? fun r => r.id = id).isSome = true := by
    rw [List.find?_isSome]
    exact ⟨q, List.mem_reverse.mpr hq, by simpa using hqid⟩
  obtain ⟨r, hr⟩ := Option.isSome_iff_exists.mp hsome
  rw [← Keyed.find?_ofList_values] at hr
  obtain ⟨hmem, hid⟩ := Keyed.mem_of_find?_ofList hr
  exact ⟨r, hmem, hr, hid⟩

theorem folder?_ofSnapshot {s : Snapshot} (h : (s.folders.map Folder.name).Nodup) {n : String}
    {f : Folder} :
  (ofSnapshot s).folder? n = some f ↔ f ∈ s.folders ∧ f.name = n
  := Keyed.find?_ofList_iff h

/-- Whatever a snapshot holds, its tasks have records under their own ids and folders under their
own names. -/
theorem indexed_ofSnapshot (s : Snapshot) :
  (ofSnapshot s).Indexed
  where
  ids_nodup := Keyed.nodup_keys_ofList _
  folders_nodup := Keyed.nodup_keys_ofList _
  id_eq hr := (Keyed.mem_of_find?_ofList hr).2
  folder_name_eq hf := (Keyed.mem_of_find?_ofList hf).2

/-- Reading the text of a snapshot gives the same tasks back, each record as stored. -/
theorem Storable.read?_text {s : Tasks} (h : s.Storable) :
  ∃ t, Snapshot.read? s.snapshot.text = some t
    ∧ (∀ id, (ofSnapshot t).task? id = (s.task? id).map Record.stored)
    ∧ (∀ n, (ofSnapshot t).folder? n = s.folder? n)
  := by
  refine ⟨_, Snapshot.read?_text h.snapshot, ?_, ?_⟩
  · intro id
    apply Option.ext
    intro r
    rw [task?_ofSnapshot]
    · simp only [List.mem_map, Option.map_eq_some_iff]
      constructor
      · rintro ⟨⟨q, hq, rfl⟩, rfl⟩
        exact ⟨q, (mem_snapshot_tasks h.toIndexed).mp hq, rfl⟩
      · rintro ⟨q, hq, rfl⟩
        obtain rfl := h.id_eq hq
        exact ⟨⟨q, (mem_snapshot_tasks h.toIndexed).mpr hq, rfl⟩, rfl⟩
    · rw [List.map_map]
      exact nodup_snapshot_ids h.toIndexed
  · intro n
    apply Option.ext
    intro f
    rw [folder?_ofSnapshot, mem_snapshot_folders h.toIndexed]
    · constructor
      · rintro ⟨hf, rfl⟩
        exact hf
      · intro hf
        obtain rfl := h.folder_name_eq hf
        exact ⟨hf, rfl⟩
    · exact nodup_snapshot_names h.toIndexed

/-- Tasks that are read can be stored, if their properties are without doubles. -/
theorem storable_ofSnapshot {text : String} {t : Snapshot} (h : Snapshot.read? text = some t)
    (hexact : (ofSnapshot t).IsExact) :
  (ofSnapshot t).Storable
  where
  toIndexed := indexed_ofSnapshot t
  record {id r} hr :=
    Snapshot.storable_of_read? h (Keyed.mem_of_find?_ofList hr).1 (hexact id r hr)
  folder hf := Snapshot.increasing_of_read? h (Keyed.mem_of_find?_ofList hf).1

theorem storable_empty :
  empty.Storable
  where
  toIndexed := sound_empty.toIndexed
  record hr := by cases hr
  folder hf := by cases hf

/-! ### Changes -/

theorem Storable.store {s : Tasks} (h : s.Storable) {r : Record}
    (hr : r.Storable Record.propertyLevels) :
  (s.store r.id r).Storable
  where
  toIndexed := h.toIndexed.store r
  record {i q} hq := by
    obtain ⟨-, rfl⟩ | ⟨-, hq⟩ := task?_store_eq_some.mp hq
    · exact hr
    · exact h.record hq
  folder hf := h.folder hf

theorem Storable.changeFolder {s : Tasks} (h : s.Storable) (name : Option String)
    {f : Folder → Folder} (hname : ∀ g, (f g).name = g.name)
    (hf : ∀ g, Increasing g.tasks → Increasing (f g).tasks) :
  (s.changeFolder name f).Storable
  where
  toIndexed := h.toIndexed.changeFolder name hname
  record {i r} hr := by
    rw [task?_changeFolder] at hr
    exact h.record hr
  folder {n g} hg := by
    rw [folder?_changeFolder] at hg
    split at hg
    · obtain ⟨g', hg', rfl⟩ := Option.map_eq_some_iff.mp hg
      exact hf g' (h.folder hg')
    · exact h.folder hg

theorem Storable.createFolder {s : Tasks} (h : s.Storable) (name : String) :
  Storable { s with folders := Keyed.put name (Folder.new name) s.folders }
  where
  toIndexed := h.toIndexed.createFolder name
  record := h.record
  folder {n f} hf := by
    rw [folder?_createFolder] at hf
    split at hf
    · obtain rfl := Option.some.inj hf
      exact List.Pairwise.nil
    · exact h.folder hf

theorem Storable.enroll {s : Tasks} (h : s.Storable) {r : Record}
    (hr : r.Storable Record.propertyLevels) :
  (s.enroll r).Storable
  := by
  have hjoined := h.changeFolder r.folder (f := fun f => f.add r.id) (fun _ => rfl)
    fun _ => increasing_insertName
  exact hjoined.store hr

theorem Storable.relocate {s : Tasks} (h : s.Storable) {now : Timestamp} (hnow : now.valid = true)
    {id : String} {r : Record} (hr : s.task? id = some r) (target : Option String) :
  (s.relocate now id r target).Storable
  := by
  obtain rfl := h.id_eq hr
  have hleft := h.changeFolder r.folder (f := fun f => f.remove r.id) (fun _ => rfl)
    fun _ => increasing_eraseName r.id
  have hjoined := hleft.changeFolder target (f := fun f => f.add r.id) (fun _ => rfl)
    fun _ => increasing_insertName
  exact hjoined.store ((h.record hr).setFolder hnow target)

end Tasks

end TaskDesk
