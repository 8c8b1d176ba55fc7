import TaskDesk.Proofs.Tasks.Persistence
import TaskDesk.Proofs.Text.Bytes

/-!
# The views of tasks

The table of the tasks is held in no order that could be relied on: it may be `Rearranged` at any
time.  Its views are a list by name, a snapshot by id, and what is found under an id or a name, of
which the last one takes the first hit in the table.  They are `Coherent` if all of them tell of the
same tasks.  Tasks that fit together are so, in whatever order they come, `Sound.coherent`, and
coherent views of the same tasks are the same, `Coherent.sameViews`.
-/

namespace TaskDesk

open TaskDesk.Text

namespace Tasks

/-- Whether tasks are the same, in whatever order they are held. -/
structure Rearranged (s t : Tasks) : Prop where
  records : s.records.Perm t.records
  folders : s.folders.Perm t.folders

/-- Whether the views tell of the same tasks: the list has each stored one once, by name, the
snapshot has those of the list, by id, and what is found under a name or an id is what the list has.
So do the views of the folders. -/
structure Coherent (s : Tasks) : Prop where
  stored : s.list.Perm (Keyed.values s.records)
  byName : s.list.Pairwise fun r q => bytes r.name < bytes q.name
  snapshot : ∀ r, r ∈ s.snapshot.tasks ↔ r ∈ s.list
  byId : s.snapshot.tasks.Pairwise fun r q => bytes r.id < bytes q.id
  folders : s.snapshot.folders.Pairwise fun f g => bytes f.name < bytes g.name
  named : ∀ n r, s.taskNamed? n = some r ↔ r ∈ s.list ∧ r.name = n
  task : ∀ id r, s.task? id = some r ↔ r ∈ s.list ∧ r.id = id
  folder : ∀ n f, s.folder? n = some f ↔ f ∈ s.folderList ∧ f.name = n

/-- Whether tasks look the same. -/
structure SameViews (s t : Tasks) : Prop where
  list : s.list = t.list
  folderList : s.folderList = t.folderList
  snapshot : s.snapshot = t.snapshot
  named : ∀ n, s.taskNamed? n = t.taskNamed? n
  task : ∀ id, s.task? id = t.task? id
  folder : ∀ n, s.folder? n = t.folder? n

variable {s t : Tasks}

/-! ### Other orders -/

theorem Rearranged.task? (h : s.Rearranged t) (hs : s.Indexed) (id : String) :
  t.task? id = s.task? id
  := (Keyed.find?_of_perm h.records hs.ids_nodup id).symm

theorem Rearranged.folder? (h : s.Rearranged t) (hs : s.Indexed) (n : String) :
  t.folder? n = s.folder? n
  := (Keyed.find?_of_perm h.folders hs.folders_nodup n).symm

theorem Rearranged.lists (h : s.Rearranged t) (hs : s.Indexed) (n id : String) :
  t.Lists n id ↔ s.Lists n id
  := by
  rw [Lists, Lists, h.folder? hs]

theorem Rearranged.mem_list (h : s.Rearranged t) {r : Record} :
  r ∈ t.list ↔ r ∈ s.list
  := by
  rw [list, list, (sortOn_perm Record.name _).mem_iff, (sortOn_perm Record.name _).mem_iff]
  exact (h.records.map Prod.snd).mem_iff.symm

theorem Rearranged.mem_folderList (h : s.Rearranged t) {f : Folder} :
  f ∈ t.folderList ↔ f ∈ s.folderList
  := by
  rw [folderList, folderList, ((sortOn_perm Prod.fst _).map Prod.snd).mem_iff,
    ((sortOn_perm Prod.fst _).map Prod.snd).mem_iff]
  exact (h.folders.map Prod.snd).mem_iff.symm

/-- Tasks fit together in whatever order they are held. -/
theorem Sound.rearranged (hs : s.Sound) (h : s.Rearranged t) :
  t.Sound
  := by
  have htask := h.task? hs.toIndexed
  have hfolder := h.folder? hs.toIndexed
  have hlists := h.lists hs.toIndexed
  constructor
  · constructor
    · exact (h.records.map Prod.fst).nodup_iff.mp hs.ids_nodup
    · exact (h.folders.map Prod.fst).nodup_iff.mp hs.folders_nodup
    · intro id r hr
      exact hs.id_eq (htask id ▸ hr)
    · intro n f hf
      exact hs.folder_name_eq (hfolder n ▸ hf)
  · intro id r hr
    exact hs.id_ne_empty (htask id ▸ hr)
  · intro id r hr
    exact hs.name_ne_empty (htask id ▸ hr)
  · intro i j r q hr hq
    exact hs.name_injective (htask i ▸ hr) (htask j ▸ hq)
  · intro id r n hr
    rw [hlists]
    exact hs.folder_iff (htask id ▸ hr)
  · intro n id hn
    rw [htask]
    exact hs.listed ((hlists n id).mp hn)

/-! ### Coherent views -/

theorem mem_folderList (hs : s.Indexed) {f : Folder} :
  f ∈ s.folderList ↔ s.folder? f.name = some f
  := mem_snapshot_folders hs

/-- The names of tasks that fit together are distinct. -/
theorem Sound.nodup_names (hs : s.Sound) :
  ((Keyed.values s.records).map Record.name).Nodup
  := by
  rw [Keyed.values, List.map_map]
  have hkeys : s.records.Pairwise fun e e' => e.1 ≠ e'.1 := List.pairwise_map.mp hs.ids_nodup
  apply List.pairwise_map.mpr
  apply hkeys.imp_of_mem
  intro e e' he he' hne hname
  apply hne
  apply hs.name_injective _ _ hname
  · exact (Keyed.find?_eq_some_iff hs.ids_nodup).mpr he
  · exact (Keyed.find?_eq_some_iff hs.ids_nodup).mpr he'

/-- The folders come by name, since each of them is held under its own. -/
theorem Indexed.pairwise_folderList (hs : s.Indexed) :
  s.folderList.Pairwise fun f g => bytes f.name < bytes g.name
  := by
  have hname {e : String × Folder} (he : e ∈ sortOn Prod.fst s.folders) : e.2.name = e.1 := by
    rw [(sortOn_perm Prod.fst s.folders).mem_iff] at he
    exact hs.folder_name_eq ((Keyed.find?_eq_some_iff hs.folders_nodup).mpr he)
  apply List.pairwise_map.mpr
  apply (pairwise_lt_sortOn hs.folders_nodup).imp_of_mem
  intro e e' he he' hlt
  rwa [hname he, hname he']

/-- Tasks that fit together have coherent views. -/
theorem Sound.coherent (hs : s.Sound) :
  s.Coherent
  where
  stored := sortOn_perm Record.name _
  byName := pairwise_lt_sortOn hs.nodup_names
  snapshot _ := s.list_perm_snapshot.mem_iff.symm
  byId := by
    apply pairwise_lt_sortOn
    rw [Keyed.map_values hs.ids_nodup hs.id_eq]
    exact hs.ids_nodup
  folders := hs.pairwise_folderList
  named n r := by
    have hmem : r ∈ s.list ↔ r ∈ Keyed.values s.records := (sortOn_perm Record.name _).mem_iff
    rw [hmem, taskNamed?]
    constructor
    · intro hr
      exact ⟨List.mem_of_find?_eq_some hr, by simpa using List.find?_some hr⟩
    · rintro ⟨hr, rfl⟩
      exact (Keyed.find?_key_iff hs.nodup_names).mpr hr
  task id r := by
    rw [hs.toIndexed.mem_list]
    constructor
    · intro hr
      have hid := hs.id_eq hr
      exact ⟨by rwa [hid], hid⟩
    · rintro ⟨hr, rfl⟩
      exact hr
  folder n f := by
    rw [mem_folderList hs.toIndexed]
    constructor
    · intro hf
      have hname := hs.folder_name_eq hf
      exact ⟨by rwa [hname], hname⟩
    · rintro ⟨hf, rfl⟩
      exact hf

/-- Coherent views of the same tasks and folders are the same. -/
theorem Coherent.sameViews (hs : s.Coherent) (ht : t.Coherent)
    (hlist : ∀ r, r ∈ s.list ↔ r ∈ t.list) (hfolders : ∀ f, f ∈ s.folderList ↔ f ∈ t.folderList) :
  s.SameViews t
  := by
  have hfolderList : s.folderList = t.folderList :=
    eq_of_pairwise_lt hs.folders ht.folders hfolders
  have htasks : s.snapshot.tasks = t.snapshot.tasks := by
    apply eq_of_pairwise_lt hs.byId ht.byId
    intro r
    rw [hs.snapshot, ht.snapshot, hlist]
  constructor
  · exact eq_of_pairwise_lt hs.byName ht.byName hlist
  · exact hfolderList
  · exact congrArg₂ Snapshot.mk htasks hfolderList
  · intro n
    apply Option.ext
    intro r
    rw [hs.named, ht.named, hlist]
  · intro id
    apply Option.ext
    intro r
    rw [hs.task, ht.task, hlist]
  · intro n
    apply Option.ext
    intro f
    rw [hs.folder, ht.folder, hfolders]

/-- What looks like no tasks at all is none. -/
theorem SameViews.eq_empty (h : s.SameViews empty) :
  s = empty
  := by
  have hlist : s.list = [] := h.list.trans (sortOn_perm Record.name []).eq_nil
  have hfolderList : s.folderList = [] :=
    h.folderList.trans (List.map_eq_nil_iff.mpr (sortOn_perm Prod.fst []).eq_nil)
  have hrecords : (Keyed.values s.records).Perm [] := by
    rw [← hlist]
    exact (sortOn_perm Record.name _).symm
  have hfolders : s.folders.Perm [] := by
    rw [← List.map_eq_nil_iff.mp hfolderList]
    exact (sortOn_perm Prod.fst s.folders).symm
  exact congrArg₂ Tasks.mk (List.map_eq_nil_iff.mp hrecords.eq_nil) hfolders.eq_nil

/-- The snapshot does not depend on the order in which tasks are held. -/
theorem Sound.snapshot_rearranged (hs : s.Sound) (h : s.Rearranged t) :
  t.snapshot = s.snapshot
  := by
  have ht : t.Sound := hs.rearranged h
  exact (ht.coherent.sameViews hs.coherent (fun _ => h.mem_list)
    fun _ => h.mem_folderList).snapshot

end Tasks

end TaskDesk
