import TaskDesk.Proofs.Manager.Opening

/-!
# Updates with any change of a record

The change of a record that an update makes may do anything to it.  The update puts the record
back into its folder and refuses an empty name and one of another task, so whatever the change
does, names stay distinct and folders list the ids under which their records are held: the tasks
stay `Matching`.  It does not look at the id.  So the records and the folders fit together
afterwards exactly if the change left the id alone, and then alone each task is found under its
id in the task file; a task is lost from the file exactly if the record took the id of another
one: `sound_update_iff`.
-/

namespace TaskDesk

open TaskDesk.Text

namespace Tasks

/-- Whether names are distinct and not empty, and each record is in the folder that lists the id
under which it is held, whatever id it has itself. -/
structure Matching (s : Tasks) : Prop where
  ids_nodup : (Keyed.keys s.records).Nodup
  folders_nodup : (Keyed.keys s.folders).Nodup
  folder_name_eq : ∀ {n f}, s.folder? n = some f → f.name = n
  id_ne_empty : ∀ {id r}, s.task? id = some r → id ≠ ""
  name_ne_empty : ∀ {id r}, s.task? id = some r → r.name ≠ ""
  name_injective : ∀ {i j r q}, s.task? i = some r → s.task? j = some q → r.name = q.name → i = j
  folder_iff : ∀ {id r n}, s.task? id = some r → (r.folder = some n ↔ s.Lists n id)
  listed : ∀ {n id}, s.Lists n id → ∃ r, s.task? id = some r

variable {s : Tasks} {id : String} {current r : Record}

theorem Matching.mem_list (h : s.Matching) :
  r ∈ s.list ↔ ∃ i, s.task? i = some r
  := by
  have hmem : r ∈ s.list ↔ r ∈ Keyed.values s.records := (sortOn_perm Record.name _).mem_iff
  rw [hmem, Keyed.mem_values_iff h.ids_nodup]
  rfl

/-- A record may be replaced by one in the same folder, whose name is not empty and not that of
another record. -/
theorem Sound.matching_store (h : s.Sound) (hcurrent : s.task? id = some current)
    (hfolder : r.folder = current.folder) (hname : r.name ≠ "")
    (hfree : r.name = current.name ∨ s.isTaken r.name (some id) = false) :
  (s.store id r).Matching
  := by
  -- With its id put right the record may be stored, and nothing here depends on its id.
  have hsound : (s.store id (r.assignId id)).Sound :=
    h.store (r := r.assignId id) hcurrent hfolder hname hfree
  have hlook {i : String} {q : Record} (hq : (s.store id r).task? i = some q) :
      ∃ p, (s.store id (r.assignId id)).task? i = some p ∧ p.name = q.name
        ∧ p.folder = q.folder := by
    rw [task?_store]
    obtain ⟨hi, rfl⟩ | ⟨hi, hq⟩ := task?_store_eq_some.mp hq
    · exact ⟨_, if_pos hi, rfl, rfl⟩
    · exact ⟨q, (if_neg hi).trans hq, rfl, rfl⟩
  refine ⟨?_, h.folders_nodup, h.folder_name_eq, ?_, ?_, ?_, ?_, ?_⟩
  · exact Keyed.nodup_keys_put h.ids_nodup
  · intro i q hq
    obtain ⟨p, hp, -, -⟩ := hlook hq
    exact hsound.id_ne_empty hp
  · intro i q hq
    obtain ⟨p, hp, hpname, -⟩ := hlook hq
    rw [← hpname]
    exact hsound.name_ne_empty hp
  · intro i j q q' hq hq' hnames
    obtain ⟨p, hp, hpname, -⟩ := hlook hq
    obtain ⟨p', hp', hpname', -⟩ := hlook hq'
    rw [← hpname, ← hpname'] at hnames
    exact hsound.name_injective hp hp' hnames
  · intro i q n hq
    obtain ⟨p, hp, -, hpfolder⟩ := hlook hq
    rw [← hpfolder, hsound.folder_iff hp, lists_store, lists_store]
  · intro n i hi
    rw [lists_store] at hi
    rw [task?_store]
    split
    · exact ⟨r, rfl⟩
    · exact h.listed hi

/-- Tasks with a record that was put under an id fit together exactly if that is its own id. -/
theorem Sound.store_iff (h : s.Sound) (hcurrent : s.task? id = some current)
    (hfolder : r.folder = current.folder) (hname : r.name ≠ "")
    (hfree : r.name = current.name ∨ s.isTaken r.name (some id) = false) :
  (s.store id r).Sound ↔ r.id = id
  := by
  constructor
  · intro hsound
    have hr : (s.store id r).task? id = some r := by rw [task?_store, if_pos rfl]
    exact hsound.id_eq hr
  · rintro rfl
    exact h.store hcurrent hfolder hname hfree

/-! ### The task file -/

/-- The snapshot of tasks in which a record was put can be stored, if the record can. -/
theorem Storable.snapshot_store (h : s.Storable) (hr : r.Storable Record.propertyLevels)
    (id : String) :
  (s.store id r).snapshot.Storable
  where
  tasks q hq := by
    have hkeys : (Keyed.keys (s.store id r).records).Nodup := Keyed.nodup_keys_put h.ids_nodup
    rw [Tasks.snapshot, (sortOn_perm _ _).mem_iff, Keyed.mem_values_iff hkeys] at hq
    obtain ⟨i, hq⟩ := hq
    obtain ⟨-, rfl⟩ | ⟨-, hq⟩ := task?_store_eq_some.mp hq
    · exact hr
    · exact h.record hq
  folders f hf := h.folder ((mem_snapshot_folders h.toIndexed).mp hf)

variable {t : Snapshot}

/-- What is read back under an id has that id, so that a task whose name it has has it, too. -/
theorem Matching.id_of_readBack (h : s.Matching) (ht : s.snapshot.ReadBack t) {i j : String}
    {q q' : Record} (hq : s.task? j = some q) (hq' : (ofSnapshot t).task? i = some q')
    (hname : q'.name = q.name) :
  q.id = i
  := by
  obtain ⟨hmem, rfl⟩ := Keyed.mem_of_find?_ofList hq'
  obtain ⟨p, hp, heq⟩ := ht.exists_of_mem hmem
  obtain ⟨k, hk⟩ := h.mem_list.mp (s.list_perm_snapshot.mem_iff.mpr hp)
  have hpname : p.name = q.name := by
    rw [← hname, heq]
    rfl
  obtain rfl := h.name_injective hk hq hpname
  obtain rfl := Option.some.inj (hk.symm.trans hq)
  rw [heq]
  rfl

/-- Each task is read back under its id exactly if it has the id under which it is held. -/
theorem Matching.readBack_iff (h : s.Matching) (ht : s.snapshot.ReadBack t) :
  (∀ i q, s.task? i = some q → ∃ q', (ofSnapshot t).task? i = some q' ∧ q'.name = q.name)
    ↔ ∀ i q, s.task? i = some q → q.id = i
  := by
  constructor
  · intro hall i q hq
    obtain ⟨q', hq', hname⟩ := hall i q hq
    exact h.id_of_readBack ht hq hq' hname
  · intro hids i q hq
    have hown : ∀ p ∈ s.list, p.id = q.id → p = q := by
      intro p hp hid
      obtain ⟨k, hk⟩ := h.mem_list.mp hp
      rw [hids k p hk, hids i q hq] at hid
      subst hid
      exact Option.some.inj (hk.symm.trans hq)
    obtain ⟨q', hq', heq⟩ := exists_task?_of_readBack ht (h.mem_list.mpr ⟨i, hq⟩) hown
    rw [hids i q hq] at hq'
    refine ⟨q', hq', ?_⟩
    rw [heq]
    rfl

/-- No task is missing from what is read back exactly if no two tasks have the same id. -/
theorem Matching.complete_iff (h : s.Matching) (ht : s.snapshot.ReadBack t) :
  (∀ q ∈ s.list, ∃ q' ∈ (ofSnapshot t).list, q'.name = q.name)
    ↔ ∀ p ∈ s.list, ∀ q ∈ s.list, p.id = q.id → p = q
  := by
  have hread : ∀ {q' : Record}, q' ∈ (ofSnapshot t).list ↔ (ofSnapshot t).task? q'.id = some q' :=
    (indexed_ofSnapshot t).mem_list
  constructor
  · intro hall p hp q hq hid
    obtain ⟨i, hi⟩ := h.mem_list.mp hp
    obtain ⟨j, hj⟩ := h.mem_list.mp hq
    obtain ⟨p', hp', hpname⟩ := hall p hp
    obtain ⟨q', hq', hqname⟩ := hall q hq
    -- Both are read back under the one id, where there is one record only.
    have hpid : p.id = p'.id := h.id_of_readBack ht hi (hread.mp hp') hpname
    have hqid : q.id = q'.id := h.id_of_readBack ht hj (hread.mp hq') hqname
    have hpq : (ofSnapshot t).task? p'.id = some q' := by
      rw [← hpid, hid, hqid]
      exact hread.mp hq'
    obtain rfl := Option.some.inj ((hread.mp hp').symm.trans hpq)
    obtain rfl := h.name_injective hi hj (hpname.symm.trans hqname)
    exact Option.some.inj (hi.symm.trans hj)
  · intro hown q hq
    obtain ⟨q', hq', heq⟩ := exists_task?_of_readBack ht hq fun p hp => hown p hp q hq
    refine ⟨q', ?_, ?_⟩
    · have hid : q'.id = q.id := by
        rw [heq]
        rfl
      rw [hread, hid]
      exact hq'
    · rw [heq]
      rfl

/-- Where one record was put under an id of tasks that fit together, all have the ids under which
they are held exactly if it does. -/
theorem Indexed.ids_store_iff (h : s.Indexed) :
  (∀ i q, (s.store id r).task? i = some q → q.id = i) ↔ r.id = id
  := by
  constructor
  · intro hids
    apply hids id r
    rw [task?_store, if_pos rfl]
  · rintro hid i q hq
    obtain ⟨rfl, rfl⟩ | ⟨-, hq⟩ := task?_store_eq_some.mp hq
    · exact hid
    · exact h.id_eq hq

/-- Where one record was put under an id of tasks that fit together, no two have the same id exactly
if it has not the id of another one. -/
theorem Sound.ids_distinct_iff (h : s.Sound) (hmatching : (s.store id r).Matching) :
  (∀ p ∈ (s.store id r).list, ∀ q ∈ (s.store id r).list, p.id = q.id → p = q)
    ↔ r.id = id ∨ s.task? r.id = none
  := by
  have hstored : (s.store id r).task? id = some r := by rw [task?_store, if_pos rfl]
  have hother {i : String} (hi : i ≠ id) : (s.store id r).task? i = s.task? i := by
    rw [task?_store, if_neg hi]
  -- The record that was put and another one with its id.
  have hclash {j : String} {q : Record} (hj : j ≠ id) (hq : s.task? j = some q)
      (hid : q.id = r.id) : r.id ≠ id ∧ s.task? r.id = some q := by
    rw [← hid, h.id_eq hq]
    exact ⟨hj, hq⟩
  constructor
  · intro hdistinct
    by_contra hneither
    rw [not_or] at hneither
    obtain ⟨q, hq⟩ := Option.ne_none_iff_exists'.mp hneither.2
    have hrlist : r ∈ (s.store id r).list := hmatching.mem_list.mpr ⟨id, hstored⟩
    have hqlist : q ∈ (s.store id r).list :=
      hmatching.mem_list.mpr ⟨r.id, by rw [hother hneither.1, hq]⟩
    obtain rfl := hdistinct q hqlist r hrlist (h.id_eq hq)
    exact hneither.1 (hmatching.name_injective (by rw [hother hneither.1, hq]) hstored rfl)
  · rintro hfree p hp q hq hid
    obtain ⟨i, hi⟩ := hmatching.mem_list.mp hp
    obtain ⟨j, hj⟩ := hmatching.mem_list.mp hq
    have hsame : i = j := by
      by_cases hip : i = id
      · by_contra hne
        subst hip
        obtain rfl := Option.some.inj (hi.symm.trans hstored)
        rw [hother (Ne.symm hne)] at hj
        obtain ⟨hrid, hrtask⟩ := hclash (Ne.symm hne) hj hid.symm
        simp [hrid, hrtask] at hfree
      · rw [hother hip] at hi
        by_cases hjp : j = id
        · subst hjp
          obtain rfl := Option.some.inj (hj.symm.trans hstored)
          obtain ⟨hrid, hrtask⟩ := hclash hip hi hid
          simp [hrid, hrtask] at hfree
        · rw [hother hjp] at hj
          rw [← h.id_eq hi, hid, h.id_eq hj]
    subst hsame
    exact Option.some.inj (hi.symm.trans hj)

end Tasks

namespace Manager

variable {m : Manager} {dir : TaskDir} {outcome : SaveOutcome} {now : Timestamp} {id : String}
  {f : Record → Record} {r : Record}

/-- An update that goes through puts a record that was made from the one of the id under the id, in
the same folder and under a name that no other record has. -/
theorem exists_store_of_updated
    (h : (m.mutate dir outcome (Tasks.updateTask m.project now id f)).answer = .ok r) :
  ∃ current, m.tasks.task? id = some current
    ∧ r.folder = current.folder ∧ r.name ≠ ""
    ∧ (r.name = current.name ∨ m.tasks.isTaken r.name (some id) = false)
    ∧ (m.mutate dir outcome (Tasks.updateTask m.project now id f)).manager
      = { m with tasks := m.tasks.store id r }
    ∧ (m.isBacked = true →
      (m.mutate dir outcome (Tasks.updateTask m.project now id f)).dir
        = savedDir (m.tasks.store id r))
  := by
  obtain ⟨c, hc, hreply, rfl⟩ := mutate_of_ok h
  obtain ⟨current, hcurrent, hvalue, hname, hfree, htasks, -⟩ := Tasks.updateTask_eq_ok.mp hc
  refine ⟨current, hcurrent, ?_, hname, hfree, ?_, ?_⟩
  · rw [hvalue, Tasks.folder_revised]
  · rw [hreply, htasks]
  · intro hbacked
    rw [hreply, htasks, if_pos hbacked]

/-- Whatever the change of the record does, after an update that goes through names are distinct and
folders list the ids under which their records are held, and nothing but the record of the id is
different.  The records and the folders fit together exactly if the record has the id; then alone
each task is found under its id when the task file is opened again, and no task is missing from it
exactly if the record has not taken the id of another one.  The file can be opened if the tasks can
be stored. -/
theorem sound_update_iff (hm : m.tasks.Sound)
    (h : (m.mutate dir outcome (Tasks.updateTask m.project now id f)).answer = .ok r) :
  let reply := m.mutate dir outcome (Tasks.updateTask m.project now id f)
  let s := reply.manager.tasks
  s.Matching ∧ m.tasks.Replaced s id r ∧ s.folders = m.tasks.folders
    ∧ (s.Sound ↔ r.id = id)
    ∧ (m.isBacked = true →
      (m.tasks.Storable → r.Storable Record.propertyLevels →
        ∃ m', open? m.project reply.dir = .ok m'
          ∧ (r.id = id → ∀ i, m'.tasks.task? i = (s.task? i).map Record.stored))
      ∧ ∀ m', open? m.project reply.dir = .ok m' →
        ((∀ i q, s.task? i = some q → ∃ q', m'.tasks.task? i = some q' ∧ q'.name = q.name)
          ↔ r.id = id)
        ∧ ((∀ q ∈ s.list, ∃ q' ∈ m'.tasks.list, q'.name = q.name)
          ↔ r.id = id ∨ m.tasks.task? r.id = none))
  := by
  intro reply s
  obtain ⟨current, hcurrent, hfolder, hname, hfree, hmanager, hdir⟩ := exists_store_of_updated h
  have hs : s = m.tasks.store id r := congrArg Manager.tasks hmanager
  have hmatching : (m.tasks.store id r).Matching := hm.matching_store hcurrent hfolder hname hfree
  have hiff := hm.store_iff hcurrent hfolder hname hfree
  rw [hs]
  refine ⟨hmatching, Tasks.replaced_store hm hcurrent hfolder, rfl, hiff, ?_⟩
  intro hbacked
  have hfile : reply.dir.file = some (.text (m.tasks.store id r).snapshot.text) :=
    congrArg TaskDir.file (hdir hbacked)
  constructor
  · intro hstorable hr
    have hread := Snapshot.read?_text (hstorable.snapshot_store hr id)
    refine ⟨_, open?_eq_ok.mpr ⟨_, load_of_read? hfile hread, rfl⟩, ?_⟩
    rintro rfl
    obtain ⟨t, ht, htasks, -⟩ := (hstorable.store hr).read?_text
    obtain rfl := Option.some.inj (hread.symm.trans ht)
    exact htasks
  · intro m' hopen
    obtain ⟨t, hload, rfl⟩ := open?_eq_ok.mp hopen
    have ht := Snapshot.readBack_of_read?_text (read?_of_load hfile hload)
    constructor
    · rw [← hm.ids_store_iff (r := r)]
      exact hmatching.readBack_iff ht
    · rw [← hm.ids_distinct_iff hmatching]
      exact hmatching.complete_iff ht

/-- A change of a record that names it anew and tries to move it, and one that gives it the id of
another task: the record is put under its old id then, and one of the two is lost from the file. -/
theorem sound_update_iff_instance :
  let day : Timestamp := ⟨2024, 2, 29, 23, 59, 60, 1⟩
  let task (name : String) (folder : Option String) : NewTask :=
    ⟨"shell", name, "", folder, Span.zero, Properties.empty⟩
  let done : List Step := [
    ⟨.createFolder "Nightly", day, .saved⟩,
    ⟨.createTask "t1" (task "Backup" (some "Nightly")), day, .saved⟩,
    ⟨.createTask "t2" (task "Restore" none), day, .saved⟩]
  let m := ((State.start "General" true TaskDir.new).run done).manager
  let update (edits : List Record.Edit) : Reply Record :=
    m.mutate TaskDir.new .saved (Tasks.updateTask m.project day "t2" fun r => r.run day edits)
  let renamed := update [.name "Dump", .folder (some "Nightly")]
  let spoilt := update [.id "t1"]
  renamed.manager.tasks.Sound
    ∧ spoilt.manager.tasks.Matching ∧ ¬spoilt.manager.tasks.Sound
    ∧ ∃ m', open? "General" spoilt.dir = .ok m'
      ∧ ¬∀ q ∈ spoilt.manager.tasks.list, ∃ q' ∈ m'.tasks.list, q'.name = q.name
  := by
  intro day task done m update renamed spoilt
  have hm : m.tasks.Sound := State.sound_run Tasks.sound_empty (by decide +kernel)
  have hevents : ∀ e ∈ done.map Event.step, e.isStorable = true := by decide +kernel
  have hstart : (State.start "General" true TaskDir.new).manager.Filed "General" :=
    ⟨rfl, rfl, Tasks.storable_empty⟩
  have hstored : m.tasks.Storable := (State.filed_happen hstart hevents).storable
  have hrenamed : renamed.answer = .ok (renamed.answer.toOption.getD default) :=
    eq_ok_getD (by decide +kernel) _
  have hspoilt : spoilt.answer = .ok (spoilt.answer.toOption.getD default) :=
    eq_ok_getD (by decide +kernel) _
  obtain ⟨-, -, -, hiff, -⟩ := sound_update_iff hm hrenamed
  obtain ⟨hmatching, -, -, hiff', hreopen⟩ := sound_update_iff hm hspoilt
  obtain ⟨hstorable, hreopened⟩ := hreopen rfl
  obtain ⟨m', hm', -⟩ := hstorable hstored
    ⟨by decide +kernel, by decide +kernel, by decide +kernel, by decide +kernel⟩
  refine ⟨hiff.mpr (by decide +kernel), hmatching, ?_, m', hm', ?_⟩
  · rw [hiff']
    decide +kernel
  · rw [(hreopened m' hm').2]
    decide +kernel

end Manager

end TaskDesk
