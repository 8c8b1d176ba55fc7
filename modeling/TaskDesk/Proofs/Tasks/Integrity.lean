import TaskDesk.Proofs.Tasks.Changes
import Mathlib.Tactic.Common

/-!
# The records and the folders fit together

`Indexed` tasks hold each record under its own id and each folder under its own name.  In
`Sound` tasks moreover ids and names are not empty, names are distinct, and the folder of a
record is the one that lists it.  Both are kept by every change, whatever a change of a
record does to its fields, its id apart.  `Replaced` says that a record was put under an id and
into its folder and that nothing else is different.
-/

namespace TaskDesk

namespace Tasks

/-- Whether a folder lists an id. -/
def Lists (s : Tasks) (n id : String) : Prop :=
  ∃ f, s.folder? n = some f ∧ id ∈ f.tasks

/-- Records are held under their own ids, folders under their own names, each once. -/
structure Indexed (s : Tasks) : Prop where
  ids_nodup : (Keyed.keys s.records).Nodup
  folders_nodup : (Keyed.keys s.folders).Nodup
  id_eq : ∀ {id r}, s.task? id = some r → r.id = id
  folder_name_eq : ∀ {n f}, s.folder? n = some f → f.name = n

/-- The records and the folders fit together. -/
structure Sound (s : Tasks) : Prop extends Indexed s where
  id_ne_empty : ∀ {id r}, s.task? id = some r → id ≠ ""
  name_ne_empty : ∀ {id r}, s.task? id = some r → r.name ≠ ""
  name_injective : ∀ {i j r q}, s.task? i = some r → s.task? j = some q → r.name = q.name → i = j
  folder_iff : ∀ {id r n}, s.task? id = some r → (r.folder = some n ↔ s.Lists n id)
  listed : ∀ {n id}, s.Lists n id → ∃ r, s.task? id = some r

theorem sound_empty :
  empty.Sound
  := by
  constructor
  · constructor <;> simp [empty, Keyed.keys, task?, folder?, Keyed.find?]
  all_goals simp [empty, task?, folder?, Lists, Keyed.find?]

/-! ### Indexed tasks -/

theorem Indexed.store {s : Tasks} (h : s.Indexed) (r : Record) :
  (s.store r.id r).Indexed
  where
  ids_nodup := Keyed.nodup_keys_put h.ids_nodup
  folders_nodup := h.folders_nodup
  id_eq {i q} hq := by
    obtain ⟨rfl, rfl⟩ | ⟨-, hq⟩ := task?_store_eq_some.mp hq
    · rfl
    · apply h.id_eq hq
  folder_name_eq := h.folder_name_eq

theorem Indexed.changeFolder {s : Tasks} (h : s.Indexed) (name : Option String)
    {f : Folder → Folder} (hf : ∀ g, (f g).name = g.name) :
  (s.changeFolder name f).Indexed
  where
  ids_nodup := by simpa using h.ids_nodup
  folders_nodup := by
    unfold Tasks.changeFolder
    split
    · apply h.folders_nodup
    · split
      · apply h.folders_nodup
      · apply Keyed.nodup_keys_put h.folders_nodup
  id_eq {i r} hr := by
    rw [task?_changeFolder] at hr
    apply h.id_eq hr
  folder_name_eq {n g} hg := by
    rw [folder?_changeFolder] at hg
    split at hg
    · obtain ⟨g', hg', rfl⟩ := Option.map_eq_some_iff.mp hg
      rw [hf]
      apply h.folder_name_eq hg'
    · apply h.folder_name_eq hg

@[simp]
theorem folder?_createFolder (s : Tasks) (name n : String) :
  folder? { s with folders := Keyed.put name (Folder.new name) s.folders } n
    = if n = name then some (Folder.new name) else s.folder? n
  := Keyed.find?_put n name (Folder.new name) s.folders

theorem Indexed.createFolder {s : Tasks} (h : s.Indexed) (name : String) :
  Indexed { s with folders := Keyed.put name (Folder.new name) s.folders }
  where
  ids_nodup := h.ids_nodup
  folders_nodup := Keyed.nodup_keys_put h.folders_nodup
  id_eq := h.id_eq
  folder_name_eq {n f} hf := by
    rw [folder?_createFolder] at hf
    split at hf
    · obtain rfl := Option.some.inj hf
      simp_all [Folder.new]
    · apply h.folder_name_eq hf

theorem Indexed.enroll {s : Tasks} (h : s.Indexed) (r : Record) :
  (s.enroll r).Indexed
  := Indexed.store (h.changeFolder r.folder (f := fun f => f.add r.id) fun _ => rfl) r

theorem Indexed.relocate {s : Tasks} (h : s.Indexed) (now : Timestamp) {id : String} {r : Record}
    (hr : s.task? id = some r) (target : Option String) :
  (s.relocate now id r target).Indexed
  := by
  obtain rfl := h.id_eq hr
  have hleft := h.changeFolder r.folder (f := fun f => f.remove r.id) fun _ => rfl
  have hjoined := hleft.changeFolder target (f := fun f => f.add r.id) fun _ => rfl
  apply hjoined.store (r.setFolder now target)

theorem Indexed.of_createFolder {s : Tasks} (h : s.Indexed) {name : String} {c : Change Unit}
    (hc : s.createFolder name = .ok c) :
  c.tasks.Indexed
  := by
  obtain ⟨-, rfl⟩ := createFolder_eq_ok.mp hc
  apply h.createFolder name

theorem Indexed.of_createTask {s : Tasks} (h : s.Indexed) {project : String} {now : Timestamp}
    {id : String} {t : NewTask} {c : Change Record} (hc : s.createTask project now id t = .ok c) :
  c.tasks.Indexed
  := by
  obtain ⟨-, -, rfl⟩ := createTask_eq_ok.mp hc
  apply h.enroll

theorem Indexed.of_updateTask {s : Tasks} (h : s.Indexed) {project : String} {now : Timestamp}
    {id : String} {f : Record → Record} {c : Change Record} (hf : ∀ r, (f r).id = r.id)
    (hc : s.updateTask project now id f = .ok c) :
  c.tasks.Indexed
  := by
  obtain ⟨r, hr, hvalue, -, -, htasks, -⟩ := updateTask_eq_ok.mp hc
  have hid : c.value.id = id := by
    rw [hvalue, id_revised now hf, h.id_eq hr]
  subst hid
  rw [htasks]
  apply h.store

theorem Indexed.of_moveTask {s : Tasks} (h : s.Indexed) {now : Timestamp} {id : String}
    {name : Option String} {c : Change Bool} (hc : s.moveTask now id name = .ok c) :
  c.tasks.Indexed
  := by
  obtain ⟨r, hr, ⟨-, rfl⟩ | ⟨-, rfl⟩⟩ := moveTask_eq_ok.mp hc
  · exact h
  · apply h.relocate now hr

/-! ### What folders list -/

@[simp]
theorem lists_store {s : Tasks} {id i n : String} {r : Record} :
  (s.store id r).Lists n i ↔ s.Lists n i
  := by
  simp only [Lists, folder?_store]

theorem lists_createFolder {s : Tasks} {name n id : String} (h : s.folder? name = none) :
  Lists { s with folders := Keyed.put name (Folder.new name) s.folders } n id ↔ s.Lists n id
  := by
  simp only [Lists, folder?_createFolder]
  split
  · next hn => simp [hn, h, Folder.new]
  · rfl

/-- Adding an id to a folder makes that folder list it, if the folder is there. -/
theorem lists_changeFolder_add {s : Tasks} {name : Option String} {id n i : String} :
  (s.changeFolder name fun f => f.add id).Lists n i
    ↔ s.Lists n i ∨ (i = id ∧ name = some n ∧ ∃ f, s.folder? n = some f)
  := by
  simp only [Lists, folder?_changeFolder]
  split
  · next hn =>
    cases hf : s.folder? n with
    | none => simp
    | some f =>
      simp only [Option.map_some, Option.some.injEq, exists_eq_left', Folder.mem_tasks_add, hn,
        exists_eq', and_true]
      exact or_comm
  · next hn => simp [hn]

/-- Taking an id out of a folder makes that folder list it no longer. -/
theorem lists_changeFolder_remove {s : Tasks} {name : Option String} {id n i : String} :
  (s.changeFolder name fun f => f.remove id).Lists n i
    ↔ s.Lists n i ∧ ¬(i = id ∧ name = some n)
  := by
  simp only [Lists, folder?_changeFolder]
  split
  · next hn =>
    cases hf : s.folder? n with
    | none => simp
    | some f => simp [hn]
  · next hn => simp [hn]

/-! ### Sound tasks -/

/-- In sound tasks a name that is not taken belongs to no record but that of the given id. -/
theorem Indexed.eq_of_not_isTaken {s : Tasks} (h : s.Indexed) {name id i : String}
    (hn : s.isTaken name (some id) = false) {r : Record} (hr : s.task? i = some r)
    (hname : r.name = name) :
  i = id
  := by
  by_contra hi
  have hid := h.id_eq hr
  have htaken : s.isTaken name (some id) = true := (isTaken_iff h.ids_nodup).mpr
    ⟨i, r, hr, hname, by simpa [hid] using hi⟩
  simp [hn] at htaken

theorem Sound.createFolder {s : Tasks} (h : s.Sound) {name : String}
    (hname : s.folder? name = none) :
  Sound { s with folders := Keyed.put name (Folder.new name) s.folders }
  where
  toIndexed := h.toIndexed.createFolder name
  id_ne_empty := h.id_ne_empty
  name_ne_empty := h.name_ne_empty
  name_injective := h.name_injective
  folder_iff {id r n} hr := by
    rw [lists_createFolder hname]
    apply h.folder_iff hr
  listed {n id} hid := h.listed ((lists_createFolder hname).mp hid)

/-- In `after` the record under an id is `r`, the folders are those of `before`, the one of `r`
lists the id and no other does, and nothing else is different. -/
structure Replaced (before after : Tasks) (id : String) (r : Record) : Prop where
  task : ∀ i, after.task? i = if i = id then some r else before.task? i
  folder : ∀ n, (after.folder? n).map Folder.name = (before.folder? n).map Folder.name
  lists : ∀ n i, after.Lists n i ↔ if i = id then r.folder = some n else before.Lists n i

theorem Replaced.trans {s t u : Tasks} {id : String} {r q : Record} (h : s.Replaced t id r)
    (h' : t.Replaced u id q) :
  s.Replaced u id q
  where
  task i := by
    rw [h'.task, h.task]
    split <;> rfl
  folder n := by
    rw [h'.folder, h.folder]
  lists n i := by
    rw [h'.lists, h.lists]
    split <;> rfl

theorem Replaced.task?_eq_some {s s' : Tasks} {id i : String} {r q : Record}
    (h : s.Replaced s' id r) :
  s'.task? i = some q ↔ i = id ∧ q = r ∨ i ≠ id ∧ s.task? i = some q
  := by
  rw [h.task, ← task?_store, task?_store_eq_some]

/-- Tasks in which one record is replaced are sound, if no other record has its name. -/
theorem Sound.of_replaced {s s' : Tasks} (h : s.Sound) (hindexed : s'.Indexed) {id : String}
    {r : Record} (hreplaced : s.Replaced s' id r) (hid : id ≠ "") (hname : r.name ≠ "")
    (hother : ∀ {i q}, s.task? i = some q → q.name = r.name → i = id) :
  s'.Sound
  := by
  refine ⟨hindexed, ?_, ?_, ?_, ?_, ?_⟩
  · intro i q hq
    obtain ⟨rfl, -⟩ | ⟨-, hq⟩ := hreplaced.task?_eq_some.mp hq
    · exact hid
    · apply h.id_ne_empty hq
  · intro i q hq
    obtain ⟨-, rfl⟩ | ⟨-, hq⟩ := hreplaced.task?_eq_some.mp hq
    · exact hname
    · apply h.name_ne_empty hq
  · intro i j p q hp hq hn
    obtain ⟨rfl, rfl⟩ | ⟨-, hp⟩ := hreplaced.task?_eq_some.mp hp
    · obtain ⟨rfl, -⟩ | ⟨-, hq⟩ := hreplaced.task?_eq_some.mp hq
      · rfl
      · exact (hother hq hn.symm).symm
    · obtain ⟨rfl, rfl⟩ | ⟨-, hq⟩ := hreplaced.task?_eq_some.mp hq
      · exact hother hp hn
      · apply h.name_injective hp hq hn
  · intro i q n hq
    rw [hreplaced.lists]
    obtain ⟨rfl, rfl⟩ | ⟨hi, hq⟩ := hreplaced.task?_eq_some.mp hq
    · rw [if_pos rfl]
    · rw [if_neg hi]
      apply h.folder_iff hq
  · intro n i hi
    rw [hreplaced.task]
    rw [hreplaced.lists] at hi
    split at hi
    · next hne => exact ⟨r, if_pos hne⟩
    · next hne =>
      rw [if_neg hne]
      apply h.listed hi

@[simp]
theorem task?_enroll (s : Tasks) (r : Record) (i : String) :
  (s.enroll r).task? i = if i = r.id then some r else s.task? i
  := by
  rw [Tasks.enroll, task?_store, task?_changeFolder]

theorem lists_enroll {s : Tasks} {r : Record} {n i : String} :
  (s.enroll r).Lists n i
    ↔ s.Lists n i ∨ (i = r.id ∧ r.folder = some n ∧ ∃ f, s.folder? n = some f)
  := by
  rw [Tasks.enroll, lists_store, lists_changeFolder_add]

theorem name_folder?_changeFolder (s : Tasks) (name : Option String) {f : Folder → Folder}
    (hf : ∀ g, (f g).name = g.name) (n : String) :
  ((s.changeFolder name f).folder? n).map Folder.name = (s.folder? n).map Folder.name
  := by
  rw [folder?_changeFolder]
  split
  · rw [Option.map_map]
    congr 1
    funext g
    apply hf
  · rfl

theorem replaced_enroll {s : Tasks} (h : s.Sound) {r : Record} (hfresh : s.task? r.id = none)
    (hfolder : ∀ {n}, r.folder = some n → ∃ f, s.folder? n = some f) :
  s.Replaced (s.enroll r) r.id r
  where
  task := task?_enroll s r
  folder := name_folder?_changeFolder s r.folder fun _ => rfl
  lists n i := by
    rw [lists_enroll]
    split
    · next hi =>
      subst hi
      constructor
      · rintro (hlists | ⟨-, hn, -⟩)
        · obtain ⟨q, hq⟩ := h.listed hlists
          simp [hfresh] at hq
        · exact hn
      · intro hn
        exact .inr ⟨rfl, hn, hfolder hn⟩
    · next hi => simp [hi]

/-- A record under a new id may be taken in, if its name is free and its folder is there. -/
theorem Sound.enroll {s : Tasks} (h : s.Sound) {r : Record} (hid : r.id ≠ "")
    (hfresh : s.task? r.id = none) (hname : r.name ≠ "") (hfree : s.isTaken r.name none = false)
    (hfolder : ∀ {n}, r.folder = some n → ∃ f, s.folder? n = some f) :
  (s.enroll r).Sound
  := by
  apply h.of_replaced (h.toIndexed.enroll r) (replaced_enroll h hfresh hfolder) hid hname
  intro i q hq hn
  have htaken : s.isTaken r.name none = true :=
    (isTaken_iff h.ids_nodup).mpr ⟨i, q, hq, hn, by simp⟩
  simp [hfree] at htaken

theorem replaced_store {s : Tasks} (h : s.Sound) {id : String} {current r : Record}
    (hcurrent : s.task? id = some current) (hfolder : r.folder = current.folder) :
  s.Replaced (s.store id r) id r
  where
  task i := task?_store s id i r
  folder n := rfl
  lists n i := by
    rw [lists_store]
    split
    · next hi => rw [hi, hfolder, h.folder_iff hcurrent]
    · rfl

/-- A record may be replaced by one with the same id in the same folder, whose name is not
empty and not that of another record. -/
theorem Sound.store {s : Tasks} (h : s.Sound) {current r : Record}
    (hcurrent : s.task? r.id = some current) (hfolder : r.folder = current.folder)
    (hname : r.name ≠ "")
    (hfree : r.name = current.name ∨ s.isTaken r.name (some r.id) = false) :
  (s.store r.id r).Sound
  := by
  apply h.of_replaced (h.toIndexed.store r) (replaced_store h hcurrent hfolder)
    (h.id_ne_empty hcurrent) hname
  intro i q hq hn
  obtain hsame | hfree := hfree
  · apply h.name_injective hq hcurrent (hn.trans hsame)
  · apply h.eq_of_not_isTaken hfree hq hn

@[simp]
theorem task?_relocate (s : Tasks) (now : Timestamp) (id : String) (r : Record)
    (target : Option String) (i : String) :
  (s.relocate now id r target).task? i
    = if i = id then some (r.setFolder now target) else s.task? i
  := by
  rw [Tasks.relocate, task?_store, task?_changeFolder, task?_changeFolder]

theorem lists_relocate {s : Tasks} {now : Timestamp} {id : String} {r : Record}
    {target : Option String} {n i : String} :
  (s.relocate now id r target).Lists n i
    ↔ (s.Lists n i ∧ ¬(i = id ∧ r.folder = some n))
      ∨ (i = id ∧ target = some n ∧ ∃ f, s.folder? n = some f)
  := by
  rw [Tasks.relocate, lists_store, lists_changeFolder_add, lists_changeFolder_remove,
    folder?_changeFolder]
  split <;> simp

theorem replaced_relocate {s : Tasks} (h : s.Sound) (now : Timestamp) {id : String} {r : Record}
    (hr : s.task? id = some r) {target : Option String}
    (hfolder : ∀ {n}, target = some n → ∃ f, s.folder? n = some f) :
  s.Replaced (s.relocate now id r target) id (r.setFolder now target)
  where
  task := task?_relocate s now id r target
  folder n := by
    have hleft := name_folder?_changeFolder s r.folder (f := fun f => f.remove id) (fun _ => rfl) n
    have hjoined := name_folder?_changeFolder (s.changeFolder r.folder fun f => f.remove id) target
      (f := fun f => f.add id) (fun _ => rfl) n
    exact hjoined.trans hleft
  lists n i := by
    rw [lists_relocate]
    split
    · next hi =>
      subst hi
      constructor
      · rintro (⟨hlists, hn⟩ | ⟨-, hn, -⟩)
        · exact absurd ⟨rfl, (h.folder_iff hr).mpr hlists⟩ hn
        · exact hn
      · intro hn
        exact .inr ⟨rfl, hn, hfolder hn⟩
    · next hi => simp [hi]

/-- A record may be moved into a folder that is there, or into none. -/
theorem Sound.relocate {s : Tasks} (h : s.Sound) (now : Timestamp) {id : String} {r : Record}
    (hr : s.task? id = some r) {target : Option String}
    (hfolder : ∀ {n}, target = some n → ∃ f, s.folder? n = some f) :
  (s.relocate now id r target).Sound
  := by
  have hname : r.name ≠ "" := h.name_ne_empty hr
  apply h.of_replaced (h.toIndexed.relocate now hr target) (replaced_relocate h now hr hfolder)
    (h.id_ne_empty hr) hname
  intro i q hq hn
  apply h.name_injective hq hr hn

/-! ### The four changes -/

theorem Sound.of_createFolder {s : Tasks} (h : s.Sound) {name : String} {c : Change Unit}
    (hc : s.createFolder name = .ok c) :
  c.tasks.Sound
  := by
  obtain ⟨hname, rfl⟩ := createFolder_eq_ok.mp hc
  apply h.createFolder hname

theorem Sound.of_createTask {s : Tasks} (h : s.Sound) {project : String} {now : Timestamp}
    {id : String} {t : NewTask} {c : Change Record} (hid : id ≠ "") (hfresh : s.task? id = none)
    (hc : s.createTask project now id t = .ok c) :
  c.tasks.Sound
  := by
  obtain ⟨hname, hfree, rfl⟩ := createTask_eq_ok.mp hc
  apply h.enroll hid hfresh hname hfree
  intro n hn
  exact (destination_eq_some.mp hn).2.2

/-- A change of a record that leaves it with the id under which it is held keeps tasks sound. -/
theorem Sound.of_updateTask_of_id {s : Tasks} (h : s.Sound) {project : String} {now : Timestamp}
    {id : String} {f : Record → Record} {c : Change Record} (hid : c.value.id = id)
    (hc : s.updateTask project now id f = .ok c) :
  c.tasks.Sound
  := by
  obtain ⟨r, hr, hvalue, hname, hfree, htasks, -⟩ := updateTask_eq_ok.mp hc
  have hfolder : c.value.folder = r.folder := by
    rw [hvalue, folder_revised]
  subst hid
  rw [htasks]
  apply h.store hr hfolder hname hfree

theorem Sound.of_updateTask {s : Tasks} (h : s.Sound) {project : String} {now : Timestamp}
    {id : String} {f : Record → Record} {c : Change Record} (hf : ∀ r, (f r).id = r.id)
    (hc : s.updateTask project now id f = .ok c) :
  c.tasks.Sound
  := by
  refine h.of_updateTask_of_id ?_ hc
  obtain ⟨r, hr, hvalue, -⟩ := updateTask_eq_ok.mp hc
  rw [hvalue, id_revised now hf, h.id_eq hr]

theorem Sound.of_moveTask {s : Tasks} (h : s.Sound) {now : Timestamp} {id : String}
    {name : Option String} {c : Change Bool} (hc : s.moveTask now id name = .ok c) :
  c.tasks.Sound
  := by
  obtain ⟨r, hr, ⟨-, rfl⟩ | ⟨-, rfl⟩⟩ := moveTask_eq_ok.mp hc
  · exact h
  · apply h.relocate now hr
    intro n hn
    exact (destination_eq_some.mp hn).2.2

end Tasks

end TaskDesk
