import TaskDesk.Store.Snapshot
import TaskDesk.Proofs.Json.Reader
import TaskDesk.Proofs.Task.Format
import Mathlib.Data.List.Forall2

/-!
# Snapshots read back

The text of a snapshot of records and folders that can be stored is read back to the snapshot of
the records as stored, `read?_text`.  What is read back of any other snapshot, if anything, differs
from that in the properties and the times of records and the order of tasks in folders only,
`readBack_of_read?_text`.  The records and folders that are read from any text can be stored, as far
as the properties are without doubles.
-/

namespace TaskDesk

open TaskDesk.Text

/-- How deep the properties of a record in a task file may be nested. -/
def Record.propertyLevels : Nat := Form.depthLimit - 3

namespace Snapshot

/-- Whether the records and the folders of a snapshot can be written and read back. -/
structure Storable (s : Snapshot) : Prop where
  tasks : ∀ r ∈ s.tasks, r.Storable Record.propertyLevels
  folders : ∀ f ∈ s.folders, Increasing f.tasks

theorem shape?_toJson (s : Snapshot) :
  s.toJson.form.shape? ["tasks", "folders"] = some [
    some (Json.arr (s.tasks.map Record.toJson)).form,
    some (Json.arr (s.folders.map Folder.toJson)).form]
  := Form.shape?_form _ (by simp [Keyed.keys])

/-- A snapshot is read back as it is stored. -/
theorem read?_text {s : Snapshot} (h : s.Storable) :
  read? s.text = some ⟨s.tasks.map Record.stored, s.folders⟩
  := by
  have htasks : Form.list? (Record.ofForm? (Form.depthLimit - 2))
      (Json.arr (s.tasks.map Record.toJson)).form = some (s.tasks.map Record.stored) :=
    Form.list?_form fun r hr => Record.ofForm?_toJson (h.tasks r hr)
  have hfolders : Form.list? Folder.ofForm? (Json.arr (s.folders.map Folder.toJson)).form
      = some s.folders := by
    have hlist := Form.list?_form (f := id) fun f hf =>
      Folder.ofForm?_toJson_of_increasing (h.folders f hf)
    simpa using hlist
  rw [read?, text, Form.read?_pretty, Option.bind_some, ofForm?, shape?_toJson]
  simp only [Form.orElse, htasks, hfolders]
  rfl

/-- Whatever is read back of a snapshot has its records one by one, each with its id, its name,
its folder and the whole seconds of its limit, and its folders with the sets of their tasks. -/
structure ReadBack (s t : Snapshot) : Prop where
  tasks : List.Forall₂ (fun r q => q = { Record.stored r with
    properties := q.properties, createdAt := q.createdAt, updatedAt := q.updatedAt }) s.tasks t.tasks
  folders : t.folders = s.folders.map fun f => { f with tasks := nameSet f.tasks }

theorem readBack_of_read?_text {s t : Snapshot} (h : read? s.text = some t) :
  s.ReadBack t
  := by
  rw [read?, text, Form.read?_pretty, Option.bind_some, ofForm?, shape?_toJson] at h
  have hfolders : Form.list? Folder.ofForm? (Json.arr (s.folders.map Folder.toJson)).form
      = some (s.folders.map fun f => { f with tasks := nameSet f.tasks }) :=
    Form.list?_form fun f _ => Folder.ofForm?_toJson f
  simp only [Form.orElse, hfolders, Option.bind_eq_bind, Option.bind_some,
    Option.bind_eq_some_iff, Option.some.injEq] at h
  obtain ⟨records, hrecords, rfl⟩ := h
  exact ⟨(Form.forall₂_of_list?_form hrecords).imp fun _ _ => Record.eq_of_ofForm?_toJson, rfl⟩

/-- What does not depend on properties, times and fractions of seconds is read back. -/
theorem ReadBack.map_tasks {s t : Snapshot} (h : s.ReadBack t) {α : Type} {f : Record → α}
    (hf : ∀ (r : Record) properties createdAt updatedAt,
      f { r.stored with properties, createdAt, updatedAt } = f r) :
  t.tasks.map f = s.tasks.map f
  := by
  have hequal : List.Forall₂ (· = ·) (s.tasks.map f) (t.tasks.map f) := by
    rw [List.forall₂_map_left_iff, List.forall₂_map_right_iff]
    refine h.tasks.imp ?_
    intro r q hq
    rw [hq, hf]
  rw [List.forall₂_eq_eq_eq] at hequal
  exact hequal.symm

theorem ReadBack.exists_of_mem {s t : Snapshot} (h : s.ReadBack t) {q : Record}
    (hq : q ∈ t.tasks) :
  ∃ r ∈ s.tasks, q = { r.stored with
    properties := q.properties, createdAt := q.createdAt, updatedAt := q.updatedAt }
  := by
  obtain ⟨hlength, hzip⟩ := List.forall₂_iff_zip.mp h.tasks
  rw [← List.map_snd_zip hlength.ge, List.mem_map] at hq
  obtain ⟨⟨r, q⟩, hmem, rfl⟩ := hq
  exact ⟨r, (List.of_mem_zip hmem).1, hzip hmem⟩

/-- Each record of a text that is read comes from a form. -/
theorem exists_of_read? {text : String} {s : Snapshot} (h : read? text = some s) {r : Record}
    (hr : r ∈ s.tasks) :
  ∃ g, Record.ofForm? (Form.depthLimit - 2) g = some r
  := by
  obtain ⟨form, -, h⟩ := Option.bind_eq_some_iff.mp h
  rw [ofForm?] at h
  split at h
  · simp only [Option.bind_eq_bind, Option.bind_eq_some_iff, Option.some.injEq] at h
    obtain ⟨records, hrecords, _, -, rfl⟩ := h
    have hread := Form.orElse_induction
      (motive := fun rs : List Record => ∀ r ∈ rs, ∃ g,
        Record.ofForm? (Form.depthLimit - 2) g = some r)
      (by simp) (fun hlist _ => Form.exists_of_mem_list? hlist) hrecords
    exact hread r hr
  · cases h

theorem storable_of_read? {text : String} {s : Snapshot} (h : read? text = some s) {r : Record}
    (hr : r ∈ s.tasks) (hexact : r.properties.isExact = true) :
  r.Storable Record.propertyLevels
  := by
  obtain ⟨g, hg⟩ := exists_of_read? h hr
  exact Record.storable_of_ofForm? hg hexact

theorem increasing_of_read? {text : String} {s : Snapshot} (h : read? text = some s) {f : Folder}
    (hf : f ∈ s.folders) :
  Increasing f.tasks
  := by
  obtain ⟨form, -, h⟩ := Option.bind_eq_some_iff.mp h
  rw [ofForm?] at h
  split at h
  · simp only [Option.bind_eq_bind, Option.bind_eq_some_iff, Option.some.injEq] at h
    obtain ⟨_, -, folders, hfolders, rfl⟩ := h
    have hread := Form.orElse_induction
      (motive := fun fs : List Folder => ∀ f ∈ fs, ∃ g, Folder.ofForm? g = some f)
      (by simp) (fun hlist _ => Form.exists_of_mem_list? hlist) hfolders
    obtain ⟨g, hg⟩ := hread f hf
    exact Folder.increasing_of_ofForm? hg
  · cases h

end Snapshot

end TaskDesk
