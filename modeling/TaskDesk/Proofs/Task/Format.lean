import TaskDesk.Task.Folder
import TaskDesk.Task.Format
import TaskDesk.Json.Printer
import TaskDesk.Proofs.Json.Form
import TaskDesk.Proofs.Text.Order
import TaskDesk.Proofs.Time.Timestamp

/-!
# Records and folders read back

A record can be stored if its times are valid, its limit fits in 64 bits and its properties are
plain.  What is read back from its JSON is the record as stored, `Record.stored`: all its fields,
of the limit only the whole seconds.  Of a record that cannot be stored nothing else is read back
either, as far as its id, its texts, its folder and its limit go.  What is read from any JSON can
be stored, if the properties are without doubles.  A folder can be stored if its list of tasks is
strictly increasing, as that of each folder read from JSON is.
-/

namespace TaskDesk

open TaskDesk.Text

/-! ### Properties -/

namespace Properties

/-- Whether the properties can be written and read back at the given number of levels. -/
def isPlain (levels : Nat) (p : Properties) : Bool :=
  p.toJson.isPlain levels

/-- Whether the properties are without doubles. -/
def isExact (p : Properties) : Bool :=
  p.toJson.isExact

theorem isPlain_iff {levels : Nat} {p : Properties} :
  p.isPlain (levels + 1) = true
    ↔ (Keyed.keys p.entries).Nodup ∧ ∀ e ∈ p.entries, e.2.isPlain levels = true
  := by
  rw [isPlain, toJson, Json.isPlain, Bool.and_eq_true, decide_eq_true_eq, Json.arePlainFields_iff]

theorem isPlain_empty (levels : Nat) :
  empty.isPlain (levels + 1) = true
  := rfl

theorem isPlain_insert {levels : Nat} {p : Properties} {key : String} {value : Json}
    (h : p.isPlain (levels + 1) = true) (hvalue : value.isPlain levels = true) :
  (p.insert key value).isPlain (levels + 1) = true
  := by
  rw [isPlain_iff] at h ⊢
  refine ⟨Keyed.nodup_keys_put h.1, ?_⟩
  intro e he
  obtain rfl | he := Keyed.mem_put he
  · exact hvalue
  · exact h.2 e he

theorem isPlain_erase {levels : Nat} {p : Properties} (key : String)
    (h : p.isPlain (levels + 1) = true) :
  (p.erase key).isPlain (levels + 1) = true
  := by
  rw [isPlain_iff] at h ⊢
  exact ⟨Keyed.nodup_keys_swapErase h.1, fun e he => h.2 e (Keyed.mem_of_mem_swapErase he)⟩

theorem ofForm?_toJson {levels : Nat} {p : Properties} (h : p.isPlain levels = true) :
  ofForm? levels p.toJson.form = some p
  := by
  have hvalue := Form.value?_form levels p.toJson h
  rw [toJson, Json.form] at hvalue ⊢
  rw [ofForm?, hvalue]

theorem isPlain_of_ofForm? {levels : Nat} {f : Form} {p : Properties}
    (h : ofForm? levels f = some p) (hexact : p.isExact = true) :
  p.isPlain levels = true
  := by
  cases f with
  | obj fields =>
    rw [ofForm?] at h
    split at h
    · next entries hentries =>
      obtain rfl := Option.some.inj h
      exact Form.isPlain_of_value? levels _ hentries hexact
    · cases h
  | _ => cases h

end Properties

/-! ### Records -/

namespace Record

/-- The record as its JSON holds it: of the limit only the whole seconds. -/
def stored (r : Record) : Record :=
  { r with limit := Span.ofSeconds r.limit.seconds }

/-- Whether a record can be written and read back at the given number of levels. -/
structure Storable (levels : Nat) (r : Record) : Prop where
  createdAt : r.createdAt.valid = true
  updatedAt : r.updatedAt.valid = true
  limit : r.limit.seconds ≤ maxWord
  properties : r.properties.isPlain levels = true

theorem time?_form {t : Timestamp} (h : t.valid = true) :
  time? (Json.form (.str t.text)) = some t
  := by
  rw [time?, Form.text?_form, Option.bind_some, Timestamp.read?_text h]

theorem valid_of_time? {f : Form} {t : Timestamp} (h : time? f = some t) :
  t.valid = true
  := by
  obtain ⟨_, -, ht⟩ := Option.bind_eq_some_iff.mp h
  exact Timestamp.valid_of_read? ht

theorem shape?_toJson (r : Record) :
  r.toJson.form.shape? fieldNames = some [
    some (Json.str r.id).form, some (Json.str r.name).form, some (Json.str r.description).form,
    some (Json.str r.taskType).form, some (Json.ofOption .str r.folder).form,
    some (Json.nat r.limit.seconds).form, some r.properties.toJson.form,
    some (Json.str r.createdAt.text).form, some (Json.str r.updatedAt.text).form]
  := Form.shape?_form _ (by simp [Keyed.keys])

/-- A record is read back as it is stored. -/
theorem ofForm?_toJson {levels : Nat} {r : Record} (h : r.Storable levels) :
  ofForm? (levels + 1) r.toJson.form = some r.stored
  := by
  rw [ofForm?, shape?_toJson]
  simp only [Form.orElse, Form.text?_form, Form.option?_form, Form.word?_form h.limit,
    Properties.ofForm?_toJson h.properties, time?_form h.createdAt, time?_form h.updatedAt]
  rfl

/-- If a record is read back at all, it is as it is stored, but for its properties and its
times. -/
theorem eq_of_ofForm?_toJson {levels : Nat} {r q : Record}
    (h : ofForm? levels r.toJson.form = some q) :
  q = { r.stored with
    properties := q.properties, createdAt := q.createdAt, updatedAt := q.updatedAt }
  := by
  cases levels with
  | zero => cases h
  | succ levels =>
    rw [ofForm?, shape?_toJson] at h
    simp only [Form.orElse, Form.text?_form, Form.option?_form, Option.bind_eq_bind,
      Option.bind_some, Option.bind_eq_some_iff, Option.some.injEq] at h
    obtain ⟨limit, hlimit, _, -, _, -, _, -, rfl⟩ := h
    obtain rfl := Form.eq_of_word?_form hlimit
    rfl

/-- The limit of a record that is read is a whole number of seconds. -/
theorem limit_of_ofForm? {levels : Nat} {f : Form} {r : Record}
    (h : ofForm? levels f = some r) :
  r.limit = Span.ofSeconds r.limit.seconds
  := by
  cases levels with
  | zero => cases h
  | succ levels =>
    rw [ofForm?] at h
    split at h
    · simp only [Option.bind_eq_bind, Option.bind_eq_some_iff, Option.some.injEq] at h
      obtain ⟨_, -, _, -, _, -, _, -, _, -, _, -, _, -, _, -, _, -, rfl⟩ := h
      rfl
    · cases h

/-- A record that is read can be stored, if its properties are without doubles. -/
theorem storable_of_ofForm? {levels : Nat} {f : Form} {r : Record}
    (h : ofForm? (levels + 2) f = some r) (hexact : r.properties.isExact = true) :
  r.Storable (levels + 1)
  := by
  rw [ofForm?] at h
  split at h
  · simp only [Option.bind_eq_bind, Option.bind_eq_some_iff, Option.some.injEq] at h
    obtain ⟨_, -, _, -, _, -, _, -, _, -, _, hlimit, properties, hproperties, _, hcreated, _,
      hupdated, rfl⟩ := h
    refine ⟨valid_of_time? hcreated, valid_of_time? hupdated, ?_, ?_⟩
    · exact Form.orElse_induction (motive := (· ≤ maxWord)) (Nat.zero_le _)
        Form.le_maxWord_of_word? hlimit
    · exact Form.orElse_induction
        (motive := fun p => p.isExact = true → p.isPlain (levels + 1) = true)
        (fun _ => Properties.isPlain_empty levels) Properties.isPlain_of_ofForm? hproperties hexact
  · cases h

/-! ### Changes of records -/

/-- Whether a change of a record puts in only what can be stored. -/
def Edit.isStorable (levels : Nat) : Edit → Bool
  | .limit l => l.seconds ≤ maxWord
  | .properties p => p.isPlain (levels + 1)
  | .property _ value => value.isPlain levels
  | _ => true

theorem Storable.setFolder {levels : Nat} {r : Record} (h : r.Storable levels) {now : Timestamp}
    (hnow : now.valid = true) (folder : Option String) :
  (r.setFolder now folder).Storable levels
  where
  createdAt := h.createdAt
  updatedAt := hnow
  limit := h.limit
  properties := h.properties

theorem Storable.apply {levels : Nat} {r : Record} (h : r.Storable (levels + 1)) {now : Timestamp}
    (hnow : now.valid = true) {e : Edit} (he : e.isStorable levels = true) :
  (r.apply now e).Storable (levels + 1)
  := by
  cases e with
  | id id => exact ⟨h.createdAt, h.updatedAt, h.limit, h.properties⟩
  | name name => exact ⟨h.createdAt, hnow, h.limit, h.properties⟩
  | description description => exact ⟨h.createdAt, hnow, h.limit, h.properties⟩
  | taskType taskType =>
    simp only [Record.apply, setTaskType]
    split
    · exact h
    · exact ⟨h.createdAt, hnow, h.limit, Properties.isPlain_empty levels⟩
  | folder folder => exact h.setFolder hnow folder
  | limit limit => exact ⟨h.createdAt, hnow, of_decide_eq_true he, h.properties⟩
  | properties properties => exact ⟨h.createdAt, hnow, h.limit, he⟩
  | property key value =>
    exact ⟨h.createdAt, h.updatedAt, h.limit, Properties.isPlain_insert h.properties he⟩
  | removeProperty key =>
    exact ⟨h.createdAt, h.updatedAt, h.limit, Properties.isPlain_erase key h.properties⟩

theorem Storable.run {levels : Nat} {r : Record} (h : r.Storable (levels + 1)) {now : Timestamp}
    (hnow : now.valid = true) {edits : List Edit} (he : ∀ e ∈ edits, e.isStorable levels = true) :
  (r.run now edits).Storable (levels + 1)
  := by
  induction edits generalizing r with
  | nil => exact h
  | cons e rest ih =>
    rw [List.forall_mem_cons] at he
    exact ih (h.apply hnow he.1) he.2

end Record

/-! ### Folders -/

namespace Folder

/-- A folder is read back with the set of its tasks. -/
theorem ofForm?_toJson (f : Folder) :
  ofForm? f.toJson.form = some { f with tasks := nameSet f.tasks }
  := by
  have hshape := Form.shape?_form [("name", .str f.name), ("tasks", Json.texts f.tasks)]
    (by simp [Keyed.keys])
  rw [ofForm?, toJson]
  simp only [Keyed.keys, List.map_cons, List.map_nil] at hshape
  rw [hshape]
  simp only [Form.orElse, Form.text?_form, Form.list?_texts]
  rfl

theorem ofForm?_toJson_of_increasing {f : Folder} (h : Increasing f.tasks) :
  ofForm? f.toJson.form = some f
  := by
  rw [ofForm?_toJson, nameSet_of_increasing h]

theorem increasing_of_ofForm? {form : Form} {f : Folder} (h : ofForm? form = some f) :
  Increasing f.tasks
  := by
  rw [ofForm?] at h
  split at h
  · simp only [Option.bind_eq_bind, Option.bind_eq_some_iff, Option.some.injEq] at h
    obtain ⟨_, -, _, -, rfl⟩ := h
    apply increasing_nameSet
  · cases h

end Folder

end TaskDesk
