import TaskDesk.Proofs.Manager.Persistence

/-!
# Task files that are saved again

A task file may be written by hand: fields are left out, others are not known, records are lists,
folders name a task twice.  Once what it holds is saved, none of this is left, and the file is the
text of its snapshot.  Such a file holds that snapshot again, so to load and save it writes the text
that is there, `TaskDir.resave_of_load`.
-/

namespace TaskDesk

namespace Snapshot

/-- What is read from a text without doubles in properties is read back from its own text. -/
theorem read?_text_of_read? {text : String} {s : Snapshot} (h : read? text = some s)
    (hexact : ∀ r ∈ s.tasks, r.properties.isExact = true) :
  read? s.text = some s
  := by
  have hstorable : s.Storable := by
    constructor
    · exact fun r hr => storable_of_read? h hr (hexact r hr)
    · exact fun f hf => increasing_of_read? h hf
  -- A limit that was read is one of whole seconds, so that nothing of it is lost.
  have hstored : s.tasks.map Record.stored = s.tasks := by
    rw [List.map_congr_left (g := id), List.map_id]
    intro r hr
    obtain ⟨g, hg⟩ := exists_of_read? h hr
    rw [Record.stored, ← Record.limit_of_ofForm? hg]
    rfl
  rw [read?_text hstorable, hstored]

theorem read?_text_empty :
  read? empty.text = some empty
  := read?_text ⟨by simp [empty], by simp [empty]⟩

end Snapshot

namespace TaskDir

variable {d : TaskDir} {s : Snapshot}

/-- Loads the task file and saves what it holds. -/
def resave (d : TaskDir) (outcome : SaveOutcome) : TaskDir × Except StorageError Unit :=
  match d.load with
  | .ok s => d.save outcome s
  | .error e => (d, .error e)

/-- The directory after the task file was loaded and saved several times. -/
def resaves (d : TaskDir) (outcomes : List SaveOutcome) : TaskDir :=
  outcomes.foldl (fun d outcome => (d.resave outcome).1) d

theorem read?_text_of_load (hload : d.load = .ok s)
    (hexact : ∀ r ∈ s.tasks, r.properties.isExact = true) :
  Snapshot.read? s.text = some s
  := by
  obtain rfl | ⟨text, hread⟩ := Manager.empty_or_read?_of_load hload
  · exact Snapshot.read?_text_empty
  · exact Snapshot.read?_text_of_read? hread hexact

/-- The text of a snapshot stays in the file, whatever becomes of the save. -/
theorem file_resave (hread : Snapshot.read? s.text = some s) (hfile : d.file = some (.text s.text))
    (outcome : SaveOutcome) :
  (d.resave outcome).1.file = some (.text s.text)
  := by
  rw [resave, Manager.load_of_read? hfile hread]
  cases outcome with
  | saved => rfl
  | notWritten e => exact hfile
  | notRenamed e => exact hfile

theorem file_resaves (hread : Snapshot.read? s.text = some s) (hfile : d.file = some (.text s.text))
    (outcomes : List SaveOutcome) :
  (d.resaves outcomes).file = some (.text s.text)
  := by
  induction outcomes generalizing d with
  | nil => exact hfile
  | cons outcome rest ih => exact ih (file_resave hread hfile outcome)

/-- What is loaded from any task file is saved as a text that holds it again, and to load and save
that file changes nothing; no later save, good or failed, writes another text. -/
theorem resave_of_load (hload : d.load = .ok s)
    (hexact : ∀ r ∈ s.tasks, r.properties.isExact = true) :
  let d' := (d.resave .saved).1
  (d.resave .saved).2 = .ok () ∧ d'.file = some (.text s.text) ∧ d'.load = .ok s
    ∧ d'.resave .saved = (d', .ok ())
    ∧ ∀ outcomes, (d'.resaves outcomes).file = d'.file ∧ (d'.resaves outcomes).load = .ok s
  := by
  intro d'
  have hread : Snapshot.read? s.text = some s := read?_text_of_load hload hexact
  have hsaved : d.resave .saved = (⟨true, some (.text s.text), none⟩, .ok ()) := by
    rw [resave, hload]
    rfl
  have hd' : d' = ⟨true, some (.text s.text), none⟩ := congrArg Prod.fst hsaved
  have hfile : d'.file = some (.text s.text) := by rw [hd']
  have hload' : d'.load = .ok s := Manager.load_of_read? hfile hread
  refine ⟨congrArg Prod.snd hsaved, hfile, hload', ?_, ?_⟩
  · rw [resave, hload', hd']
    rfl
  · intro outcomes
    have hlast : (d'.resaves outcomes).file = some (.text s.text) :=
      file_resaves hread hfile outcomes
    exact ⟨hlast.trans hfile.symm, Manager.load_of_read? hlast hread⟩

/-- A record as a list, a key that comes twice, a time with an offset, a folder that names a task
twice, and a field that is not known with a number that is too great. -/
theorem resave_of_load_instance :
  let text := "\x7b\"more\":1e999,
    \"folders\":[\x7b\"tasks\":[\"t9\",\"t1\",\"t9\"],\"name\":\"Nightly\"\x7d],
    \"tasks\":[[\"t1\",\"Dump\",\"\",\"sh\",null,60,\x7b\"b\":1,\"a\":[],\"b\":\"x\"\x7d,
    \"2024-03-01T00:59:60+01:00\",\"2024-02-29T23:59:60Z\"]]\x7d"
  let d : TaskDir := ⟨true, some (.text text), none⟩
  ∃ s, d.load = .ok s ∧ s.folders = [⟨"Nightly", ["t1", "t9"]⟩] ∧ s.text ≠ text
    ∧ (d.resave .saved).1.file = some (.text s.text) ∧ (d.resave .saved).1.load = .ok s
    ∧ (d.resave .saved).1.resave .saved = ((d.resave .saved).1, .ok ())
  := by
  intro text d
  have hread : (Snapshot.read? text).map (fun s => (s.folders, s.text == text,
      s.tasks.all fun r => r.properties.isExact))
      = some ([⟨"Nightly", ["t1", "t9"]⟩], false, true) := by
    decide +kernel
  obtain ⟨s, hs, hparts⟩ := Option.map_eq_some_iff.mp hread
  simp only [Prod.mk.injEq] at hparts
  obtain ⟨hfolders, htext, hexact⟩ := hparts
  have hload : d.load = .ok s := Manager.load_of_read? rfl hs
  obtain ⟨-, hfile, hload', hagain, -⟩ := resave_of_load hload (List.all_eq_true.mp hexact)
  exact ⟨s, hload, hfolders, ne_of_beq_false htext, hfile, hload', hagain⟩

end TaskDir

end TaskDesk
