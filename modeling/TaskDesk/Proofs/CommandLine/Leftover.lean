import TaskDesk.Proofs.CommandLine.Drafts
import TaskDesk.Proofs.CommandLine.Scene
import TaskDesk.Proofs.Wizard.Failure

/-!
# What a failing command leaves

A command that creates or edits a task makes the folder that is named, if it is not there, before it
looks at anything else but the name of the task to edit.  If it fails then, the folder stays in the
task file, empty; otherwise a command that fails leaves the task file alone.  `file_runIn_of_failed`
says so for whole runs of the program.
-/

namespace TaskDesk

namespace CommandLine

/-- Whether a command creates or edits a task. -/
def Command.writesTask : Command → Bool
  | .create .. | .edit .. => true
  | _ => false

/-- The folder that a command makes, if it comes that far. -/
def Desk.folderOf (d : Desk) : Command → Option String
  | .create _ _ _ folder _ => d.newFolder? folder
  | .edit name _ _ folder _ => (d.manager.tasks.taskNamed? name).bind fun _ => d.newFolder? folder
  | _ => none

/-- The task file with a new folder, if one is to be made and can be saved. -/
def Desk.fileWith (d : Desk) (folder : Option String) : Option Entry :=
  match folder with
  | none => d.dir.file
  | some n =>
    if d.dir.outcome = .saved then some (.text (d.manager.tasks.addFolder n).snapshot.text)
    else d.dir.file

/-- A desk where there is a task file, and the records and folders have their own ids and names. -/
structure Desk.Ordered (d : Desk) : Prop where
  isBacked : d.manager.isBacked = true
  indexed : d.manager.tasks.Indexed

/-- Making a folder leaves the task file with it, if that can be saved, and otherwise as it was. -/
theorem file_ensureFolder {d : Desk} (hd : d.Ordered) (folder : Option String) :
  let d' := ((ensureFolder folder).run.run d).2
  d'.dir.file = d.fileWith (d.newFolder? folder) ∧ d'.Ordered
  := by
  intro d'
  have hd' : d' = ((ensureFolder folder).run.run d).2 := rfl
  cases hnew : d.newFolder? folder with
  | none =>
    rw [run_ensureFolder, hnew] at hd'
    rw [hd']
    exact ⟨rfl, hd⟩
  | some n =>
    by_cases hsaved : d.dir.outcome = .saved
    · rw [run_ensureFolder_saved hd.isBacked hsaved, hnew] at hd'
      rw [hd', Desk.fileWith, if_pos hsaved]
      exact ⟨rfl, hd.isBacked, hd.indexed.createFolder n⟩
    · rw [Desk.fileWith, if_neg hsaved]
      rw [run_ensureFolder, hnew] at hd'
      cases hrun : (change (Tasks.createFolder n)).run.run d with
      | mk answer d'' =>
        obtain rfl : d' = d'' := hd'.trans (congrArg Prod.snd hrun)
        cases answer with
        | ok u => exact absurd (saved_of_run_change hd.isBacked hrun) hsaved
        | error f =>
          obtain ⟨hmanager, hsame⟩ := run_change_of_error hrun
          exact ⟨hsame, by rw [hmanager]; exact hd.isBacked, by rw [hmanager]; exact hd.indexed⟩

theorem file_commit_of_error {d d' : Desk} (hd : d.Ordered) {done : String} {w : Wizard}
    {f : Failure} (h : (commit done w).run.run d = (.error f, d')) :
  d'.dir.file = d.dir.file
  := by
  rw [run_commit] at h
  obtain ⟨hanswer, rfl⟩ := Prod.mk.inj h
  cases hreply : (w.commit d.manager d.dir d.dir.outcome d.dir.outcome d.now d.freshId).answer with
  | error e => exact (Wizard.commit_of_error hd.indexed hreply).2
  | ok s => simp [hreply, Except.map, Except.mapError] at hanswer

/-- Where what follows the making of a folder leaves the task file alone if it fails, the task file
is left with the folder. -/
theorem file_of_ensureFolder {d d'' : Desk} (hd : d.Ordered) {folder : Option String}
    {rest : Desk → Except Failure String × Desk} {f : Failure}
    (hrest : ∀ {d' f d''}, d'.Ordered → rest d' = (.error f, d'') → d''.dir.file = d'.dir.file)
    (h : (match (ensureFolder folder).run.run d with
      | (.error f, d') => (.error f, d')
      | (.ok (), d') => rest d') = (.error f, d'')) :
  d''.dir.file = d.fileWith (d.newFolder? folder)
  := by
  obtain ⟨hfile, hordered⟩ := file_ensureFolder hd folder
  rw [← hfile]
  generalize (ensureFolder folder).run.run d = made at h hordered
  obtain ⟨answer, d'⟩ := made
  cases answer with
  | error f' =>
    obtain ⟨-, rfl⟩ := Prod.mk.inj h
    rfl
  | ok u => exact hrest hordered h

/-- If a command to create or edit a task fails, the task file has the folder that the command made,
and is otherwise as it was. -/
theorem file_perform_of_error {d d' : Desk} (hd : d.Ordered) {c : Command}
    (hc : c.writesTask = true) {f : Failure} (h : c.perform.run.run d = (.error f, d')) :
  d'.dir.file = d.fileWith (d.folderOf c)
  := by
  cases c with
  | create name type description folder limit =>
    rw [Command.perform, run_createTask] at h
    refine file_of_ensureFolder hd ?_ h
    intro d' f d'' hordered hrest
    split at hrest
    · obtain ⟨-, rfl⟩ := Prod.mk.inj hrest
      rfl
    · dsimp only at hrest
      split at hrest
      · obtain ⟨-, rfl⟩ := Prod.mk.inj hrest
        rfl
      · exact file_commit_of_error hordered hrest
  | edit name type description folder limit =>
    rw [Command.perform, run_editTask, run_findTask] at h
    rw [Desk.folderOf]
    cases hnamed : d.manager.tasks.taskNamed? name with
    | none =>
      rw [hnamed] at h
      obtain ⟨-, rfl⟩ := Prod.mk.inj h
      rfl
    | some r =>
      rw [hnamed] at h
      refine file_of_ensureFolder hd ?_ h
      intro d' f d'' hordered hrest
      split at hrest
      · obtain ⟨-, rfl⟩ := Prod.mk.inj hrest
        rfl
      · exact file_commit_of_error hordered hrest
  | _ => cases hc

namespace Program

theorem ordered_of_opening {files : Files} {dirs : TaskDirs} {around : Surroundings}
    {i : Invocation} {path : String} {desk : Desk}
    (h : opening files dirs around i = .ok (path, desk)) :
  desk.Ordered
  := by
  rw [opening] at h
  split at h
  · cases h
  · split at h
    · cases h
    · dsimp only at h
      split at h
      · cases h
      · next manager hopen =>
        cases h
        refine ⟨?_, Manager.indexed_of_open? hopen⟩
        obtain ⟨t, -, rfl⟩ := Manager.open?_eq_ok.mp hopen
        rfl

/-- If a run with a command to create or edit a task fails, every task file is as it was, but that
of the desk that the run came to has the folder that the command made. -/
theorem file_runIn_of_failed {files : Files} {dirs : TaskDirs} {around : Surroundings}
    {args : List String}
    (hcommand : ∀ i, Invocation.read args = .ok i → i.command.writesTask = true)
    (hfailed : ∀ output, (runIn files dirs around args).1 ≠ .done output) (path : String) :
  ((runIn files dirs around args).2 path).file
    = match Invocation.read args with
      | .error _ => (dirs path).file
      | .ok i =>
        match opening files dirs around i with
        | .error _ => (dirs path).file
        | .ok (place, desk) =>
          if path = place then desk.fileWith (desk.folderOf i.command) else (dirs path).file
  := by
  obtain ⟨before, halike, hresult⟩ := runIn_eq files dirs around args
  rw [hresult] at hfailed ⊢
  cases hread : Invocation.read args with
  | error u => exact (halike path).1
  | ok i =>
    rw [hread] at hfailed
    dsimp only at hfailed ⊢
    cases hopening : opening files dirs around i with
    | error f => exact (halike path).1
    | ok opened =>
      obtain ⟨place, desk⟩ := opened
      rw [hopening] at hfailed
      dsimp only at hfailed ⊢
      by_cases hplace : path = place
      · subst hplace
        rw [if_pos rfl, Function.update_self]
        cases hdone : i.command.perform.run.run desk with
        | mk answer d' =>
          rw [hdone] at hfailed
          cases answer with
          | ok output => exact absurd rfl (hfailed output)
          | error f =>
            exact file_perform_of_error (ordered_of_opening hopening) (hcommand i hread) hdone
      · rw [if_neg hplace, Function.update_of_ne hplace]
        exact (halike path).1

/-- A run that is to create a task without a name fails. -/
theorem runIn_nameless {args : List String} {i : Invocation}
    (hread : Invocation.read args = .ok i) {type description : String} {folder : Option String}
    {limit : Option Nat} (hcommand : i.command = .create "" type description folder limit)
    (files : Files) (dirs : TaskDirs) (around : Surroundings) (output : String) :
  (runIn files dirs around args).1 ≠ .done output
  := by
  obtain ⟨before, -, hresult⟩ := runIn_eq files dirs around args
  rw [hresult, hread]
  dsimp only
  cases opening files dirs around i with
  | error f => exact nofun
  | ok opened =>
    dsimp only
    rw [hcommand, Command.perform, run_createTask]
    obtain ⟨answer, d'⟩ := (ensureFolder folder).run.run opened.2
    cases answer with
    | error f => exact nofun
    | ok u =>
      dsimp only
      cases d'.catalog.type? type with
      | none => exact nofun
      | some t => exact nofun

/-- A task without a name is not created, but its folder is made. -/
theorem file_runIn_of_failed_instance :
  let files : Files :=
    ⟨fun _ => false, fun _ => .error .notFound, fun _ => .error .notFound, fun _ => .ok ()⟩
  let around : Surroundings :=
    ⟨[("DBTASK__STORAGE__DATA_DIR", "/data")], "/root", ⟨2024, 2, 29, 23, 59, 60, 1⟩, "t1"⟩
  let args := ["create", "--name", "", "--type", "shellCommand", "--folder", "Nightly"]
  let result := runIn files (fun _ => TaskDir.new) around args
  (∀ output, result.1 ≠ .done output)
    ∧ (result.2 "/data/General").file
      = some (.text (Tasks.empty.addFolder "Nightly").snapshot.text)
  := by
  intro files around args result
  have hread : Invocation.read args
      = .ok ⟨none, "info", none, .create "" "shellCommand" "" (some "Nightly") none⟩ := by
    decide +kernel
  have hfailed : ∀ output, result.1 ≠ .done output :=
    runIn_nameless hread rfl files (fun _ => TaskDir.new) around
  refine ⟨hfailed, ?_⟩
  have hcommand : ∀ i, Invocation.read args = .ok i → i.command.writesTask = true := by
    intro i hi
    obtain rfl := Except.ok.inj (hread.symm.trans hi)
    rfl
  have hleft := file_runIn_of_failed hcommand hfailed "/data/General"
  have hdesk : (opening files (fun _ => TaskDir.new) around
      ⟨none, "info", none, .create "" "shellCommand" "" (some "Nightly") none⟩).toOption.map
        (fun opened => (opened.1, opened.2.fileWith (opened.2.newFolder? (some "Nightly"))))
      = some ("/data/General", some (.text (Tasks.empty.addFolder "Nightly").snapshot.text)) := by
    decide +kernel
  rw [hread] at hleft
  dsimp only at hleft
  generalize opening files (fun _ => TaskDir.new) around
    ⟨none, "info", none, .create "" "shellCommand" "" (some "Nightly") none⟩ = opened
    at hleft hdesk
  cases opened with
  | error f => cases hdesk
  | ok opened =>
    obtain ⟨place, desk⟩ := opened
    obtain ⟨hplace, hfile⟩ := Prod.mk.inj (Option.some.inj hdesk)
    rw [hleft, ← hfile]
    exact if_pos hplace.symm

end Program

end CommandLine

end TaskDesk
