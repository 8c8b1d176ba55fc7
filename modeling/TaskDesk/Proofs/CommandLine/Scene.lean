import TaskDesk.CommandLine.Program
import Mathlib.Logic.Function.Basic

/-!
# The program among files

A `Scene` is where runs of the program are looked at: files that nobody changes meanwhile, and
directories of task files under their paths.  Before its command the program changes no task file,
and what it finds among the other files does not depend on them, `Steady`.  So a run is over before
its command, or it comes to a desk, `Program.opening`, and does the command there: `runIn_eq`.
-/

namespace TaskDesk

namespace CommandLine

/-- Files that nobody changes: what is found under each path, and whether a directory can be made
there. -/
structure Files where
  isFile : String → Bool
  read : String → Except FileError String
  readLossy : String → Except FileError String
  makeDirs : String → Except FileError Unit

/-- The directories of task files under their paths. -/
abbrev TaskDirs := String → TaskDir

/-- Work on the directories of task files among files that nobody changes. -/
abbrev Scene := ReaderT Files (StateM TaskDirs)

instance : FileSystem Scene where
  isFile path := do pure ((← read).isFile path)
  read path := do pure ((← read).read path)
  readLossy path := do pure ((← read).readLossy path)
  makeDirs path := do
    match (← read).makeDirs path with
    | .ok () =>
      modify fun dirs => Function.update dirs path (dirs path).made
      pure (.ok ())
    | .error e => pure (.error e)
  makeFile _ := pure ()
  taskDir path := do pure ((← get) path)
  keepTaskDir path t := modify fun dirs => Function.update dirs path t

variable {α β : Type}

/-- What work in a scene comes to. -/
def Scene.on (x : Scene α) (files : Files) (dirs : TaskDirs) : α × TaskDirs :=
  (x.run files).run dirs

theorem on_bind (x : Scene α) (f : α → Scene β) (files : Files) (dirs : TaskDirs) :
  Scene.on (x >>= f) files dirs = (f (Scene.on x files dirs).1).on files (Scene.on x files dirs).2
  := rfl

/-- Two states of directories have the same files in them. -/
def Alike (dirs dirs' : TaskDirs) : Prop :=
  ∀ path, (dirs' path).file = (dirs path).file ∧ (dirs' path).temporary = (dirs path).temporary

theorem Alike.refl (dirs : TaskDirs) :
  Alike dirs dirs
  := fun _ => ⟨rfl, rfl⟩

theorem Alike.trans {dirs dirs' dirs'' : TaskDirs} (h : Alike dirs dirs')
    (h' : Alike dirs' dirs'') :
  Alike dirs dirs''
  := fun path => ⟨(h' path).1.trans (h path).1, (h' path).2.trans (h path).2⟩

theorem Alike.made {dirs dirs' : TaskDirs} (h : Alike dirs dirs') (path : String) :
  (dirs' path).made = (dirs path).made
  := by
  rw [TaskDir.made, TaskDir.made, (h path).1, (h path).2]

/-- Whether the work changes no file in a directory of a task file, and comes to the same whatever
is in them. -/
def Steady (x : Scene α) (files : Files) : Prop :=
  ∃ a, ∀ dirs, ∃ dirs', Scene.on x files dirs = (a, dirs') ∧ Alike dirs dirs'

theorem steady_pure (a : α) (files : Files) :
  Steady (pure a) files
  := ⟨a, fun dirs => ⟨dirs, rfl, Alike.refl dirs⟩⟩

theorem Steady.bind {x : Scene α} {f : α → Scene β} {files : Files} (hx : Steady x files)
    (hf : ∀ a, Steady (f a) files) :
  Steady (x >>= f) files
  := by
  obtain ⟨a, hx⟩ := hx
  obtain ⟨b, hf⟩ := hf a
  refine ⟨b, fun dirs => ?_⟩
  obtain ⟨dirs', hx, hfirst⟩ := hx dirs
  obtain ⟨dirs'', hf, hsecond⟩ := hf dirs'
  refine ⟨dirs'', ?_, hfirst.trans hsecond⟩
  rw [on_bind, hx, hf]

/-! ### What changes no task file -/

section

variable {files : Files}

theorem steady_isFile (path : String) :
  Steady (FileSystem.isFile path) files
  := ⟨files.isFile path, fun dirs => ⟨dirs, rfl, Alike.refl dirs⟩⟩

theorem steady_read (path : String) :
  Steady (FileSystem.read path) files
  := ⟨files.read path, fun dirs => ⟨dirs, rfl, Alike.refl dirs⟩⟩

theorem steady_readLossy (path : String) :
  Steady (FileSystem.readLossy path) files
  := ⟨files.readLossy path, fun dirs => ⟨dirs, rfl, Alike.refl dirs⟩⟩

theorem steady_makeFile (path : String) :
  Steady (FileSystem.makeFile path) files
  := ⟨(), fun dirs => ⟨dirs, rfl, Alike.refl dirs⟩⟩

theorem on_taskDir (path : String) (dirs : TaskDirs) :
  Scene.on (FileSystem.taskDir path) files dirs = (dirs path, dirs)
  := rfl

theorem on_makeDirs (path : String) (dirs : TaskDirs) :
  Scene.on (FileSystem.makeDirs path) files dirs
    = match files.makeDirs path with
      | .ok () => (.ok (), Function.update dirs path (dirs path).made)
      | .error e => (.error e, dirs)
  := by
  have hon : Scene.on (FileSystem.makeDirs path) files dirs
      = Scene.on (match files.makeDirs path with
        | .ok () => do
          modify fun dirs => Function.update dirs path (dirs path).made
          pure (.ok ())
        | .error e => pure (.error e)) files dirs := rfl
  rw [hon]
  cases files.makeDirs path <;> rfl

theorem alike_update_made (dirs : TaskDirs) (path : String) :
  Alike dirs (Function.update dirs path (dirs path).made)
  := by
  intro p
  by_cases hp : p = path
  · subst hp
    simp [TaskDir.made]
  · simp [Function.update_of_ne hp]

theorem steady_makeDirs (path : String) :
  Steady (FileSystem.makeDirs path) files
  := by
  refine ⟨files.makeDirs path, fun dirs => ?_⟩
  rw [on_makeDirs]
  cases files.makeDirs path with
  | ok u => exact ⟨_, rfl, alike_update_made dirs path⟩
  | error e => exact ⟨dirs, rfl, Alike.refl dirs⟩

theorem on_except_bind (x : ExceptT Failure Scene α) (f : α → ExceptT Failure Scene β)
    (dirs : TaskDirs) :
  Scene.on (x >>= f).run files dirs
    = match Scene.on x.run files dirs with
      | (.ok a, dirs') => Scene.on (f a).run files dirs'
      | (.error e, dirs') => (.error e, dirs')
  := by
  rw [ExceptT.run_bind, on_bind]
  obtain ⟨answer, dirs'⟩ := Scene.on x.run files dirs
  cases answer <;> rfl

theorem Steady.except_bind {x : ExceptT Failure Scene α} {f : α → ExceptT Failure Scene β}
    (hx : Steady x.run files) (hf : ∀ a, Steady (f a).run files) :
  Steady (x >>= f).run files
  := by
  rw [ExceptT.run_bind]
  apply hx.bind
  intro answer
  cases answer with
  | ok a => exact hf a
  | error e => exact steady_pure _ files

theorem on_lift (x : Scene α) (dirs : TaskDirs) :
  Scene.on (liftM x : ExceptT Failure Scene α).run files dirs
    = (.ok (Scene.on x files dirs).1, (Scene.on x files dirs).2)
  := rfl

theorem Steady.lift {x : Scene α} (hx : Steady x files) :
  Steady (ExceptT.lift x : ExceptT Failure Scene α).run files
  := Steady.bind hx fun _ => steady_pure _ files

theorem steady_findEnding (path : String) (endings : List (String × SettingsFormat)) :
  Steady (Settings.findEnding path endings) files
  := by
  induction endings with
  | nil => exact steady_pure _ files
  | cons e rest ih =>
    rw [Settings.findEnding]
    apply (steady_isFile _).bind
    intro b
    cases b with
    | true => exact steady_pure _ files
    | false => exact ih

theorem steady_findFile (path : String) :
  Steady (Settings.findFile path) files
  := by
  rw [Settings.findFile]
  apply (steady_isFile _).bind
  intro b
  split
  · exact steady_pure _ files
  · split
    · exact steady_pure _ files
    · apply steady_findEnding

theorem steady_load (env : Environment) (path : Option String) :
  Steady (Settings.load env path) files
  := by
  cases path with
  | none => exact steady_pure _ files
  | some path =>
    apply Steady.bind
    · apply (steady_findFile path).bind
      intro found
      cases found with
      | none => exact steady_pure _ files
      | some found =>
        apply (steady_readLossy _).bind
        intro text
        cases text <;> exact steady_pure _ files
    · intro table
      cases table <;> exact steady_pure _ files

theorem steady_makeDirsFor (doing : String) (cause : FileError → Cause) (path : String) :
  Steady (Program.makeDirs doing cause path).run files
  := by
  apply (Steady.lift (steady_makeDirs path)).except_bind
  intro answer
  cases answer <;> exact steady_pure _ files

theorem on_makeDirsFor (doing : String) (cause : FileError → Cause) (path : String)
    (dirs : TaskDirs) :
  Scene.on (Program.makeDirs doing cause path).run files dirs
    = match files.makeDirs path with
      | .ok () => (.ok (), Function.update dirs path (dirs path).made)
      | .error e => (.error ((Failure.of (cause e)).within doing), dirs)
  := by
  rw [Program.makeDirs, on_except_bind, on_lift, on_makeDirs]
  cases files.makeDirs path <;> rfl

theorem steady_openLog (i : Invocation) :
  Steady (Program.openLog i).run files
  := by
  rw [Program.openLog]
  split
  · exact steady_pure _ files
  · dsimp only
    cases i.logFile with
    | none => exact steady_pure _ files
    | some path =>
      dsimp only
      split
      · exact steady_pure _ files
      · apply (steady_makeDirsFor _ _ _).except_bind
        intro _
        apply (steady_makeFile _).lift

theorem steady_loadSettings (env : Environment) (path : Option String) :
  Steady (Program.loadSettings env path).run files
  := by
  apply (Steady.lift (steady_load env path)).except_bind
  intro answer
  cases answer <;> exact steady_pure _ files

theorem steady_loadCatalog (s : Settings) :
  Steady (Program.loadCatalog s).run files
  := by
  apply Steady.except_bind
  · show Steady (catalogDefinition s) files
    rw [catalogDefinition]
    split
    · exact steady_pure _ files
    · apply (steady_read _).bind
      intro text
      split <;> exact steady_pure _ files
  · intro definition
    split <;> exact steady_pure _ files

end

/-! ### Runs -/

namespace Program

/-- What the program finds before it looks at the tasks: the settings, the catalog, and the path of
the directory of the task file. -/
structure Premises where
  settings : Settings
  catalog : Catalog
  path : String

variable {m : Type → Type} [Monad m] [FileSystem m]

/-- What the program does before it opens the tasks. -/
def prepare (around : Surroundings) (i : Invocation) : ExceptT Failure m Premises := do
  openLog i
  let settings ← loadSettings around.environment i.settingsPath
  let catalog ← loadCatalog settings
  let dataDir := settings.dataDir around.environment around.accountHome
  pure ⟨settings, catalog, Path.join dataDir settings.project.name⟩

/-- The desk of a command that was found something for. -/
def Premises.desk (found : Premises) (around : Surroundings) (manager : Manager) (dir : TaskDir) :
    Desk :=
  ⟨found.settings, found.catalog, manager, dir, around.now, around.freshId⟩

theorem invoke_eq [LawfulMonad m] (around : Surroundings) (i : Invocation) :
  invoke (m := m) around i
    = (do
      let found ← prepare around i
      let opened ← openTasks found.settings.project.name found.path
      let done := i.command.perform.run.run (found.desk around opened.1 opened.2)
      (FileSystem.keepTaskDir found.path done.2.dir : m Unit)
      ExceptT.mk (pure done.1))
  := by
  simp only [invoke, prepare, bind_assoc, pure_bind]
  rfl

theorem steady_prepare (around : Surroundings) (i : Invocation) (files : Files) :
  Steady (prepare (m := Scene) around i).run files
  := by
  apply (steady_openLog i).except_bind
  intro _
  apply (steady_loadSettings _ _).except_bind
  intro settings
  apply (steady_loadCatalog settings).except_bind
  intro catalog
  exact steady_pure _ files

/-- What the program finds among files. -/
def found (files : Files) (around : Surroundings) (i : Invocation) : Except Failure Premises :=
  (Scene.on (prepare around i).run files fun _ => TaskDir.removed).1

theorem on_prepare (files : Files) (around : Surroundings) (i : Invocation) (dirs : TaskDirs) :
  ∃ dirs', Scene.on (prepare around i).run files dirs = (found files around i, dirs')
    ∧ Alike dirs dirs'
  := by
  obtain ⟨answer, hsteady⟩ := steady_prepare around i files
  obtain ⟨_, hfound, -⟩ := hsteady fun _ => TaskDir.removed
  have hanswer : found files around i = answer := by rw [found, hfound]
  rw [hanswer]
  exact hsteady dirs

theorem on_openTasks (project path : String) (files : Files) (dirs : TaskDirs) :
  Scene.on (openTasks project path).run files dirs
    = match files.makeDirs path with
      | .error e => (.error ((Failure.of (.storage (.file e))).within "open task store"), dirs)
      | .ok () =>
        let dir := (dirs path).made
        (match Manager.open? project dir with
          | .ok manager => .ok (manager, dir)
          | .error e => .error ((Failure.of (.manager e)).within "load tasks"),
          Function.update dirs path dir)
  := by
  rw [openTasks, on_except_bind, on_makeDirsFor]
  cases files.makeDirs path with
  | error e => rfl
  | ok u =>
    dsimp only
    rw [on_except_bind, on_lift, on_taskDir, Function.update_self]
    dsimp only
    cases Manager.open? project (dirs path).made <;> rfl

/-- The desk that the program comes to, with the path of the directory of its task file. -/
def opening (files : Files) (dirs : TaskDirs) (around : Surroundings) (i : Invocation) :
    Except Failure (String × Desk) :=
  match found files around i with
  | .error f => .error f
  | .ok p =>
    match files.makeDirs p.path with
    | .error e => .error ((Failure.of (.storage (.file e))).within "open task store")
    | .ok () =>
      let dir := (dirs p.path).made
      match Manager.open? p.settings.project.name dir with
      | .error e => .error ((Failure.of (.manager e)).within "load tasks")
      | .ok manager => .ok (p.path, p.desk around manager dir)

/-- The program fails before its command and has changed no task file, or it does the command at
the desk that it comes to and leaves the directory as the desk has it. -/
theorem on_invoke (files : Files) (dirs : TaskDirs) (around : Surroundings) (i : Invocation) :
  ∃ dirs', Alike dirs dirs'
    ∧ Scene.on (invoke around i).run files dirs
      = match opening files dirs around i with
        | .error f => (.error f, dirs')
        | .ok (path, desk) =>
          let done := i.command.perform.run.run desk
          (done.1, Function.update dirs' path done.2.dir)
  := by
  obtain ⟨dirs', hprepare, halike⟩ := on_prepare files around i dirs
  rw [invoke_eq, on_except_bind, hprepare, opening]
  cases found files around i with
  | error f => exact ⟨dirs', halike, rfl⟩
  | ok p =>
    dsimp only
    rw [on_except_bind, on_openTasks, halike.made]
    cases files.makeDirs p.path with
    | error e => exact ⟨dirs', halike, rfl⟩
    | ok u =>
      have hmade : Alike dirs (Function.update dirs' p.path (dirs p.path).made) := by
        rw [← halike.made]
        exact halike.trans (alike_update_made dirs' p.path)
      refine ⟨_, hmade, ?_⟩
      dsimp only
      cases Manager.open? p.settings.project.name (dirs p.path).made <;> rfl

/-- How a run of the program ends, and what is in the directories afterwards. -/
def runIn (files : Files) (dirs : TaskDirs) (around : Surroundings) (args : List String) :
    Ending × TaskDirs :=
  Scene.on (run around args) files dirs

/-- How a run ends with the answer of its command. -/
def endingOf : Except Failure String → Ending
  | .ok output => .done output
  | .error f => .failed f

/-- A run is over before its command and has changed no task file, or it does the command. -/
theorem runIn_eq (files : Files) (dirs : TaskDirs) (around : Surroundings) (args : List String) :
  ∃ dirs', Alike dirs dirs'
    ∧ runIn files dirs around args
      = match Invocation.read args with
        | .error u => (.usage u, dirs')
        | .ok i =>
          match opening files dirs around i with
          | .error f => (.failed f, dirs')
          | .ok (path, desk) =>
            let done := i.command.perform.run.run desk
            (endingOf done.1, Function.update dirs' path done.2.dir)
  := by
  rw [runIn, run]
  cases Invocation.read args with
  | error u => exact ⟨dirs, Alike.refl dirs, rfl⟩
  | ok i =>
    obtain ⟨dirs', halike, hinvoke⟩ := on_invoke files dirs around i
    refine ⟨dirs', halike, ?_⟩
    dsimp only
    rw [on_bind, hinvoke]
    cases opening files dirs around i with
    | error f => rfl
    | ok opened =>
      dsimp only
      cases (i.command.perform.run.run opened.2).1 <;> rfl

end Program

end CommandLine

end TaskDesk
