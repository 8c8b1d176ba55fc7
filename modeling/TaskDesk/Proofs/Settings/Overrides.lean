import TaskDesk.Settings.Load
import TaskDesk.Proofs.Settings.Spelling

/-!
# Naming the project in the environment

The variable for the name of the project gives the project, where settings can be loaded at all,
the text of the setting that its value is taken for, and leaves all settings outside the project
alone: `load_with_project_name`.  So the project has the value as its name exactly if the value
is in its own spelling.
-/

namespace TaskDesk

open TaskDesk.Text

/-! ### Settings that differ in the name of the project -/

/-- Whether putting a value under a key leaves the name of the project alone. -/
def Key.sparesProjectName (k : Key) : Bool :=
  k.name ≠ "project" || match k.steps with
    | .name n :: _ => n ≠ "name"
    | _ => false

theorem Key.sparesProjectName_iff {k : Key} :
  k.sparesProjectName = true
    ↔ "project" ≠ k.name ∨ ∃ n steps, k = ⟨"project", .name n :: steps⟩ ∧ n ≠ "name"
  := by
  obtain ⟨name, steps⟩ := k
  by_cases hname : name = "project"
  · subst hname
    simp only [sparesProjectName]
    cases steps with
    | nil => simp
    | cons step steps => cases step <;> simp
  · simp [sparesProjectName, hname, Ne.symm hname]

namespace Setting

/-- The fields of the project in a table of settings. -/
def projectFields (s : Setting) : List (String × Setting) :=
  ((Keyed.find? "project" s.fields).getD .absent).fields

/-- Whether two tables of settings have the same fields, but for the name of the project, which
is the given one in the second of them. -/
structure Renamed (name s t : Setting) : Prop where
  left : s = .table s.fields
  right : t = .table t.fields
  other : ∀ n, n ≠ "project" → Keyed.find? n t.fields = Keyed.find? n s.fields
  project : Keyed.find? "project" t.fields = some (.table t.projectFields)
  name : Keyed.find? "name" t.projectFields = some name
  part : ∀ n, n ≠ "name" → Keyed.find? n t.projectFields = Keyed.find? n s.projectFields

theorem find?_fields_put (s : Setting) (n key : String) (value : Setting) :
  Keyed.find? n (s.put key value).fields
    = if n = (Key.ofText key).name then
        some (change (fun old => old.merge value) (Key.ofText key).steps
          ((Keyed.find? (Key.ofText key).name s.fields).getD .absent))
      else Keyed.find? n s.fields
  := Keyed.find?_put ..

/-- A value that is put under a field of the project is put into the fields of the project. -/
theorem projectFields_put (s : Setting) {key : String} (value : Setting) {n : String}
    {steps : List KeyStep} (hkey : Key.ofText key = ⟨"project", .name n :: steps⟩) :
  (s.put key value).projectFields
    = Keyed.put n (change (fun old => old.merge value) steps
        ((Keyed.find? n s.projectFields).getD .absent)) s.projectFields
  := by
  rw [projectFields, find?_fields_put, hkey, if_pos rfl]
  rfl

theorem find?_project_put (s : Setting) {key : String} (value : Setting) {n : String}
    {steps : List KeyStep} (hkey : Key.ofText key = ⟨"project", .name n :: steps⟩) :
  Keyed.find? "project" (s.put key value).fields = some (.table (s.put key value).projectFields)
  := by
  rw [projectFields_put s value hkey, find?_fields_put, hkey, if_pos rfl]
  rfl

theorem projectFields_put_of_ne (s : Setting) {key : String} (value : Setting)
    (hkey : "project" ≠ (Key.ofText key).name) :
  (s.put key value).projectFields = s.projectFields
  := by
  rw [projectFields, find?_fields_put, if_neg hkey]
  rfl

variable {name s t : Setting}

/-- Putting a name in renames the project. -/
theorem renamed_put (hs : s = .table s.fields) (hname : ∀ old : Setting, old.merge name = name) :
  Renamed name s (s.put "project.name" name)
  := by
  have hkey : Key.ofText "project.name" = ⟨"project", [.name "name"]⟩ := by decide
  have hfields : (s.put "project.name" name).projectFields
      = Keyed.put "name" name s.projectFields := by
    rw [projectFields_put s name hkey, change, hname]
  refine ⟨hs, rfl, ?_, find?_project_put s name hkey, ?_, ?_⟩
  · intro n hn
    rw [find?_fields_put, hkey, if_neg hn]
  · rw [hfields, Keyed.find?_put, if_pos rfl]
  · intro n hn
    rw [hfields, Keyed.find?_put, if_neg hn]

/-- Other values that are put in later leave the project renamed. -/
theorem Renamed.put (h : Renamed name s t) {key : String} (value : Setting)
    (hkey : (Key.ofText key).sparesProjectName = true) :
  Renamed name (s.put key value) (t.put key value)
  := by
  obtain hproject | ⟨n, steps, hk, hn⟩ := Key.sparesProjectName_iff.mp hkey
  · have hs := projectFields_put_of_ne s value hproject
    have ht := projectFields_put_of_ne t value hproject
    refine ⟨rfl, rfl, ?_, ?_, ?_, ?_⟩
    · intro m hm
      rw [find?_fields_put, find?_fields_put, h.other _ (Ne.symm hproject), h.other m hm]
    · rw [find?_fields_put, if_neg hproject, ht, h.project]
    · rw [ht, h.name]
    · intro m hm
      rw [hs, ht, h.part m hm]
  · refine ⟨rfl, rfl, ?_, find?_project_put t value hk, ?_, ?_⟩
    · intro m hm
      rw [find?_fields_put, find?_fields_put, hk, if_neg hm, if_neg hm, h.other m hm]
    · rw [projectFields_put t value hk, Keyed.find?_put, if_neg (Ne.symm hn), h.name]
    · intro m hm
      rw [projectFields_put t value hk, projectFields_put s value hk, Keyed.find?_put,
        Keyed.find?_put, h.part n hn, h.part m hm]

theorem Renamed.putAll (h : Renamed name s t) {values : List (String × Setting)}
    (hvalues : ∀ e ∈ values, (Key.ofText e.1).sparesProjectName = true) :
  Renamed name (s.putAll values) (t.putAll values)
  := by
  induction values generalizing s t with
  | nil => exact h
  | cons e rest ih =>
    rw [List.forall_mem_cons] at hvalues
    exact ih (h.put e.2 hvalues.1) hvalues.2

/-- Values that are put into a table leave a table. -/
theorem putAll_eq_table (fs : List (String × Setting)) (values : List (String × Setting)) :
  (table fs).putAll values = .table ((table fs).putAll values).fields
  := by
  induction values generalizing fs with
  | nil => rfl
  | cons e rest ih => exact ih _

theorem putAll_append (s : Setting) (values later : List (String × Setting)) :
  s.putAll (values ++ later) = (s.putAll values).putAll later
  := List.foldl_append

end Setting

/-! ### The variables -/

theorem Environment.settings_append (before after : Environment) :
  settings (before ++ after) = before.settings ++ after.settings
  := List.filterMap_append

theorem Environment.settings_cons_of_some {key n : String} (h : settingName? key = some n)
    (value : String) (env : Environment) :
  settings ((key, value) :: env) = (n, settingOf value) :: env.settings
  := by
  simp [settings, h]

theorem Environment.merge_settingOf (old : Setting) (v : String) :
  old.merge (settingOf v) = settingOf v
  := by
  obtain ⟨-, h⟩ | ⟨-, h⟩ | ⟨-, -, ⟨i, -, h⟩ | ⟨-, ⟨d, -, h⟩ | ⟨-, h⟩⟩⟩ := settingOf_cases v <;>
    rw [h, Setting.merge] <;> rintro _ ⟨⟩

/-! ### What is read -/

/-- If a project can be read with another name, it can be read with the name that it got. -/
theorem ProjectSettings.exists_ofSetting?_of_renamed {name s t : Setting} {n : String}
    (h : Setting.Renamed name s t) (hname : name.text? = some n) {p : ProjectSettings}
    (hp : Setting.orElse Settings.standard.project ofSetting? (Keyed.find? "project" s.fields)
      = some p) :
  ∃ q, ofSetting? (.table t.projectFields) = some q ∧ q.name = n
  := by
  have hparts : ∃ sources objects delay,
      Setting.orElse [] (Setting.list? DataSource.ofSetting?)
          (Keyed.find? "data_sources" s.projectFields) = some sources
        ∧ Setting.orElse [] (Setting.list? BoundObject.ofSetting?)
          (Keyed.find? "objects" s.projectFields) = some objects
        ∧ Setting.orElse 0 Setting.word? (Keyed.find? "connect_delay_ms" s.projectFields)
          = some delay := by
    rw [Setting.projectFields]
    cases hproject : Keyed.find? "project" s.fields with
    | none => exact ⟨_, _, _, rfl, rfl, rfl⟩
    | some project =>
      rw [hproject] at hp
      cases project with
      | table fs =>
        simp only [Setting.orElse, ofSetting?, Setting.shape?, List.map_cons, List.map_nil,
          Option.bind_eq_bind, Option.bind_eq_some_iff] at hp
        obtain ⟨_, -, sources, hsources, objects, hobjects, delay, hdelay, -⟩ := hp
        exact ⟨sources, objects, delay, hsources, hobjects, hdelay⟩
      | list items => exact ⟨_, _, _, rfl, rfl, rfl⟩
      | _ => cases hp
  obtain ⟨sources, objects, delay, hsources, hobjects, hdelay⟩ := hparts
  rw [← h.part _ (by decide)] at hsources hobjects hdelay
  have hn : Setting.orElse "General" Setting.text? (Keyed.find? "name" t.projectFields)
      = some n := by
    rw [h.name]
    exact hname
  refine ⟨⟨n, sources, objects, delay⟩, ?_, rfl⟩
  simp only [ofSetting?, Setting.shape?, List.map_cons, List.map_nil, hn, hsources, hobjects,
    hdelay]
  rfl

/-- If settings can be read, they can be read with the project renamed. -/
theorem Settings.exists_ofSetting?_of_renamed {name s t : Setting} {n : String}
    (h : Setting.Renamed name s t) (hname : name.text? = some n) {s₀ : Settings}
    (hs : ofSetting? s = some s₀) :
  ∃ p : ProjectSettings, p.name = n ∧ ofSetting? t = some { s₀ with project := p }
  := by
  rw [h.left] at hs
  rw [h.right]
  simp only [ofSetting?, Setting.shape?, List.map_cons, List.map_nil, Option.bind_eq_bind,
    Option.bind_eq_some_iff, Option.some.injEq] at hs ⊢
  obtain ⟨wizard, hwizard, poll, hpoll, storage, hstorage, catalogPath, hcatalog, project,
    hproject, rfl⟩ := hs
  obtain ⟨q, hq, hqn⟩ := ProjectSettings.exists_ofSetting?_of_renamed h hname hproject
  rw [← h.other _ (by decide)] at hwizard hpoll hstorage hcatalog
  refine ⟨q, hqn, wizard, hwizard, poll, hpoll, storage, hstorage, catalogPath, hcatalog, q, ?_,
    rfl⟩
  rw [h.project]
  exact hq

/-! ### Loading -/

namespace Settings

/-- Whether the variables leave the name of the project alone. -/
def SparesProjectName (env : Environment) : Prop :=
  ∀ e ∈ env.settings, (Key.ofText e.1).sparesProjectName = true

/-- All settings are put together from the file and the environment. -/
theorem combine_eq_ok_iff {file : Option (List (String × Setting))} {env : Environment}
    {s : Settings} :
  combine file env = .ok s
    ↔ ofSetting? ((Setting.table []).putAll (file.getD [] ++ env.settings)) = some s
  := by
  rw [combine, Setting.putAll_append]
  cases ofSetting? (((Setting.table []).putAll (file.getD [])).putAll env.settings) <;> simp

/-- Naming the project in the environment renames the project that is read without that. -/
theorem combine_with_project_name {file : Option (List (String × Setting))}
    {before after : Environment} (hafter : SparesProjectName after) (v : String) {s₀ : Settings}
    (h : combine file (before ++ after) = .ok s₀) :
  ∃ p : ProjectSettings, (Environment.settingOf v).text? = some p.name
    ∧ combine file (before ++ ("DBTASK__PROJECT__NAME", v) :: after)
      = .ok { s₀ with project := p }
  := by
  have hvariable : Environment.settingName? "DBTASK__PROJECT__NAME" = some "project.name" := by
    decide
  obtain ⟨n, hn⟩ := Environment.exists_text?_settingOf v
  have hrenamed := Setting.renamed_put
    (Setting.putAll_eq_table [] (file.getD [] ++ before.settings))
    (fun old => Environment.merge_settingOf old v)
  rw [combine_eq_ok_iff, Environment.settings_append, ← List.append_assoc,
    Setting.putAll_append] at h
  obtain ⟨p, rfl, hp⟩ := exists_ofSetting?_of_renamed (hrenamed.putAll hafter) hn h
  refine ⟨p, hn, ?_⟩
  rw [combine_eq_ok_iff, Environment.settings_append,
    Environment.settings_cons_of_some hvariable, ← List.append_assoc, Setting.putAll_append]
  exact hp

/-- Whether there is a file, and what is in it, does not depend on the environment. -/
theorem load_cases (path : Option String) (disk : Disk) :
  (∃ e, ∀ env, ((load env path : StateM Disk _).run disk).1 = .error e)
    ∨ ∃ file, ∀ env, ((load env path : StateM Disk _).run disk).1 = combine file env
  := by
  cases path with
  | none => exact .inr ⟨none, fun _ => rfl⟩
  | some path =>
    have hload : ∀ env, ((load env (some path) : StateM Disk _).run disk).1
        = ((fileTable path : StateM Disk _).run disk).1.elim (.error (.unreadable path))
            fun file => combine (some file) env := by
      intro env
      rw [load, StateT.run_bind]
      generalize (fileTable path : StateM Disk _).run disk = answer
      obtain ⟨table, disk⟩ := answer
      cases table <;> rfl
    cases h : ((fileTable path : StateM Disk _).run disk).1 with
    | none => exact .inl ⟨.unreadable path, fun env => by rw [hload, h, Option.elim_none]⟩
    | some file => exact .inr ⟨some file, fun env => by rw [hload, h, Option.elim_some]⟩

/-- Where settings can be loaded, naming the project in the environment gives it the text of the
setting that the value is taken for as its name, and changes no settings outside the project.
This name is the value exactly if the value is in its own spelling. -/
theorem load_with_project_name {before after : Environment} (hafter : SparesProjectName after)
    {path : Option String} {disk : Disk} {s₀ : Settings}
    (h : ((load (before ++ after) path : StateM Disk _).run disk).1 = .ok s₀) (v : String) :
  ∃ s : Settings,
    ((load (before ++ ("DBTASK__PROJECT__NAME", v) :: after) path : StateM Disk _).run disk).1
        = .ok s
      ∧ s = { s₀ with project := s.project }
      ∧ (Environment.settingOf v).text? = some s.project.name
      ∧ (s.project.name = v ↔ Environment.OwnSpelling v)
  := by
  obtain ⟨e, hload⟩ | ⟨file, hload⟩ := load_cases path disk
  · rw [hload] at h
    cases h
  · rw [hload] at h
    obtain ⟨p, hname, hcombine⟩ := combine_with_project_name hafter v h
    refine ⟨{ s₀ with project := p }, (hload _).trans hcombine, rfl, hname, ?_⟩
    rw [← Environment.text?_settingOf_iff, hname, Option.some_inj]

/-- A file names the project, other variables set the polls and the delay of the project. -/
theorem load_with_project_name_instance :
  ∃ s : Settings,
    ((load [("DBTASK__POLLER__INTERVAL_MS", "250"), ("DBTASK__PROJECT__NAME", "007"),
        ("DBTASK__PROJECT__CONNECT_DELAY_MS", "5")] (some "engine.ini") : StateM Disk _).run
          ⟨[], [(["engine.ini"], .text "[project]\nname=A\n")]⟩).1 = .ok s
      ∧ s.poll.interval = 250 ∧ s.project.name = "7"
  := by
  have hafter : SparesProjectName [("DBTASK__PROJECT__CONNECT_DELAY_MS", "5")] := by
    rw [SparesProjectName]
    decide +kernel
  have hload : ((load ([("DBTASK__POLLER__INTERVAL_MS", "250")]
      ++ [("DBTASK__PROJECT__CONNECT_DELAY_MS", "5")]) (some "engine.ini") : StateM Disk _).run
        ⟨[], [(["engine.ini"], .text "[project]\nname=A\n")]⟩).1
      = .ok ⟨⟨true, 3600⟩, ⟨250, none⟩, none, none, ⟨"A", [], [], 5⟩⟩ := by
    decide +kernel
  have htext : (Environment.settingOf "007").text? = some "7" := by decide +kernel
  obtain ⟨s, hs, hframe, hname, -⟩ := load_with_project_name hafter hload "007"
  refine ⟨s, hs, by rw [hframe], ?_⟩
  exact Option.some.inj (hname.symm.trans htext)

end Settings

end TaskDesk
