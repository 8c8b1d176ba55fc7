import TaskDesk.Proofs.CommandLine.Work

/-!
# The kinds of targets

A resolver looks for the first object of its kind, but the id that is stored is looked up among all
objects, and so is the id that a command is given.  A `Binding.State` is a binding beside the
settings of a task, and its turns are to load, to save, to bind the task by a command, and to start
with a new binding.  Objects of other kinds come up in some course of turns exactly if there is an
id that leads to one: an id that is stored at the start, one that a command is given, or that of the
first object of the kind, which another object may have, too: `Resolver.kind_iff`.
-/

namespace TaskDesk

theorem ObjectIndex.id_of_find? {index : ObjectIndex} {id : String} {o : BoundObject}
    (h : index.find? id = .ok (some o)) :
  o.id = id
  := by
  rw [find?] at h
  split at h
  · cases h
  · split at h
    · cases h
    · simpa using List.find?_some (Except.ok.inj h)

namespace Resolver

variable {r : Resolver} {index : ObjectIndex} {settings : Properties} {o : BoundObject}

/-- Whether an id leads to objects of the kind only. -/
def Trusts (r : Resolver) (index : ObjectIndex) (id : String) : Prop :=
  ∀ o, index.find? id = .ok (some o) → o.kind = r.kind

/-- The object that a task with the given settings is bound to by a command: the one of the id that
is given, or the one that is loaded. -/
def bindTo (r : Resolver) (index : ObjectIndex) (settings : Properties) :
    Option String → Option BoundObject
  | some id => (index.find? id).toOption.join
  | none =>
    match (r.load index settings none).2 with
    | .ok (.resolved o) => some o
    | _ => none

theorem storedId?_insert (r : Resolver) (settings : Properties) (id : String) :
  r.storedId? (settings.insert r.key (.str id)) = (some id).filter fun id => id ≠ ""
  := by
  rw [storedId?, Properties.text?, Properties.get?_insert, if_pos rfl]
  rfl

theorem kind_of_scan (h : r.scan index = some o) :
  o.kind = r.kind
  := by
  simpa using List.find?_some h

/-- An object that is loaded is that of the stored id, or the first of the kind. -/
theorem load_resolved {cancelTime : Option Nat}
    (h : (r.load index settings cancelTime).2 = .ok (.resolved o)) :
  (∃ id, r.storedId? settings = some id ∧ index.find? id = .ok (some o))
    ∨ r.scan index = some o
  := by
  rw [load] at h
  split at h
  · right
    split at h
    · next hscan =>
      cases h
      exact hscan
    · cases h
  · next id hstored =>
    left
    refine ⟨id, hstored, ?_⟩
    grind

/-- What is stored is looked up. -/
theorem load_of_find? {id : String} (hstored : r.storedId? settings = some id)
    (hfind : index.find? id = .ok (some o)) :
  (r.load index settings none).2 = .ok (.resolved o)
  := by
  rw [load, hstored]
  dsimp only
  rw [hfind]

theorem load_ne_cancelled :
  (r.load index settings none).2 ≠ .ok .cancelled
  := by
  rw [load]
  grind

theorem bindTo_eq_some {target : Option String} (h : r.bindTo index settings target = some o) :
  (∃ id, target = some id ∧ index.find? id = .ok (some o))
    ∨ (∃ id, r.storedId? settings = some id ∧ index.find? id = .ok (some o))
    ∨ r.scan index = some o
  := by
  cases target with
  | some id =>
    left
    refine ⟨id, rfl, ?_⟩
    rw [bindTo] at h
    cases hfind : index.find? id with
    | error e =>
      rw [hfind] at h
      cases h
    | ok found =>
      rw [hfind] at h
      exact congrArg Except.ok h
  | none =>
    right
    rw [bindTo] at h
    split at h
    · next hload =>
      cases h
      exact load_resolved hload
    · cases h

end Resolver

/-! ### Courses -/

namespace Binding

/-- What is done with a binding and the settings of a task. -/
inductive Turn where
  | load (cancelTime : Option Nat)
  | save
  | bind (target : Option String)
  | renew

/-- A binding beside the settings of a task. -/
structure State where
  binding : Binding
  settings : Properties

namespace State

variable {r : Resolver} {index : ObjectIndex} {s : State}

/-- Nothing is bound yet. -/
def start (r : Resolver) (settings : Properties) : State :=
  ⟨Binding.new r, settings⟩

/-- The state after a turn and the object that the turn comes to.  A command does not use the
binding but one of its own. -/
def turn (index : ObjectIndex) (s : State) : Turn → State × Option BoundObject
  | .load cancelTime =>
    let (binding, _, answer) := s.binding.load index s.settings cancelTime
    (⟨binding, s.settings⟩, answer.toOption.join)
  | .save =>
    let (binding, settings) := s.binding.save index s.settings
    (⟨binding, settings⟩, binding.target)
  | .bind target =>
    match s.binding.resolver.bindTo index s.settings target with
    | none => (s, none)
    | some o =>
      let bound := (Binding.new s.binding.resolver).setTarget (some o)
      (⟨s.binding, (bound.save index s.settings).2⟩, some o)
  | .renew => (⟨Binding.new s.binding.resolver, s.settings⟩, none)

/-- The objects that turns come to, in order. -/
def objects (index : ObjectIndex) (s : State) : List Turn → List BoundObject
  | [] => []
  | t :: rest => (s.turn index t).2.toList ++ (s.turn index t).1.objects index rest

/-- What is bound is of the kind, and no id that is stored or that a save would store leads to
another kind. -/
structure Sound (r : Resolver) (index : ObjectIndex) (s : State) : Prop where
  resolver : s.binding.resolver = r
  stored : ∀ id, r.storedId? s.settings = some id → r.Trusts index id
  kind : ∀ o, s.binding.target = some o → o.kind = r.kind
  target : ∀ o, s.binding.target = some o → r.Trusts index o.id

theorem Sound.bound (h : s.Sound r index) {o : BoundObject} (hkind : o.kind = r.kind)
    (htrusts : r.Trusts index o.id) :
  Sound r index ⟨s.binding.setTarget (some o), s.settings⟩
  where
  resolver := h.resolver
  stored := h.stored
  kind := by
    rintro _ ⟨⟩
    exact hkind
  target := by
    rintro _ ⟨⟩
    exact htrusts

/-- Settings in which the id of an object was stored lead to where that leads. -/
theorem trusts_of_insert {settings : Properties} {target : Option BoundObject}
    (h : ∀ o, target = some o → r.Trusts index o.id) {id : String}
    (hid : r.storedId? (settings.insert r.key (.str ((target.map BoundObject.id).getD "")))
      = some id) :
  r.Trusts index id
  := by
  rw [Resolver.storedId?_insert, Option.filter_eq_some_iff] at hid
  obtain ⟨hid, hne⟩ := hid
  obtain rfl := Option.some.inj hid
  cases target with
  | none => exact absurd rfl (of_decide_eq_true hne)
  | some o => exact h o rfl

/-- What is loaded or given is of the kind and leads to that kind, if the ids do that lead to it. -/
theorem trusts_of_found (hscan : ∀ o, r.scan index = some o → r.Trusts index o.id)
    {o : BoundObject} (h : (∃ id, r.Trusts index id ∧ index.find? id = .ok (some o))
      ∨ r.scan index = some o) :
  o.kind = r.kind ∧ r.Trusts index o.id
  := by
  obtain ⟨id, hid, hfind⟩ | hfirst := h
  · rw [ObjectIndex.id_of_find? hfind]
    exact ⟨hid o hfind, hid⟩
  · exact ⟨Resolver.kind_of_scan hfirst, hscan o hfirst⟩

theorem Sound.of_load (h : s.Sound r index) (hscan : ∀ o, r.scan index = some o → r.Trusts index o.id)
    {cancelTime : Option Nat} {o : BoundObject}
    (hload : (r.load index s.settings cancelTime).2 = .ok (.resolved o)) :
  o.kind = r.kind ∧ r.Trusts index o.id
  := by
  apply trusts_of_found hscan
  obtain ⟨id, hid, hfind⟩ | hfirst := Resolver.load_resolved hload
  · exact .inl ⟨id, h.stored id hid, hfind⟩
  · exact .inr hfirst

/-- What is saved is what is bound, or the first object of the kind. -/
theorem Sound.of_save (h : s.Sound r index) (hscan : ∀ o, r.scan index = some o → r.Trusts index o.id)
    {o : BoundObject} (ho : (s.binding.target.orElse fun _ => r.scan index) = some o) :
  o.kind = r.kind ∧ r.Trusts index o.id
  := by
  cases htarget : s.binding.target with
  | none =>
    rw [htarget] at ho
    exact trusts_of_found hscan (.inr ho)
  | some o' =>
    rw [htarget] at ho
    obtain rfl := Option.some.inj ho
    exact ⟨h.kind _ htarget, h.target _ htarget⟩

theorem Sound.of_bindTo (h : s.Sound r index)
    (hscan : ∀ o, r.scan index = some o → r.Trusts index o.id) {target : Option String}
    (hgiven : ∀ id, target = some id → r.Trusts index id) {o : BoundObject}
    (hbound : r.bindTo index s.settings target = some o) :
  o.kind = r.kind ∧ r.Trusts index o.id
  := by
  apply trusts_of_found hscan
  obtain ⟨id, hid, hfind⟩ | ⟨id, hid, hfind⟩ | hfirst := Resolver.bindTo_eq_some hbound
  · exact .inl ⟨id, hgiven id hid, hfind⟩
  · exact .inl ⟨id, h.stored id hid, hfind⟩
  · exact .inr hfirst

/-- A turn comes to an object of the kind and keeps the state sound, if the ids that are given and
that of the first object of the kind lead to the kind. -/
theorem Sound.turn (h : s.Sound r index) (hscan : ∀ o, r.scan index = some o → r.Trusts index o.id)
    (t : Turn) (hgiven : ∀ id, t = .bind (some id) → r.Trusts index id) :
  (s.turn index t).1.Sound r index ∧ ∀ o, (s.turn index t).2 = some o → o.kind = r.kind
  := by
  obtain ⟨⟨r', target⟩, settings⟩ := s
  obtain rfl : r' = r := h.resolver
  cases t with
  | load cancelTime =>
    rw [State.turn, Binding.load]
    dsimp only
    have hresolved : ∀ o, (r'.load index settings cancelTime).2 = .ok (.resolved o) →
        o.kind = r'.kind ∧ r'.Trusts index o.id := fun o => h.of_load hscan
    generalize r'.load index settings cancelTime = loaded at hresolved ⊢
    match loaded with
    | (_, .ok (.resolved o)) =>
      obtain ⟨hkind, htrusts⟩ := hresolved o rfl
      refine ⟨h.bound hkind htrusts, ?_⟩
      rintro _ ⟨⟩
      exact hkind
    | (_, .ok .cancelled) => exact ⟨h, h.kind⟩
    | (_, .error e) =>
      refine ⟨h, ?_⟩
      rintro _ ⟨⟩
  | save =>
    have htarget : ∀ o, (target.orElse fun _ => r'.scan index) = some o →
        o.kind = r'.kind ∧ r'.Trusts index o.id := fun o => h.of_save hscan
    refine ⟨⟨rfl, ?_, fun o ho => (htarget o ho).1, fun o ho => (htarget o ho).2⟩,
      fun o ho => (htarget o ho).1⟩
    exact fun id hid => trusts_of_insert (fun o ho => (htarget o ho).2) hid
  | bind target' =>
    rw [State.turn]
    dsimp only
    cases hbound : r'.bindTo index settings target' with
    | none =>
      refine ⟨h, ?_⟩
      rintro _ ⟨⟩
    | some o =>
      obtain ⟨hkind, htrusts⟩ := h.of_bindTo hscan (fun id hid => hgiven id (hid ▸ rfl)) hbound
      refine ⟨⟨rfl, ?_, h.kind, h.target⟩, ?_⟩
      · have hsaved : ∀ o', some o = some o' → r'.Trusts index o'.id := by
          rintro _ ⟨⟩
          exact htrusts
        exact fun id hid => trusts_of_insert hsaved hid
      · rintro _ ⟨⟩
        exact hkind
  | renew =>
    refine ⟨⟨rfl, h.stored, ?_, ?_⟩, ?_⟩ <;> rintro _ ⟨⟩

/-- So does a course of turns. -/
theorem Sound.objects (h : s.Sound r index)
    (hscan : ∀ o, r.scan index = some o → r.Trusts index o.id) {turns : List Turn}
    (hgiven : ∀ id, .bind (some id) ∈ turns → r.Trusts index id) :
  ∀ o ∈ s.objects index turns, o.kind = r.kind
  := by
  induction turns generalizing s with
  | nil => simp [State.objects]
  | cons t rest ih =>
    obtain ⟨hnext, hkind⟩ := h.turn hscan t fun id ht => hgiven id (ht ▸ List.mem_cons_self)
    intro o ho
    rw [State.objects, List.mem_append, Option.mem_toList] at ho
    obtain ho | ho := ho
    · exact hkind o ho
    · exact ih hnext (fun id hid => hgiven id (List.mem_cons_of_mem t hid)) o ho

theorem turn_load {o : BoundObject}
    (h : (s.binding.resolver.load index s.settings none).2 = .ok (.resolved o)) :
  (s.turn index (.load none)).2 = some o
  := by
  rw [State.turn, Binding.load]
  generalize s.binding.resolver.load index s.settings none = loaded at h
  obtain ⟨time, answer⟩ := loaded
  cases h
  rfl

/-- An object that the id leads to which a save of a new binding stores is loaded next. -/
theorem mem_objects_of_scan {settings : Properties} {first o : BoundObject}
    (hscan : r.scan index = some first) (hfind : index.find? first.id = .ok (some o)) :
  o ∈ (start r settings).objects index [.save, .load none]
  := by
  have hsave : (start r settings).turn index .save
      = (⟨(Binding.new r).setTarget (some first), settings.insert r.key (.str first.id)⟩,
        some first) := by
    simp [turn, start, Binding.save, Resolver.save, Binding.new, Binding.setTarget, hscan]
  have hne : first.id ≠ "" := by
    intro hid
    rw [hid, ObjectIndex.find?] at hfind
    split at hfind
    · cases hfind
    · rw [if_pos (by decide)] at hfind
      cases hfind
  have hstored : r.storedId? (settings.insert r.key (.str first.id)) = some first.id := by
    rw [Resolver.storedId?_insert, Option.filter_eq_some_iff]
    exact ⟨rfl, decide_eq_true hne⟩
  have hload := turn_load (s := ⟨(Binding.new r).setTarget (some first),
    settings.insert r.key (.str first.id)⟩) (Resolver.load_of_find? hstored hfind)
  rw [objects, hsave, objects, hload]
  simp

end State

end Binding

/-- All courses of turns on the settings of a task, with ids from a set given to commands, come to
objects of the kind alone exactly if no id that is stored or given, nor that of the first object of
the kind, leads to an object of another kind. -/
theorem Resolver.kind_iff (r : Resolver) (index : ObjectIndex) (settings : Properties)
    (given : String → Prop) :
  (∀ turns, (∀ id, .bind (some id) ∈ turns → given id) →
      ∀ o ∈ (Binding.State.start r settings).objects index turns, o.kind = r.kind)
    ↔ ∀ id, (r.storedId? settings = some id ∨ given id
        ∨ ∃ first, r.scan index = some first ∧ first.id = id) → r.Trusts index id
  := by
  constructor
  · -- There is a course in which the id is looked up.
    rintro hall id (hstored | hid | ⟨first, hscan, rfl⟩) o hfind
    · apply hall [.load none] (by simp)
      rw [Binding.State.objects, Binding.State.turn_load (load_of_find? hstored hfind)]
      simp
    · apply hall [.bind (some id)] (by simpa using hid)
      simp [Binding.State.objects, Binding.State.turn, Binding.State.start, bindTo, hfind,
        Except.toOption]
    · exact hall [.save, .load none] (by simp) o (Binding.State.mem_objects_of_scan hscan hfind)
  · intro htrusts turns hgiven
    have hsound : (Binding.State.start r settings).Sound r index := by
      refine ⟨rfl, fun id hid => htrusts id (.inl hid), ?_, ?_⟩ <;> rintro _ ⟨⟩
    apply hsound.objects
    · exact fun o ho => htrusts o.id (.inr (.inr ⟨o, ho, rfl⟩))
    · exact fun id hid => htrusts id (.inr (.inl (hgiven id hid)))

/-! ### The command -/

namespace CommandLine

variable {d d' : Desk}

/-- What a command binds a task to is looked up and nothing is changed. -/
theorem run_targetFor_of_ok {r : Record} {target : Option String} {found : Option BoundObject}
    (h : (targetFor r target).run.run d = (.ok found, d')) :
  d' = d ∧ ∃ o, found = some o
    ∧ Resolver.scriptDatabase.bindTo d.index r.properties target = some o
  := by
  obtain ⟨_, _, hget, h⟩ := run_bind_eq_ok h
  rw [run_get] at hget
  cases hget
  cases target with
  | some id =>
    obtain ⟨o', d₁, hcheck, h⟩ := run_bind_eq_ok h
    obtain ⟨o, d₂, hneed, h⟩ := run_bind_eq_ok h
    rw [run_check] at hcheck
    rw [run_need] at hneed
    cases h
    cases hfind : d.index.find? id with
    | error e =>
      rw [hfind] at hcheck
      cases hcheck
    | ok found =>
      rw [hfind] at hcheck
      cases hcheck
      cases o' with
      | none => cases hneed
      | some o' =>
        cases hneed
        refine ⟨rfl, o, rfl, ?_⟩
        rw [Resolver.bindTo, hfind]
        rfl
  | none =>
    rw [Resolver.bindTo]
    dsimp only at h
    split at h
    · next o hload =>
      cases h
      exact ⟨rfl, o, rfl, by rw [hload]⟩
    · next hload => exact absurd hload Resolver.load_ne_cancelled
    · cases h

/-- A command that binds a task comes to the object of that turn and leaves the settings of that
turn in the task. -/
theorem bindTask_of_ok {name : String} {target : Option String} {output : String}
    (h : (bindTask name target).run.run d = (.ok output, d')) :
  ∃ r o q, d.manager.tasks.taskNamed? name = some r
    ∧ output = line ("task '" ++ r.name ++ "' bound to " ++ o.name ++ " (" ++ o.id ++ ")")
    ∧ d'.manager.tasks.task? r.id = some q
    ∧ (Binding.State.start .scriptDatabase r.properties).turn d.index (.bind target)
      = (.start .scriptDatabase q.properties, some o)
  := by
  obtain ⟨r, d₁, hfound, h⟩ := run_bind_eq_ok h
  rw [run_findTask] at hfound
  cases hnamed : d.manager.tasks.taskNamed? name with
  | none =>
    rw [hnamed] at hfound
    cases hfound
  | some r' =>
    rw [hnamed] at hfound
    cases hfound
    obtain ⟨found, d₂, htarget, h⟩ := run_bind_eq_ok h
    obtain ⟨rfl, o, rfl, ho⟩ := run_targetFor_of_ok htarget
    obtain ⟨_, _, hget, h⟩ := run_bind_eq_ok h
    rw [run_get] at hget
    cases hget
    obtain ⟨_, d₃, hchange, h⟩ := run_bind_eq_ok h
    cases h
    obtain ⟨c, hc, rfl, hmanager⟩ := run_change_of_ok hchange
    obtain ⟨current, -, hvalue, -, -, htasks, -⟩ := Tasks.updateTask_eq_ok.mp hc
    refine ⟨r, o, c.value, rfl, rfl, ?_, ?_⟩
    · rw [hmanager, htasks]
      simp
    · have hproperties : c.value.properties
          = r.properties.insert Resolver.scriptDatabase.key (.str o.id) := by
        rw [hvalue, Tasks.revised]
        split <;> rfl
      rw [Binding.State.turn, Binding.State.start, Binding.State.start, hproperties]
      dsimp only [Binding.new]
      rw [ho]
      rfl

/-- Objects of another kind come up in some course exactly if an id leads to one that is stored,
that is given to a command, or that the first object of the kind has; and a command that goes
through is such a turn on the settings of its task. -/
theorem targets_of_kind_iff (r : Resolver) (index : ObjectIndex) (settings : Properties)
    (given : String → Prop) :
  ((∀ turns, (∀ id, .bind (some id) ∈ turns → given id) →
      ∀ o ∈ (Binding.State.start r settings).objects index turns, o.kind = r.kind)
    ↔ ∀ id, (r.storedId? settings = some id ∨ given id
        ∨ ∃ first, r.scan index = some first ∧ first.id = id) → r.Trusts index id)
    ∧ ∀ (d d' : Desk) (name : String) (target : Option String) (output : String),
      (bindTask name target).run.run d = (.ok output, d') →
      ∃ r o q, d.manager.tasks.taskNamed? name = some r
        ∧ output = line ("task '" ++ r.name ++ "' bound to " ++ o.name ++ " (" ++ o.id ++ ")")
        ∧ d'.manager.tasks.task? r.id = some q
        ∧ (Binding.State.start .scriptDatabase r.properties).turn d.index (.bind target)
          = (.start .scriptDatabase q.properties, some o)
  := ⟨r.kind_iff index settings given, fun _ _ _ _ _ h => bindTask_of_ok h⟩

/-- A schema and a database with one id: a task is bound to the database, and then to the schema. -/
theorem targets_of_kind_iff_instance :
  let day : Timestamp := ⟨2024, 2, 29, 23, 59, 60, 1⟩
  let project : ProjectSettings :=
    ⟨"General", [], [⟨"x", "s", "schema"⟩, ⟨"x", "d", "database"⟩], 0⟩
  let tasks : Tasks := ⟨[("t1", (Record.new day "Backup" "sh").assignId "t1")], []⟩
  let d : Desk := ⟨{ Settings.standard with project }, Catalog.empty, ⟨"General", tasks, false⟩,
    TaskDir.new, day, "t2"⟩
  let first := (bindTask "Backup" none).run.run d
  let second := (bindTask "Backup" none).run.run first.2
  first.1.toOption = some "task 'Backup' bound to d (x)\n"
    ∧ second.1.toOption = some "task 'Backup' bound to s (x)\n"
    ∧ ∃ turns, ∃ o ∈ (Binding.State.start .scriptDatabase Properties.empty).objects d.index turns,
      o.kind ≠ "database"
  := by
  intro day project tasks d first second
  refine ⟨by decide +kernel, by decide +kernel, ?_⟩
  by_contra hnone
  push Not at hnone
  obtain ⟨hcourses, -⟩ :=
    targets_of_kind_iff .scriptDatabase d.index Properties.empty fun _ => False
  have htrusts := hcourses.mp fun turns _ => hnone turns
  have hkind := htrusts "x" (.inr (.inr ⟨⟨"x", "d", "database"⟩, by decide, rfl⟩))
    ⟨"x", "s", "schema"⟩ (by decide +kernel)
  exact absurd hkind (by decide)

end CommandLine

end TaskDesk
