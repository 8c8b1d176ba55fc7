import TaskDesk.Proofs.Target.Kinds

/-!
# Loading a target that was saved

`Resolver.Recalled` says what a load comes to after a target was saved: without an id the first
object of the kind is taken, and an id is looked up among all objects, of which the first with this
id is taken.  So it is the target itself if no other object has its id.  A save writes under its
own key alone, and a load that fails or is cancelled leaves the binding as it is:
`Binding.recalled_of_save`.
-/

namespace TaskDesk

/-- Whether an object is the first of a list that satisfies `P`. -/
def BoundObject.FirstOf (P : BoundObject → Prop) (objects : List BoundObject) (o : BoundObject) :
    Prop :=
  P o ∧ ∃ before after, objects = before ++ o :: after ∧ ∀ q ∈ before, ¬ P q

theorem BoundObject.find?_eq_some_iff {P : BoundObject → Prop} [DecidablePred P]
    {objects : List BoundObject} {o : BoundObject} :
  objects.find? (fun q => P q) = some o ↔ FirstOf P objects o
  := by
  rw [List.find?_eq_some_iff_append]
  simp [FirstOf]

namespace ObjectIndex

variable {index : ObjectIndex} {id : String}

theorem find?_of_failure {reason : String} (h : index.failure = some reason) :
  index.find? id = .error (.unavailable reason)
  := by
  rw [find?, h]

theorem find?_of_blank (h : index.failure = none) (hblank : Text.blank id = true) :
  index.find? id = .error (.malformedId id)
  := by
  simp [find?, h, hblank]

theorem find?_of_named (h : index.failure = none) (hnamed : Text.blank id = false) :
  index.find? id = .ok (index.objects.find? fun q => q.id = id)
  := by
  simp [find?, h, hnamed]

end ObjectIndex

namespace Resolver

variable {r : Resolver} {index : ObjectIndex} {settings : Properties}

/-- What a load comes to that is not cancelled, if the id of a target was stored. -/
inductive Recalled (r : Resolver) (index : ObjectIndex) :
    Option BoundObject → Except ResolveError LoadOutcome → Prop where
  | absent : Recalled r index none (.error .noTargetFound)
  | scanned {t o : BoundObject} (empty : t.id = "")
      (first : o.FirstOf (fun q => q.kind = r.kind) index.objects) :
    Recalled r index (some t) (.ok (.resolved o))
  | unscanned {t : BoundObject} (empty : t.id = "") (none : ∀ q ∈ index.objects, q.kind ≠ r.kind) :
    Recalled r index (some t) (.error .noTargetFound)
  | unavailable {t : BoundObject} {reason : String} (given : t.id ≠ "")
      (failure : index.failure = some reason) :
    Recalled r index (some t) (.error (.lookup (.unavailable reason)))
  | malformed {t : BoundObject} (given : t.id ≠ "") (available : index.failure = none)
      (blank : Text.blank t.id = true) :
    Recalled r index (some t) (.error (.lookup (.malformedId t.id)))
  | found {t o : BoundObject} (given : t.id ≠ "") (available : index.failure = none)
      (named : Text.blank t.id = false) (first : o.FirstOf (fun q => q.id = t.id) index.objects) :
    Recalled r index (some t) (.ok (.resolved o))
  | lost {t : BoundObject} (given : t.id ≠ "") (available : index.failure = none)
      (named : Text.blank t.id = false) (none : ∀ q ∈ index.objects, q.id ≠ t.id) :
    Recalled r index (some t) (.error (.targetNotFound t.id))

theorem scan_eq_some_iff {o : BoundObject} :
  r.scan index = some o ↔ o.FirstOf (fun q => q.kind = r.kind) index.objects
  := BoundObject.find?_eq_some_iff

theorem scan_eq_none_iff :
  r.scan index = none ↔ ∀ q ∈ index.objects, q.kind ≠ r.kind
  := by
  simp [scan]

/-- What a load makes of the object that was scanned for. -/
def ofScan : Option BoundObject → Except ResolveError LoadOutcome
  | some o => .ok (.resolved o)
  | none => .error .noTargetFound

/-- What a load makes of the answer to the lookup of an id. -/
def ofLookup (id : String) :
    Except LookupError (Option BoundObject) → Except ResolveError LoadOutcome
  | .ok (some o) => .ok (.resolved o)
  | .ok none => .error (.targetNotFound id)
  | .error e => .error (.lookup e)

/-- Where no id is stored an object is scanned for, and a cancellation comes too late. -/
theorem load_of_unstored (h : r.storedId? settings = none) (cancelTime : Option Nat) :
  (r.load index settings cancelTime).2 = ofScan (r.scan index)
  := by
  rw [load, h]
  dsimp only
  cases r.scan index with
  | none => rfl
  | some o => rfl

theorem load_of_stored {id : String} (h : r.storedId? settings = some id) :
  (r.load index settings none).2 = ofLookup id (index.find? id)
  := by
  rw [load, h]
  rfl

/-- A load that is not cancelled comes to what it comes to without a cancellation. -/
theorem load_uncancelled (cancelTime : Option Nat) :
  (r.load index settings cancelTime).2 = .ok .cancelled
    ∨ (r.load index settings cancelTime).2 = (r.load index settings none).2
  := by
  cases hstored : r.storedId? settings with
  | none =>
    right
    rw [load_of_unstored hstored, load_of_unstored hstored]
  | some id =>
    rw [load, load, hstored]
    dsimp only
    cases cancelTime with
    | none =>
      right
      rfl
    | some time =>
      dsimp only
      split
      · left
        rfl
      · right
        rfl

/-! ### Settings that hold the id of a target -/

/-- Whether the id of a target is what is stored; no target is stored like one without an id. -/
def Stores (r : Resolver) (settings : Properties) (t : Option BoundObject) : Prop :=
  r.storedId? settings = (t.map BoundObject.id).filter fun id => id ≠ ""

section Stores

variable {t : BoundObject}

theorem Stores.of_empty (h : r.Stores settings (some t)) (hempty : t.id = "") :
  r.storedId? settings = none
  := by
  rw [h, Option.map_some, hempty]
  rfl

theorem Stores.of_given (h : r.Stores settings (some t)) (hgiven : t.id ≠ "") :
  r.storedId? settings = some t.id
  := by
  rw [h, Option.map_some, Option.filter_some, if_pos (decide_eq_true hgiven)]

theorem stores_save (r : Resolver) (index : ObjectIndex) (target : Option BoundObject)
    (settings : Properties) :
  r.Stores (r.save index target settings).2 (r.save index target settings).1
  := by
  rw [save, Stores]
  dsimp only
  rw [storedId?_insert]
  cases target.orElse fun _ => r.scan index with
  | none => rfl
  | some o => rfl

theorem recalled_load_some (h : r.Stores settings (some t)) :
  r.Recalled index (some t) (r.load index settings none).2
  := by
  by_cases hempty : t.id = ""
  · rw [load_of_unstored (h.of_empty hempty)]
    cases hscan : r.scan index with
    | none =>
      apply Recalled.unscanned hempty
      apply scan_eq_none_iff.mp hscan
    | some o =>
      apply Recalled.scanned hempty
      apply scan_eq_some_iff.mp hscan
  · rw [load_of_stored (h.of_given hempty)]
    cases hfailure : index.failure with
    | some reason =>
      rw [ObjectIndex.find?_of_failure hfailure]
      apply Recalled.unavailable hempty hfailure
    | none =>
      cases hblank : Text.blank t.id with
      | true =>
        rw [ObjectIndex.find?_of_blank hfailure hblank]
        apply Recalled.malformed hempty hfailure hblank
      | false =>
        rw [ObjectIndex.find?_of_named hfailure hblank]
        cases hfind : index.objects.find? fun q => q.id = t.id with
        | none =>
          apply Recalled.lost hempty hfailure hblank
          simpa using hfind
        | some o =>
          apply Recalled.found hempty hfailure hblank
          apply BoundObject.find?_eq_some_iff.mp hfind

/-- What a load comes to depends on the target that is stored and on the objects alone. -/
theorem load_eq_iff {target : Option BoundObject} {answer : Except ResolveError LoadOutcome}
    (h : r.Stores settings target) (hnone : target = none → r.scan index = none) :
  (r.load index settings none).2 = answer ↔ r.Recalled index target answer
  := by
  constructor
  · rintro rfl
    cases target with
    | none =>
      rw [load_of_unstored h, hnone rfl]
      apply Recalled.absent
    | some t => apply recalled_load_some h
  · intro hrecalled
    cases hrecalled with
    | absent =>
      rw [load_of_unstored h, hnone rfl]
      rfl
    | scanned hempty hfirst =>
      rw [load_of_unstored (h.of_empty hempty), scan_eq_some_iff.mpr hfirst]
      rfl
    | unscanned hempty hall =>
      rw [load_of_unstored (h.of_empty hempty), scan_eq_none_iff.mpr hall]
      rfl
    | unavailable hgiven hfailure =>
      rw [load_of_stored (h.of_given hgiven), ObjectIndex.find?_of_failure hfailure]
      rfl
    | malformed hgiven hfailure hblank =>
      rw [load_of_stored (h.of_given hgiven), ObjectIndex.find?_of_blank hfailure hblank]
      rfl
    | found hgiven hfailure hnamed hfirst =>
      rw [load_of_stored (h.of_given hgiven), ObjectIndex.find?_of_named hfailure hnamed,
        BoundObject.find?_eq_some_iff.mpr hfirst]
      rfl
    | @lost t hgiven hfailure hnamed hall =>
      have hfind : (index.objects.find? fun q => q.id = t.id) = none := by simpa using hall
      rw [load_of_stored (h.of_given hgiven), ObjectIndex.find?_of_named hfailure hnamed, hfind]
      rfl

/-- An object whose id no other has is loaded again. -/
theorem load_of_count (h : r.Stores settings (some t)) (havailable : index.failure = none)
    (hnamed : Text.blank t.id = false) (hmem : t ∈ index.objects)
    (honce : (index.objects.map BoundObject.id).count t.id = 1) :
  (r.load index settings none).2 = .ok (.resolved t)
  := by
  have hgiven : t.id ≠ "" := by
    intro hempty
    rw [hempty] at hnamed
    cases hnamed
  rw [load_eq_iff h (by simp)]
  apply Recalled.found hgiven havailable hnamed
  constructor
  · rfl
  · obtain ⟨before, after, hobjects⟩ := List.append_of_mem hmem
    use before, after, hobjects
    intro q hq hid
    rw [hobjects, List.map_append, List.map_cons, List.count_append, List.count_cons_self] at honce
    have hbefore : 0 < (before.map BoundObject.id).count t.id := by
      rw [List.count_pos_iff, ← hid]
      apply List.mem_map_of_mem hq
    omega

end Stores

end Resolver

namespace Binding

/-- A load binds the object that it resolves; one that is cancelled or fails leaves the binding as
it is. -/
theorem load_outcome (b : Binding) (index : ObjectIndex) (settings : Properties)
    (cancelTime : Option Nat) :
  let outcome := (b.resolver.load index settings cancelTime).2
  let loaded := b.load index settings cancelTime
  (∀ o, outcome = .ok (.resolved o) →
      loaded.1 = b.setTarget (some o) ∧ loaded.2.2 = .ok (some o))
    ∧ (outcome = .ok .cancelled → loaded.1 = b ∧ loaded.2.2 = .ok b.target)
    ∧ ∀ e, outcome = .error e → loaded.1 = b ∧ loaded.2.2 = .error e
  := by
  dsimp only
  rw [load]
  obtain ⟨time, o | _ | e⟩ := b.resolver.load index settings cancelTime
  all_goals simp

/-- A load from the settings that a save left comes to what the target that was saved says: nothing
without a target, the first object of the kind if its id is empty, else what the id leads to.  So it
is the target itself if that is in the project and no other object has its id.  A save leaves the
other keys and their values as they are, and a load that is cancelled or fails leaves the binding
as it is. -/
theorem recalled_of_save (b : Binding) (index : ObjectIndex) (settings : Properties) :
  let r := b.resolver
  let target := (b.save index settings).1.target
  let stored := (b.save index settings).2
  (∀ answer, (r.load index stored none).2 = answer ↔ r.Recalled index target answer)
    ∧ (∀ cancelTime, (r.load index stored cancelTime).2 = .ok .cancelled
      ∨ (r.load index stored cancelTime).2 = (r.load index stored none).2)
    ∧ (∀ o, target = some o → index.failure = none → Text.blank o.id = false → o ∈ index.objects →
      (index.objects.map BoundObject.id).count o.id = 1 →
      (r.load index stored none).2 = .ok (.resolved o))
    ∧ stored.keys = (if r.key ∈ settings.keys then settings.keys else settings.keys ++ [r.key])
    ∧ (∀ key, key ≠ r.key → stored.get? key = settings.get? key)
    ∧ ∀ (c : Binding) (settings : Properties) (cancelTime : Option Nat),
      let outcome := (c.resolver.load index settings cancelTime).2
      let loaded := c.load index settings cancelTime
      (∀ o, outcome = .ok (.resolved o) →
          loaded.1 = c.setTarget (some o) ∧ loaded.2.2 = .ok (some o))
        ∧ (outcome = .ok .cancelled → loaded.1 = c ∧ loaded.2.2 = .ok c.target)
        ∧ ∀ e, outcome = .error e → loaded.1 = c ∧ loaded.2.2 = .error e
  := by
  intro r target stored
  have hstored : r.Stores stored target := Resolver.stores_save r index b.target settings
  have hnone : target = none → r.scan index = none := by
    intro h
    have hscan : (b.target.orElse fun _ => r.scan index) = none := h
    rw [Option.orElse_eq_or, Option.or_eq_none_iff] at hscan
    exact hscan.2
  refine ⟨?_, Resolver.load_uncancelled, ?_, ?_, ?_, fun c => c.load_outcome index⟩
  · intro answer
    apply Resolver.load_eq_iff hstored hnone
  · intro o ho havailable hnamed hmem honce
    rw [ho] at hstored
    apply Resolver.load_of_count hstored havailable hnamed hmem honce
  · apply Keyed.keys_put
  · intro key hkey
    apply (settings.get?_insert key r.key _).trans
    apply if_neg hkey

/-- The target that a save found by its kind is not loaded again if an object before it has its id,
one that is saved by a blank id is refused, and one with an id of its own comes back. -/
theorem recalled_of_save_instance :
  let schema : BoundObject := ⟨"x", "s", "schema"⟩
  let first : BoundObject := ⟨"x", "d", "database"⟩
  let other : BoundObject := ⟨"y", "e", "database"⟩
  let blank : BoundObject := ⟨" ", "f", "database"⟩
  let index : ObjectIndex := ⟨[schema, first, other, blank], 0, none⟩
  let r := Resolver.scriptDatabase
  let loaded (target : Option BoundObject) : Except ResolveError LoadOutcome :=
    (r.load index ((Binding.mk r target).save index ⟨[(r.key, .null)]⟩).2 none).2
  loaded none = .ok (.resolved schema)
    ∧ loaded (some blank) = .error (.lookup (.malformedId " "))
    ∧ loaded (some other) = .ok (.resolved other)
  := by
  intro schema first other blank index r loaded
  have h (target : Option BoundObject) := recalled_of_save ⟨r, target⟩ index ⟨[(r.key, .null)]⟩
  constructor
  · apply ((h none).1 _).mpr
    apply Resolver.Recalled.found (t := first) (by decide) rfl (by decide)
    constructor
    · rfl
    · use [], [first, other, blank]
      constructor
      · rfl
      · simp
  constructor
  · apply ((h (some blank)).1 _).mpr
    apply Resolver.Recalled.malformed (by decide) rfl (by decide)
  · apply (h (some other)).2.2.1 other rfl rfl (by decide) (by decide) (by decide)

end Binding

end TaskDesk
