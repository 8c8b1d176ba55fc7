import TaskDesk.Proofs.Json.Form

/-!
# How deep forms are nested

What a record or a list holds is nested less deep than the form that it is taken from:
`depth_lt_of_shape?`.  So a reader that counts levels does not depend on them as long as there are
enough, `nested?_congr`, and a list is read back if there are enough levels for it, and only then:
`nested?_form`.
-/

namespace TaskDesk.Form

open Json

variable {α : Type} {f g : Form}

theorem depth_le_depths {items : List Form} (h : g ∈ items) :
  g.depth ≤ depths items
  := by
  induction items with
  | nil => cases h
  | cons f rest ih =>
    rw [depths]
    obtain rfl | h := List.mem_cons.mp h
    · exact Nat.le_max_left _ _
    · exact (ih h).trans (Nat.le_max_right _ _)

theorem depth_le_depthsOf {fields : List (List Piece × Form)} {k : List Piece}
    (h : (k, g) ∈ fields) :
  g.depth ≤ depthsOf fields
  := by
  induction fields with
  | nil => cases h
  | cons e rest ih =>
    obtain ⟨k', f⟩ := e
    rw [depthsOf]
    obtain h | h := List.mem_cons.mp h
    · obtain ⟨-, rfl⟩ := Prod.mk.inj h
      exact Nat.le_max_left _ _
    · exact (ih h).trans (Nat.le_max_right _ _)

/-- A field whose name was read is a field. -/
theorem mem_of_named? {fields : List (List Piece × Form)} {named : List (String × Form)}
    {k : String} (h : named? fields = some named) (hg : (k, g) ∈ named) :
  ∃ ps, (ps, g) ∈ fields
  := by
  induction fields generalizing named with
  | nil =>
    obtain rfl := Option.some.inj h
    cases hg
  | cons e rest ih =>
    simp only [named?, List.mapM_cons, Option.bind_eq_bind, Option.bind_eq_some_iff,
      Option.map_eq_some_iff, Option.pure_def, Option.some.injEq] at h
    obtain ⟨_, ⟨k', -, rfl⟩, named', hrest, rfl⟩ := h
    obtain hg | hg := List.mem_cons.mp hg
    · obtain ⟨-, rfl⟩ := Prod.mk.inj hg
      exact ⟨e.1, List.mem_cons_self⟩
    · obtain ⟨ps, hps⟩ := ih hrest hg
      exact ⟨ps, List.mem_cons_of_mem e hps⟩

/-- The fields of a record are nested less deep than the form that it is taken from. -/
theorem depth_lt_of_shape? {names : List String} {parts : List (Option Form)}
    (h : f.shape? names = some parts) :
  0 < f.depth ∧ ∀ g, some g ∈ parts → g.depth < f.depth
  := by
  cases f with
  | obj fields =>
    obtain ⟨named, hnamed, hknown⟩ := Option.bind_eq_some_iff.mp h
    refine ⟨Nat.succ_pos _, ?_⟩
    intro g hg
    dsimp only at hknown
    split at hknown
    · obtain rfl := Option.some.inj hknown
      obtain ⟨name, -, hfind⟩ := List.mem_map.mp hg
      have hmem := Keyed.mem_of_find? hfind
      obtain ⟨ps, hps⟩ := mem_of_named? hnamed (List.mem_filter.mp hmem).1
      exact Nat.lt_succ_of_le (depth_le_depthsOf hps)
    · cases hknown
  | arr items =>
    refine ⟨Nat.succ_pos _, ?_⟩
    intro g hg
    rw [shape?] at h
    split at h
    · obtain rfl := Option.some.inj h
      have hmem : g ∈ items := by simpa using hg
      exact Nat.lt_succ_of_le (depth_le_depths hmem)
    · cases h
  | _ => cases h

theorem depth_ofOption_str (x : Option String) :
  (Json.ofOption .str x).form.depth = 0
  := by
  cases x <;> rfl

/-! ### Readers that count levels -/

theorem orElse_congr {default : α} {read read' : Form → Option α} {field : Option Form}
    (h : ∀ g, field = some g → read g = read' g) :
  orElse default read field = orElse default read' field
  := by
  cases field with
  | none => rfl
  | some g => exact h g rfl

theorem option?_congr {read read' : Form → Option α} (h : read f = read' f) :
  option? read f = option? read' f
  := by
  cases f with
  | null => rfl
  | _ => exact congrArg (Option.map some) h

/-- The items of a list are read alike with any number of levels that is enough for it. -/
theorem nested?_congr {read : Nat → Form → Option α} {n m : Nat}
    (h : ∀ g k l, g.depth < f.depth → g.depth ≤ k → g.depth ≤ l → read k g = read l g)
    (hn : f.depth ≤ n) (hm : f.depth ≤ m) :
  nested? read n f = nested? read m f
  := by
  cases f with
  | arr items =>
    obtain ⟨n, rfl⟩ := Nat.exists_eq_add_one.mpr ((Nat.succ_pos _).trans_le hn)
    obtain ⟨m, rfl⟩ := Nat.exists_eq_add_one.mpr ((Nat.succ_pos _).trans_le hm)
    have hitems : ∀ g ∈ items, read n g = read m g := by
      intro g hg
      have hdepth := depth_le_depths hg
      exact h g n m (Nat.lt_succ_of_le hdepth) (hdepth.trans (Nat.le_of_succ_le_succ hn))
        (hdepth.trans (Nat.le_of_succ_le_succ hm))
    rw [nested?, nested?, list?, list?]
    clear h hn hm
    induction items with
    | nil => rfl
    | cons g rest ih =>
      rw [List.forall_mem_cons] at hitems
      rw [List.mapM_cons, List.mapM_cons, hitems.1, ih hitems.2]
  | _ => cases n <;> cases m <;> rfl

/-- A field of a record that is a list is read alike with any number of levels that is enough for
the record. -/
theorem orElse_nested?_congr {read : Nat → Form → Option α} {default : List α} {n m : Nat}
    {names : List String} {parts : List (Option Form)} (hshape : f.shape? names = some parts)
    {field : Option Form} (hfield : field ∈ parts)
    (h : ∀ g k l, g.depth < f.depth → g.depth ≤ k → g.depth ≤ l → read k g = read l g)
    (hn : f.depth ≤ n + 1) (hm : f.depth ≤ m + 1) :
  orElse default (nested? read n) field = orElse default (nested? read m) field
  := by
  apply orElse_congr
  rintro g rfl
  have hg := (depth_lt_of_shape? hshape).2 g hfield
  apply nested?_congr
  · intro g' k l hg' hk hl
    exact h g' k l (hg'.trans hg) hk hl
  · omega
  · omega

/-- What is read in two parts, each if there are enough levels for it, is read if there are enough
levels for the deeper part. -/
theorem bind_if_le {β γ : Type} {k l n : Nat} (x : α) (y : β) (join : α → β → γ) :
  ((if k ≤ n then some x else none).bind fun x =>
      (if l ≤ n then some y else none).bind fun y => some (join x y))
    = if max k l ≤ n then some (join x y) else none
  := by
  by_cases hk : k ≤ n
  · by_cases hl : l ≤ n
    · rw [if_pos hk, if_pos hl, if_pos (Nat.max_le.mpr ⟨hk, hl⟩)]
      rfl
    · rw [if_pos hk, if_neg hl, if_neg fun h => hl (Nat.max_le.mp h).2]
      rfl
  · rw [if_neg hk, if_neg fun h => hk (Nat.max_le.mp h).1]
    rfl

/-- A list is read back if there are enough levels for it, and only then, if so are its items. -/
theorem nested?_form {read : Nat → Form → Option α} {write : α → Json} {xs : List α}
    (h : ∀ x ∈ xs, ∀ n,
      read n (write x).form = if (write x).form.depth ≤ n then some x else none) (n : Nat) :
  nested? read n (Json.arr (xs.map write)).form
    = if (Json.arr (xs.map write)).form.depth ≤ n then some xs else none
  := by
  cases n with
  | zero => rw [nested?, form, depth, if_neg (Nat.not_succ_le_zero _)]
  | succ n =>
    rw [nested?, form, list?, depth]
    simp only [Nat.add_le_add_iff_right]
    induction xs with
    | nil => rfl
    | cons x rest ih =>
      rw [List.forall_mem_cons] at h
      rw [List.map_cons, forms, List.mapM_cons, h.1, ih h.2, depths]
      exact bind_if_le x rest List.cons

end TaskDesk.Form
