import TaskDesk.Proofs.Catalog.Shown

/-!
# What is shown when more drivers are known

A forest is `Part` of another one if it is what is left of it after some branches and task types
were left out; then all that it shows is shown by the other one, below the same categories and in
the same order.  With more drivers more task types apply, so the smaller context shows a part of
what the larger one shows.  While the data sources are not known all task types apply, and only the
categories without a task type below them are left out: `Catalog.filtered_grows`.
-/

namespace TaskDesk

namespace Branch

mutual

/-- The categories of a branch, each with the categories that it is in, the innermost first; `above`
are those above the branch. -/
def places (above : List Category) : Branch → List (List Category)
  | .mk c kids _ => (c :: above) :: placesOf (c :: above) kids

/-- The categories of a forest, each with the categories that it is in. -/
def placesOf (above : List Category) : List Branch → List (List Category)
  | [] => []
  | b :: bs => b.places above ++ placesOf above bs

end

mutual

/-- The branch without the branches below it that have no task types. -/
def pruned : Branch → Branch
  | .mk c kids ts => .mk c (prunedEach kids) ts

/-- The forest without the branches that have no task types. -/
def prunedEach : List Branch → List Branch
  | [] => []
  | b :: bs => if b.allTypes.isEmpty then prunedEach bs else b.pruned :: prunedEach bs

end

/-- Whether a forest is what is left of another one after branches and task types were left out. -/
inductive Part : List Branch → List Branch → Prop where
  | nil : Part [] []
  | skip {bs bs' : List Branch} (b : Branch) (rest : Part bs bs') : Part bs (b :: bs')
  | keep {c : Category} {kids kids' bs bs' : List Branch} {ts ts' : List TaskType}
      (children : Part kids kids') (types : ts.Sublist ts') (rest : Part bs bs') :
    Part (.mk c kids ts :: bs) (.mk c kids' ts' :: bs')

variable {bs bs' : List Branch}

theorem Part.places (h : Part bs bs') (above : List Category) :
  (placesOf above bs).Sublist (placesOf above bs')
  := by
  induction h generalizing above with
  | nil => apply List.Sublist.refl
  | skip b _ ih => apply (ih above).trans (List.sublist_append_right _ _)
  | @keep c _ _ _ _ _ _ _ _ _ ihchildren ihrest =>
    apply List.Sublist.append
    · apply (ihchildren (c :: above)).cons_cons
    · apply ihrest above

theorem Part.visits (h : Part bs bs') (above : List Category) :
  (visitsOf above bs).Sublist (visitsOf above bs')
  := by
  induction h generalizing above with
  | nil => apply List.Sublist.refl
  | skip b _ ih => apply (ih above).trans (List.sublist_append_right _ _)
  | @keep c _ _ _ _ _ _ _ htypes _ ihchildren ihrest =>
    apply List.Sublist.append
    · apply (ihchildren (c :: above)).append
      apply htypes.map
    · apply ihrest above

/-- Whether a forest shows all that another one shows: each category and each task type below the
same categories, and all in the same order. -/
structure Shows (bs' bs : List Branch) : Prop where
  part : Part bs bs'
  places : (placesOf [] bs).Sublist (placesOf [] bs')
  visits : (visitsOf [] bs).Sublist (visitsOf [] bs')

theorem Part.shows (h : Part bs bs') :
  Shows bs' bs
  where
  part := h
  places := h.places []
  visits := h.visits []

end Branch

/-! ### The task types that apply -/

namespace TaskType

variable {ctx small large : FilterContext} {t : TaskType}

theorem applies_of_disabled (h : ctx.filtering = false) :
  t.applies ctx = true
  := by
  simp [applies, h]

theorem applies_of_pending (h : ctx.loaded = false) :
  t.applies ctx = true
  := by
  simp [applies, h]

theorem applies_iff (hfiltering : ctx.filtering = true) (hloaded : ctx.loaded = true) :
  t.applies ctx = true
    ↔ t.standalone = true ∨ ∃ d ∈ ctx.drivers, t.applicability.fits d = true
  := by
  simp [applies, hfiltering, hloaded]

/-- A task type applies with any drivers if it applies with some of them. -/
theorem applies_mono (hfiltering : small.filtering = true) (hloaded : small.loaded = true)
    (hdrivers : small.drivers ⊆ large.drivers) (h : t.applies small = true) :
  t.applies large = true
  := by
  rw [applies_iff hfiltering hloaded] at h
  rw [applies, Bool.or_eq_true, Bool.or_eq_true]
  obtain hstandalone | ⟨d, hd, hfits⟩ := h
  · left
    right
    apply hstandalone
  · right
    rw [List.any_eq_true]
    use d, hdrivers hd

end TaskType

namespace Branch

/-! ### Contexts in which more applies -/

section Contexts

variable {small large : FilterContext}

theorem applies_mono (htypes : ∀ t : TaskType, t.applies small = true → t.applies large = true)
    (hctx : large.filtering = true → small.filtering = true) {b : Branch}
    (h : b.applies small = true) :
  b.applies large = true
  := by
  cases hlarge : large.filtering with
  | false => apply applies_of_disabled hlarge
  | true =>
    obtain ⟨t, ht, happlies⟩ := (applies_iff (hctx hlarge)).mp h
    rw [applies_iff hlarge]
    use t, ht, htypes t happlies

/-- Where more task types apply, more is shown. -/
theorem part_filteredEach (htypes : ∀ t : TaskType, t.applies small = true → t.applies large = true)
    (hctx : large.filtering = true → small.filtering = true) :
    ∀ (bs : List Branch), Part (filteredEach small bs) (filteredEach large bs)
  | [] => .nil
  | .mk c kids ts :: bs => by
    have hrest := part_filteredEach htypes hctx bs
    rw [filteredEach, filteredEach]
    split
    · next h =>
      rw [if_pos (applies_mono htypes hctx h)]
      apply Part.keep _ _ hrest
      · apply part_filteredEach htypes hctx kids
      · apply List.monotone_filter_right
        apply htypes
    · split
      · apply Part.skip _ hrest
      · apply hrest

mutual

theorem filtered_congr (htypes : ∀ t : TaskType, t.applies small = t.applies large)
    (hctx : small.filtering = large.filtering) :
    ∀ (b : Branch), b.applies small = b.applies large ∧ b.filtered small = b.filtered large
  | .mk c kids ts => by
    obtain ⟨hsome, hkids⟩ := filteredEach_congr htypes hctx kids
    have happlies : TaskType.applies small = TaskType.applies large := by
      funext t
      apply htypes
    rw [applies, applies, filtered, filtered, hsome, hkids, happlies, hctx]
    simp

/-- What is shown depends only on whether there is filtering and on the task types that apply. -/
theorem filteredEach_congr (htypes : ∀ t : TaskType, t.applies small = t.applies large)
    (hctx : small.filtering = large.filtering) :
    ∀ (bs : List Branch), someApplies small bs = someApplies large bs
      ∧ filteredEach small bs = filteredEach large bs
  | [] => ⟨rfl, rfl⟩
  | b :: bs => by
    obtain ⟨happlies, hb⟩ := filtered_congr htypes hctx b
    obtain ⟨hsome, hbs⟩ := filteredEach_congr htypes hctx bs
    rw [someApplies, someApplies, filteredEach, filteredEach, happlies, hsome, hb, hbs]
    simp

end

end Contexts

/-! ### Contexts in which all task types apply -/

section Pending

variable {ctx : FilterContext}

mutual

theorem filtered_disabled (hctx : ctx.filtering = false) :
    ∀ (b : Branch), b.filtered ctx = b
  | .mk c kids ts => by
    have hts : ts.filter (TaskType.applies ctx) = ts :=
      List.filter_eq_self.mpr fun _ _ => TaskType.applies_of_disabled hctx
    rw [filtered, filteredEach_disabled hctx kids, hts]

theorem filteredEach_disabled (hctx : ctx.filtering = false) :
    ∀ (bs : List Branch), filteredEach ctx bs = bs
  | [] => rfl
  | b :: bs => by
    rw [filteredEach, if_pos (applies_of_disabled hctx b), filtered_disabled hctx b,
      filteredEach_disabled hctx bs]

end

theorem applies_of_pending (hctx : ctx.filtering = true) (hloaded : ctx.loaded = false)
    (b : Branch) :
  b.applies ctx = !b.allTypes.isEmpty
  := by
  rw [Bool.eq_iff_iff, applies_iff hctx]
  simp [TaskType.applies_of_pending hloaded, List.eq_nil_iff_forall_not_mem]

mutual

theorem filtered_pending (hctx : ctx.filtering = true) (hloaded : ctx.loaded = false) :
    ∀ (b : Branch), b.filtered ctx = b.pruned
  | .mk c kids ts => by
    have hts : ts.filter (TaskType.applies ctx) = ts :=
      List.filter_eq_self.mpr fun _ _ => TaskType.applies_of_pending hloaded
    rw [filtered, filteredEach_pending hctx hloaded kids, hts, pruned]

/-- While the data sources are not known only the branches without task types are left out. -/
theorem filteredEach_pending (hctx : ctx.filtering = true) (hloaded : ctx.loaded = false) :
    ∀ (bs : List Branch), filteredEach ctx bs = prunedEach bs
  | [] => rfl
  | b :: bs => by
    rw [filteredEach, prunedEach, applies_of_pending hctx hloaded, filtered_pending hctx hloaded b,
      filteredEach_pending hctx hloaded bs]
    cases b.allTypes.isEmpty with
    | true => rfl
    | false => rfl

end

/-- Of a forest that is pruned there stay the categories with a task type below them. -/
theorem categoriesOf_prunedEach (bs : List Branch) :
  categoriesOf (prunedEach bs)
    = ((branchesOf bs).filter fun b => !b.allTypes.isEmpty).map category
  := by
  let pending : FilterContext := ⟨true, false, []⟩
  have happlies : applies pending = fun b => !b.allTypes.isEmpty := by
    funext b
    apply applies_of_pending rfl rfl
  have hpruned : filteredEach pending bs = prunedEach bs := filteredEach_pending rfl rfl bs
  rw [← hpruned, categoriesOf_filteredEach, happlies]

end Pending

end Branch

namespace Catalog

/-- What is shown grows with the drivers, and depends only on which drivers there are.  While the
data sources are not known all is shown that would be shown with any drivers, namely the catalog
without exactly the categories that have no task type below them. -/
theorem filtered_grows (c : Catalog) (small large : FilterContext)
    (hsmall : small.filtering = true) (hlarge : large.filtering = true) :
  (small.loaded = true → large.loaded = true →
      (∀ d ∈ small.drivers, d ∈ large.drivers) →
      Branch.Shows (c.filtered large) (c.filtered small))
    ∧ (small.loaded = true → large.loaded = true →
      (∀ d, d ∈ small.drivers ↔ d ∈ large.drivers) → c.filtered small = c.filtered large)
    ∧ (large.loaded = false →
      (small.loaded = true → Branch.Shows (c.filtered large) (c.filtered small))
        ∧ ∀ off : FilterContext, off.filtering = false →
          c.filtered large = Branch.prunedEach (c.filtered off)
            ∧ Branch.categoriesOf (c.filtered large)
              = ((Branch.branchesOf (c.filtered off)).filter fun b => !b.allTypes.isEmpty).map
                Branch.category)
  := by
  have hshows (htypes : ∀ t : TaskType, t.applies small = true → t.applies large = true) :
      Branch.Shows (c.filtered large) (c.filtered small) := by
    apply Branch.Part.shows
    apply Branch.part_filteredEach htypes fun _ => hsmall
  refine ⟨?_, ?_, ?_⟩
  · intro hloaded _ hdrivers
    apply hshows
    intro t
    apply TaskType.applies_mono hsmall hloaded hdrivers
  · intro hloaded hloaded' hdrivers
    have htypes (t : TaskType) : t.applies small = t.applies large := by
      rw [Bool.eq_iff_iff, TaskType.applies_iff hsmall hloaded,
        TaskType.applies_iff hlarge hloaded']
      simp only [hdrivers]
    apply (Branch.filteredEach_congr htypes (hsmall.trans hlarge.symm) c.roots).2
  · intro hloaded
    constructor
    · intro _
      apply hshows
      intro t _
      apply TaskType.applies_of_pending hloaded
    · intro off hoff
      have hpruned : c.filtered large = Branch.prunedEach (c.filtered off) := by
        rw [filtered, filtered, Branch.filteredEach_pending hlarge hloaded,
          Branch.filteredEach_disabled hoff]
      constructor
      · apply hpruned
      · rw [hpruned, Branch.categoriesOf_prunedEach]

/-- A second driver adds a category and takes nothing away; a category without task types is shown
only if there is no filtering. -/
theorem filtered_grows_instance :
  let branch (id : String) (types : List TaskType) : Branch :=
    .mk ⟨id, id, "", none, none⟩ [] types
  let dump (id driver : String) : TaskType := ⟨id, id, id, "", none, false, .drivers [driver]⟩
  let c : Catalog := ⟨[branch "my" [dump "my" "mysql"], branch "none" [],
    branch "pg" [dump "pg" "postgresql"]]⟩
  let shown (ctx : FilterContext) : List String :=
    (Branch.categoriesOf (c.filtered ctx)).map Category.id
  Branch.Shows (c.filtered ⟨true, true, ["postgresql", "mysql"]⟩)
      (c.filtered ⟨true, true, ["postgresql"]⟩)
    ∧ c.filtered ⟨true, true, ["postgresql", "mysql"]⟩
      = c.filtered ⟨true, true, ["mysql", "postgresql", "mysql"]⟩
    ∧ c.filtered ⟨true, false, []⟩ = Branch.prunedEach (c.filtered .disabled)
    ∧ shown ⟨true, true, ["postgresql"]⟩ = ["pg"] ∧ shown ⟨true, false, []⟩ = ["my", "pg"]
    ∧ shown .disabled = ["my", "none", "pg"]
  := by
  intro branch dump c shown
  have hmore := (filtered_grows c ⟨true, true, ["postgresql"]⟩
    ⟨true, true, ["postgresql", "mysql"]⟩ rfl rfl).1 rfl rfl (by simp)
  have hsame := (filtered_grows c ⟨true, true, ["postgresql", "mysql"]⟩
    ⟨true, true, ["mysql", "postgresql", "mysql"]⟩ rfl rfl).2.1 rfl rfl (by simp [or_comm])
  have hpending := (filtered_grows c ⟨true, false, []⟩ ⟨true, false, []⟩ rfl rfl).2.2 rfl
  use hmore, hsame, (hpending.2 .disabled rfl).1
  decide

end Catalog

end TaskDesk
