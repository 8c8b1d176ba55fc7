import TaskDesk.Proofs.Catalog.Definition
import TaskDesk.Proofs.Catalog.Siblings

/-!
# The forest that a definition describes

Taking in the steps of definitions puts the branches that they describe under their parent: the
steps of a category come before those of its children and find it in its place.  So a definition
with distinct ids makes the catalog of its branches, sorted by name.  If siblings have distinct
names, `Shuffled` definitions make the same catalog: `CatalogDefinition.build_iff_of_shuffled`.
-/

namespace TaskDesk

open TaskDesk.Text
open TaskDesk.Builder (Step)

namespace Branch

/-- The branch with more children. -/
def withChildren (new : List Branch) : Branch → Branch
  | .mk c kids ts => .mk c (kids ++ new) ts

/-- The branch with more task types. -/
def withTypes (new : List TaskType) : Branch → Branch
  | .mk c kids ts => .mk c kids (ts ++ new)

/-- The forest with more branches under the category of an id, or with more roots. -/
def graft : Option String → List Branch → List Branch → List Branch
  | none, new, bs => bs ++ new
  | some parent, new, bs => alterEach parent (withChildren new) bs

/-! ### Changes one after another -/

section Alter

variable {id p : String} {f g : Branch → Branch}

theorem alterEach_append (bs bs' : List Branch) :
  alterEach id f (bs ++ bs') = alterEach id f bs ++ alterEach id f bs'
  := by
  induction bs with
  | nil => rfl
  | cons b bs ih => rw [List.cons_append, alterEach, ih, alterEach, List.cons_append]

theorem alter_of_id {b : Branch} (h : b.category.id = id) :
  alter id f b = f b
  := by
  obtain ⟨c, kids, ts⟩ := b
  apply if_pos h

mutual

theorem alter_eq_self (hf : ∀ b, f b = b) :
    ∀ (b : Branch), alter id f b = b
  | .mk c kids ts => by
    rw [alter, hf, alterEach_eq_self hf kids, ite_self]

theorem alterEach_eq_self (hf : ∀ b, f b = b) :
    ∀ (bs : List Branch), alterEach id f bs = bs
  | [] => rfl
  | b :: bs => by
    rw [alterEach, alter_eq_self hf b, alterEach_eq_self hf bs]

end

mutual

theorem alter_alter (hg : ∀ b, (g b).category = b.category) :
    ∀ (b : Branch), alter id f (alter id g b) = alter id (fun b => f (g b)) b
  | .mk c kids ts => by
    by_cases hid : c.id = id
    · have hb : (Branch.mk c kids ts).category.id = id := hid
      rw [alter_of_id hb, alter_of_id hb]
      apply alter_of_id
      rw [hg, hb]
    · rw [alter, if_neg hid, alter, if_neg hid, alter, if_neg hid, alterEach_alterEach hg kids]

/-- Two changes of the branch of an id are one change of it. -/
theorem alterEach_alterEach (hg : ∀ b, (g b).category = b.category) :
    ∀ (bs : List Branch),
      alterEach id f (alterEach id g bs) = alterEach id (fun b => f (g b)) bs
  | [] => rfl
  | b :: bs => by
    rw [alterEach, alterEach, alterEach, alter_alter hg b, alterEach_alterEach hg bs]

end

mutual

theorem alter_withChildren {new : List Branch} :
    ∀ (b : Branch), id ∉ b.ids →
      alter id f (alter p (withChildren new) b) = alter p (withChildren (alterEach id f new)) b
  | .mk c kids ts, h => by
    rw [ids_mk, List.mem_cons, not_or] at h
    have hid : c.id ≠ id := Ne.symm h.1
    by_cases hp : c.id = p
    · rw [alter, if_pos hp, alter, if_pos hp, withChildren, withChildren, alter, if_neg hid,
        alterEach_append, alterEach_of_not_mem kids h.2]
    · rw [alter, if_neg hp, alter, if_neg hid, alterEach_withChildren kids h.2, alter, if_neg hp]

theorem alterEach_withChildren {new : List Branch} :
    ∀ (bs : List Branch), id ∉ idsOf bs →
      alterEach id f (alterEach p (withChildren new) bs)
        = alterEach p (withChildren (alterEach id f new)) bs
  | [], _ => rfl
  | b :: bs, h => by
    rw [idsOf_cons, List.mem_append, not_or] at h
    rw [alterEach, alterEach, alterEach, alter_withChildren b h.1, alterEach_withChildren bs h.2]

end

end Alter

theorem category_withChildren (new : List Branch) (b : Branch) :
  (withChildren new b).category = b.category
  := by
  cases b
  rfl

section Graft

variable {parent : Option String} {bs new : List Branch}

theorem graft_nil :
  graft parent [] bs = bs
  := by
  cases parent with
  | none => apply List.append_nil
  | some p =>
    apply alterEach_eq_self
    rintro ⟨c, kids, ts⟩
    rw [withChildren, List.append_nil]

theorem graft_graft (new' : List Branch) :
  graft parent new' (graft parent new bs) = graft parent (new ++ new') bs
  := by
  cases parent with
  | none => apply List.append_assoc
  | some p =>
    have htwice : (fun b => withChildren new' (withChildren new b))
        = withChildren (new ++ new') := by
      funext ⟨c, kids, ts⟩
      rw [withChildren, withChildren, withChildren, List.append_assoc]
    rw [graft, graft, graft, alterEach_alterEach (category_withChildren new), htwice]

/-- A change of a branch that is new can be made before it is put in its place. -/
theorem alterEach_graft {id : String} {f : Branch → Branch} (h : id ∉ idsOf bs) :
  alterEach id f (graft parent new bs) = graft parent (alterEach id f new) bs
  := by
  cases parent with
  | none => rw [graft, graft, alterEach_append, alterEach_of_not_mem bs h]
  | some p => apply alterEach_withChildren bs h

end Graft

end Branch

/-! ### The branches that definitions describe -/

namespace CategoryDefinition

mutual

/-- The branch that a definition under a parent describes. -/
def branch (parent : Option String) : CategoryDefinition → Branch
  | .mk id name description icon children types =>
    .mk ⟨id, name, description, icon, parent⟩ (branches (some id) children)
      (types.map fun e => e.type id)

/-- The branches that definitions under a parent describe. -/
def branches (parent : Option String) : List CategoryDefinition → List Branch
  | [] => []
  | d :: ds => branch parent d :: branches parent ds

end

end CategoryDefinition

namespace Builder

variable {b b' : Builder}

theorem applyAll_append_eq_ok {steps later : List Step} :
  b.applyAll (steps ++ later) = .ok b'
    ↔ ∃ b₁, b.applyAll steps = .ok b₁ ∧ b₁.applyAll later = .ok b'
  := by
  induction steps generalizing b with
  | nil => simp [applyAll]
  | cons s rest ih =>
    rw [List.cons_append, applyAll, applyAll]
    cases b.apply s with
    | ok b₁ => apply ih
    | error e => simp

theorem applyAll_cons_eq_ok {s : Step} {rest : List Step} :
  b.applyAll (s :: rest) = .ok b' ↔ ∃ b₁, b.apply s = .ok b₁ ∧ b₁.applyAll rest = .ok b'
  := by
  rw [applyAll]
  cases b.apply s <;> simp

/-- A category that is taken in is a new leaf under its parent. -/
theorem graft_of_addCategory {k : Category} (h : b.addCategory k = .ok b') :
  k.id ∉ Branch.idsOf b.roots ∧ b'.roots = Branch.graft k.parent [.leaf k] b.roots
  := by
  obtain ⟨hid, ⟨hparent, rfl⟩ | ⟨parent, hparent, -, rfl⟩⟩ := addCategory_eq_ok.mp h
  · use hid
    rw [hparent, Branch.graft]
  · have hchild : Branch.withChild (.leaf k) = Branch.withChildren [.leaf k] := by
      funext ⟨c, kids, ts⟩
      rfl
    use hid
    rw [hparent, Branch.graft, hchild]

theorem roots_of_applyAll_types {id : String} (types : List TypeDefinition)
    (h : b.applyAll (types.map fun e => .type (e.type id)) = .ok b') :
  b'.roots = Branch.alterEach id (Branch.withTypes (types.map fun e => e.type id)) b.roots
  := by
  induction types generalizing b with
  | nil =>
    cases h
    symm
    apply Branch.alterEach_eq_self
    rintro ⟨c, kids, ts⟩
    rw [Branch.withTypes, List.map_nil, List.append_nil]
  | cons e rest ih =>
    rw [List.map_cons, applyAll_cons_eq_ok] at h
    obtain ⟨b₁, hb₁, hrest⟩ := h
    obtain ⟨-, -, rfl⟩ := addType_eq_ok.mp hb₁
    have htwice : (fun x => Branch.withTypes (rest.map fun e => e.type id)
        (Branch.withType (e.type id) x))
        = Branch.withTypes ((e :: rest).map fun e => e.type id) := by
      funext ⟨c, kids, ts⟩
      rw [Branch.withType, Branch.withTypes, Branch.withTypes, List.append_assoc]
      rfl
    rw [ih hrest, ← htwice]
    apply Branch.alterEach_alterEach (Branch.category_withType _)

end Builder

namespace CategoryDefinition

mutual

/-- The steps of a definition put the branch that it describes under its parent. -/
theorem roots_of_applyAll_steps :
    ∀ {parent : Option String} {b b' : Builder} (d : CategoryDefinition),
      b.applyAll (steps parent d) = .ok b' →
      b'.roots = Branch.graft parent [branch parent d] b.roots
  | parent, b, b', .mk id name description icon children types, h => by
    rw [steps, Builder.applyAll_cons_eq_ok] at h
    obtain ⟨b₁, hb₁, h⟩ := h
    obtain ⟨b₂, hb₂, hb'⟩ := Builder.applyAll_append_eq_ok.mp h
    obtain ⟨hid, hroots⟩ := Builder.graft_of_addCategory hb₁
    rw [Builder.roots_of_applyAll_types types hb', roots_of_applyAll_stepsOf children hb₂, hroots,
      Branch.graft, Branch.alterEach_graft hid, Branch.alterEach_graft hid]
    simp [Branch.leaf, Branch.alterEach, Branch.alter, Branch.withChildren, Branch.withTypes,
      branch]

theorem roots_of_applyAll_stepsOf :
    ∀ {parent : Option String} {b b' : Builder} (ds : List CategoryDefinition),
      b.applyAll (stepsOf parent ds) = .ok b' →
      b'.roots = Branch.graft parent (branches parent ds) b.roots
  | parent, b, b', [], h => by
    cases h
    rw [branches, Branch.graft_nil]
  | parent, b, b', d :: ds, h => by
    rw [stepsOf] at h
    obtain ⟨b₁, hb₁, hb'⟩ := Builder.applyAll_append_eq_ok.mp h
    rw [roots_of_applyAll_stepsOf ds hb', roots_of_applyAll_steps d hb₁, Branch.graft_graft,
      branches, List.singleton_append]

end

end CategoryDefinition

namespace CatalogDefinition

/-- The catalog that a definition describes, all siblings sorted by name. -/
def catalog (D : CatalogDefinition) : Catalog :=
  ⟨sortOn Branch.name (Branch.sortedEach (CategoryDefinition.branches none D.categories))⟩

/-- A definition makes a catalog if its ids are distinct, and then the one that it describes. -/
theorem build_eq_ok {D : CatalogDefinition} {c : Catalog} :
  D.build = .ok c ↔ D.ids.Nodup ∧ c = D.catalog
  := by
  have hcatalog (c : Catalog) (hc : D.build = .ok c) : c = D.catalog := by
    rw [build] at hc
    cases hb : Builder.empty.applyAll (CategoryDefinition.stepsOf none D.categories) with
    | error e => simp [hb, Except.map] at hc
    | ok b =>
      rw [hb] at hc
      cases hc
      rw [Builder.build, CategoryDefinition.roots_of_applyAll_stepsOf D.categories hb]
      rfl
  obtain ⟨c', hc', hnodup⟩ | ⟨x, hx, hfirst⟩ := D.build_cases
  · constructor
    · intro hc
      use hnodup, hcatalog c hc
    · rintro ⟨-, rfl⟩
      rw [hc', hcatalog c' hc']
  · simp [hx, hfirst.not_nodup]

end CatalogDefinition

/-! ### Siblings in another order -/

namespace CategoryDefinition

/-- Whether definitions are others with siblings in another order, at any levels. -/
inductive Shuffled : List CategoryDefinition → List CategoryDefinition → Prop where
  | nil : Shuffled [] []
  | cons {id name description : String} {icon : Option String}
      {children children' ds ds' : List CategoryDefinition} {types types' : List TypeDefinition}
      (hchildren : Shuffled children children') (htypes : types.Perm types')
      (hrest : Shuffled ds ds') :
      Shuffled (.mk id name description icon children types :: ds)
        (.mk id name description icon children' types' :: ds')
  | swap (d e : CategoryDefinition) (ds : List CategoryDefinition) :
      Shuffled (d :: e :: ds) (e :: d :: ds)
  | trans {ds ds' ds'' : List CategoryDefinition} (h : Shuffled ds ds') (h' : Shuffled ds' ds'') :
      Shuffled ds ds''

mutual

/-- Whether all siblings below a definition have distinct names. -/
def NamesDistinct : CategoryDefinition → Prop
  | .mk _ _ _ _ children types =>
    (children.map name).Nodup ∧ NamesDistinctEach children ∧ (types.map TypeDefinition.name).Nodup

/-- Whether all siblings below each of some definitions have distinct names. -/
def NamesDistinctEach : List CategoryDefinition → Prop
  | [] => True
  | d :: ds => NamesDistinct d ∧ NamesDistinctEach ds

end

section Shuffled

variable {ds ds' : List CategoryDefinition}

theorem Shuffled.ids (h : Shuffled ds ds') :
  (idsOf ds).Perm (idsOf ds')
  := by
  induction h with
  | nil => apply List.Perm.refl
  | cons _ htypes _ ihchildren ihrest =>
    rw [idsOf, idsOf, CategoryDefinition.ids, CategoryDefinition.ids]
    apply List.Perm.append _ ihrest
    apply List.Perm.cons
    apply ihchildren.append (htypes.map _)
  | swap d e ds =>
    rw [idsOf, idsOf, idsOf, idsOf]
    apply List.perm_append_comm_assoc
  | trans _ _ ih ih' => apply ih.trans ih'

theorem Shuffled.names (h : Shuffled ds ds') :
  (ds.map name).Perm (ds'.map name)
  := by
  induction h with
  | nil => apply List.Perm.refl
  | cons _ _ _ _ ihrest => apply ihrest.cons
  | swap d e ds => apply List.Perm.swap
  | trans _ _ ih ih' => apply ih.trans ih'

theorem Shuffled.namesDistinct (h : Shuffled ds ds') (hnames : NamesDistinctEach ds) :
  NamesDistinctEach ds'
  := by
  induction h with
  | nil => apply hnames
  | cons hchildren htypes _ ihchildren ihrest =>
    obtain ⟨⟨hkids, hbelow, hown⟩, hrest⟩ := hnames
    use ⟨hchildren.names.nodup_iff.mp hkids, ihchildren hbelow, (htypes.map _).nodup_iff.mp hown⟩,
      ihrest hrest
  | swap d e ds =>
    obtain ⟨hd, he, hds⟩ := hnames
    use he, hd, hds
  | trans _ _ ih ih' => apply ih' (ih hnames)

theorem map_name_sortedEach (parent : Option String) (ds : List CategoryDefinition) :
  (Branch.sortedEach (branches parent ds)).map Branch.name = ds.map name
  := by
  induction ds with
  | nil => rfl
  | cons d ds ih =>
    obtain ⟨id, name, description, icon, children, types⟩ := d
    rw [branches, Branch.sortedEach, List.map_cons, List.map_cons, ih]
    rfl

/-- Up to the order of the roots, shuffled definitions describe the same forest sorted by name. -/
theorem Shuffled.perm_sortedEach (h : Shuffled ds ds') (hnames : NamesDistinctEach ds)
    (parent : Option String) :
  (Branch.sortedEach (branches parent ds)).Perm (Branch.sortedEach (branches parent ds'))
  := by
  induction h generalizing parent with
  | nil => apply List.Perm.refl
  | @cons id _ _ _ children children' _ _ types types' _ htypes _ ihchildren ihrest =>
    obtain ⟨⟨hkids, hbelow, hown⟩, hrest⟩ := hnames
    have hchildren := ihchildren hbelow (some id)
    have hsame : sortOn TaskType.name (types.map fun e => e.type id)
        = sortOn TaskType.name (types'.map fun e => e.type id) := by
      apply sortOn_congr (htypes.map _)
      rw [List.map_map]
      apply hown
    have hsame' : sortOn Branch.name (Branch.sortedEach (branches (some id) children))
        = sortOn Branch.name (Branch.sortedEach (branches (some id) children')) := by
      apply sortOn_congr hchildren
      rw [map_name_sortedEach]
      apply hkids
    rw [branches, branches, Branch.sortedEach, Branch.sortedEach, branch, branch, Branch.sorted,
      Branch.sorted, hsame, hsame']
    apply (ihrest hrest parent).cons
  | swap d e ds =>
    rw [branches, branches, branches, branches]
    apply List.Perm.swap
  | trans h _ ih ih' =>
    apply (ih hnames parent).trans
    apply ih' (h.namesDistinct hnames) parent

end Shuffled

end CategoryDefinition

namespace CatalogDefinition

/-- Whether siblings in a definition have distinct names at every level. -/
def NamesDistinct (D : CatalogDefinition) : Prop :=
  (D.categories.map CategoryDefinition.name).Nodup
    ∧ CategoryDefinition.NamesDistinctEach D.categories

/-- Whether a definition is another one with siblings in another order, at any levels. -/
def Shuffled (D D' : CatalogDefinition) : Prop :=
  CategoryDefinition.Shuffled D.categories D'.categories

/-- Where siblings have distinct names their order does not matter for what a definition makes. -/
theorem build_iff_of_shuffled {D D' : CatalogDefinition} (hnames : D.NamesDistinct)
    (h : D.Shuffled D') {c : Catalog} :
  D.build = .ok c ↔ D'.build = .ok c
  := by
  have hcatalog : D.catalog = D'.catalog := by
    rw [catalog, catalog]
    congr 1
    apply sortOn_congr (h.perm_sortedEach hnames.2 none)
    rw [CategoryDefinition.map_name_sortedEach]
    apply hnames.1
  rw [build_eq_ok, build_eq_ok, hcatalog, ids, ids, h.ids.nodup_iff]

end CatalogDefinition

end TaskDesk
