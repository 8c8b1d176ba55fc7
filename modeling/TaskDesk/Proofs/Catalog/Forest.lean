import TaskDesk.Catalog.Builder
import TaskDesk.Proofs.Text.Order

/-!
# The forests that a builder makes

A forest is `WellFormed` if no root has a parent, each child names the category that it is under,
each task type names its category, and the ids of the categories and those of the task types are
distinct.  Whatever is added to a builder, in whatever order and with refusals in between, its
forest and the sorted one of the catalog are well formed.
-/

namespace TaskDesk

open TaskDesk.Text

namespace Branch

mutual

/-- Whether a branch stands under the category of the given id, or is a root, and all below it
names what it is under. -/
def Linked (parent : Option String) : Branch → Prop
  | .mk c kids ts =>
    c.parent = parent ∧ LinkedEach (some c.id) kids ∧ ∀ t ∈ ts, t.category = c.id

/-- Whether all branches of a list stand under the same category, or are roots. -/
def LinkedEach (parent : Option String) : List Branch → Prop
  | [] => True
  | b :: bs => Linked parent b ∧ LinkedEach parent bs

end

/-! ### Forests as lists of branches -/

theorem linkedEach_iff {parent : Option String} {bs : List Branch} :
  LinkedEach parent bs ↔ ∀ b ∈ bs, b.Linked parent
  := by
  induction bs with
  | nil => simp [LinkedEach]
  | cons b bs ih => simp [LinkedEach, ih]

theorem linkedEach_append {parent : Option String} {bs bs' : List Branch} :
  LinkedEach parent (bs ++ bs') ↔ LinkedEach parent bs ∧ LinkedEach parent bs'
  := by
  simp only [linkedEach_iff, List.mem_append, or_imp, forall_and]

theorem linked_leaf {parent : Option String} {c : Category} :
  (leaf c).Linked parent ↔ c.parent = parent
  := by
  simp [leaf, Linked, LinkedEach]

theorem categoriesOf_eq (bs : List Branch) :
  categoriesOf bs = bs.flatMap categories
  := by
  induction bs with
  | nil => rfl
  | cons b bs ih => rw [categoriesOf, ih, List.flatMap_cons]

theorem typesOf_eq (bs : List Branch) :
  typesOf bs = bs.flatMap allTypes
  := by
  induction bs with
  | nil => rfl
  | cons b bs ih => rw [typesOf, ih, List.flatMap_cons]

/-- The ids of the categories of a branch. -/
def ids (b : Branch) : List String :=
  b.categories.map Category.id

/-- The ids of the categories of a forest. -/
def idsOf (bs : List Branch) : List String :=
  (categoriesOf bs).map Category.id

theorem ids_mk (c : Category) (kids : List Branch) (ts : List TaskType) :
  ids (.mk c kids ts) = c.id :: idsOf kids
  := rfl

theorem idsOf_cons (b : Branch) (bs : List Branch) :
  idsOf (b :: bs) = b.ids ++ idsOf bs
  := List.map_append

/-! ### A change of one branch -/

section Alter

variable {id : String} {f : Branch → Branch}

mutual

/-- Nothing is changed if there is no branch of the id. -/
theorem alter_of_not_mem :
    ∀ (b : Branch), id ∉ b.ids → alter id f b = b
  | .mk c kids ts, h => by
    rw [ids_mk, List.mem_cons, not_or] at h
    rw [alter, if_neg (Ne.symm h.1), alterEach_of_not_mem kids h.2]

theorem alterEach_of_not_mem :
    ∀ (bs : List Branch), id ∉ idsOf bs → alterEach id f bs = bs
  | [], _ => rfl
  | b :: bs, h => by
    rw [idsOf_cons, List.mem_append, not_or] at h
    rw [alterEach, alter_of_not_mem b h.1, alterEach_of_not_mem bs h.2]

end

mutual

theorem linked_alter
    (hf : ∀ {parent} {b : Branch}, b.category.id = id → b.Linked parent →
      (f b).Linked parent) :
    ∀ {parent : Option String} (b : Branch), b.Linked parent → (alter id f b).Linked parent
  | _, .mk c kids ts, h => by
    rw [alter]
    split
    · next hid => exact hf hid h
    · exact ⟨h.1, linkedEach_alterEach hf kids h.2.1, h.2.2⟩

theorem linkedEach_alterEach
    (hf : ∀ {parent} {b : Branch}, b.category.id = id → b.Linked parent →
      (f b).Linked parent) :
    ∀ {parent : Option String} (bs : List Branch), LinkedEach parent bs →
      LinkedEach parent (alterEach id f bs)
  | _, [], _ => trivial
  | _, b :: bs, h => ⟨linked_alter hf b h.1, linkedEach_alterEach hf bs h.2⟩

end

end Alter

/-- Up to order, a forest has the categories and the task types of another and the given ones. -/
structure Extends (bs bs' : List Branch) (cs : List Category) (ts : List TaskType) : Prop where
  categories : (categoriesOf bs').Perm (cs ++ categoriesOf bs)
  types : (typesOf bs').Perm (ts ++ typesOf bs)

section Extends

variable {cs : List Category} {ts : List TaskType}

theorem Extends.trans {bs bs' bs'' : List Branch} {cs' : List Category} {ts' : List TaskType}
    (h : Extends bs bs' cs ts) (h' : Extends bs' bs'' cs' ts') :
  Extends bs bs'' (cs ++ cs') (ts ++ ts')
  where
  categories := by
    apply h'.categories.trans
    apply (h.categories.append_left cs').trans
    rw [List.append_assoc]
    apply List.perm_append_comm_assoc
  types := by
    apply h'.types.trans
    apply (h.types.append_left ts').trans
    rw [List.append_assoc]
    apply List.perm_append_comm_assoc

theorem Extends.cons_left {b b' : Branch} (h : Extends [b] [b'] cs ts) (bs : List Branch) :
  Extends (b :: bs) (b' :: bs) cs ts
  := by
  obtain ⟨hcategories, htypes⟩ := h
  simp only [categoriesOf, typesOf, List.append_nil] at hcategories htypes
  constructor
  · rw [categoriesOf, categoriesOf, ← List.append_assoc]
    apply hcategories.append_right
  · rw [typesOf, typesOf, ← List.append_assoc]
    apply htypes.append_right

theorem Extends.cons_right {bs bs' : List Branch} (h : Extends bs bs' cs ts) (b : Branch) :
  Extends (b :: bs) (b :: bs') cs ts
  where
  categories := by
    rw [categoriesOf, categoriesOf]
    apply (h.categories.append_left b.categories).trans
    rw [← List.append_assoc, ← List.append_assoc]
    apply List.perm_append_comm.append_right
  types := by
    rw [typesOf, typesOf]
    apply (h.types.append_left b.allTypes).trans
    rw [← List.append_assoc, ← List.append_assoc]
    apply List.perm_append_comm.append_right

theorem Extends.branch {kids kids' : List Branch} (h : Extends kids kids' cs ts) (c : Category)
    (own : List TaskType) :
  Extends [.mk c kids own] [.mk c kids' own] cs ts
  where
  categories := by
    simp only [categoriesOf, List.append_nil]
    apply (h.categories.cons c).trans
    apply List.perm_middle.symm
  types := by
    simp only [typesOf, allTypes, List.append_nil]
    rw [← List.append_assoc]
    apply h.types.append_right

theorem extends_append_leaf (k : Category) (bs : List Branch) :
  Extends bs (bs ++ [leaf k]) [k] []
  where
  categories := by
    have hcategories : categoriesOf (bs ++ [leaf k]) = categoriesOf bs ++ [k] := by
      simp [categoriesOf_eq, leaf, categories]
    rw [hcategories]
    apply List.perm_append_singleton
  types := by
    simp [typesOf_eq, leaf, allTypes]

theorem extends_withChild (k : Category) (b : Branch) :
  Extends [b] [withChild (leaf k) b] [k] []
  := by
  obtain ⟨c, kids, own⟩ := b
  apply (extends_append_leaf k kids).branch

theorem extends_withType (t : TaskType) (b : Branch) :
  Extends [b] [withType t b] [] [t]
  := by
  obtain ⟨c, kids, own⟩ := b
  constructor
  · simp [withType, categoriesOf, categories]
  · simp only [withType, typesOf, allTypes, List.append_nil]
    rw [← List.append_assoc]
    apply List.perm_append_singleton

end Extends

section AlterOnce

variable {id : String} {f : Branch → Branch} {cs : List Category} {ts : List TaskType}

mutual

/-- Where ids are distinct, what a change adds to the branch of an id is added to the whole. -/
theorem extends_alter (hf : ∀ b, Extends [b] [f b] cs ts) :
    ∀ (b : Branch), b.ids.Nodup → id ∈ b.ids → Extends [b] [alter id f b] cs ts
  | .mk c kids own, hnodup, hid => by
    rw [alter]
    split
    · apply hf
    · next hother =>
      rw [ids_mk, List.nodup_cons] at hnodup
      rw [ids_mk, List.mem_cons, or_iff_right (Ne.symm hother)] at hid
      apply Extends.branch
      exact extends_alterEach hf kids hnodup.2 hid

theorem extends_alterEach (hf : ∀ b, Extends [b] [f b] cs ts) :
    ∀ (bs : List Branch), (idsOf bs).Nodup → id ∈ idsOf bs → Extends bs (alterEach id f bs) cs ts
  | b :: bs, hnodup, hid => by
    rw [idsOf_cons, List.nodup_append] at hnodup
    obtain ⟨hb, hbs, hdisjoint⟩ := hnodup
    rw [idsOf_cons, List.mem_append] at hid
    rw [alterEach]
    obtain hid | hid := hid
    · have hrest : id ∉ idsOf bs := fun h => hdisjoint id hid id h rfl
      rw [alterEach_of_not_mem bs hrest]
      apply Extends.cons_left
      exact extends_alter hf b hb hid
    · have hfirst : id ∉ b.ids := fun h => hdisjoint id h id hid rfl
      rw [alter_of_not_mem b hfirst]
      apply Extends.cons_right
      exact extends_alterEach hf bs hbs hid

end

end AlterOnce

/-! ### Sorting -/

mutual

theorem linked_sorted :
    ∀ {parent : Option String} (b : Branch), b.Linked parent → b.sorted.Linked parent
  | _, .mk c kids ts, h => by
    refine ⟨h.1, ?_, ?_⟩
    · rw [linkedEach_iff]
      intro b hb
      rw [(sortOn_perm _ _).mem_iff] at hb
      exact linkedEach_iff.mp (linkedEach_sortedEach kids h.2.1) b hb
    · intro t ht
      rw [(sortOn_perm _ _).mem_iff] at ht
      exact h.2.2 t ht

theorem linkedEach_sortedEach :
    ∀ {parent : Option String} (bs : List Branch), LinkedEach parent bs →
      LinkedEach parent (sortedEach bs)
  | _, [], _ => trivial
  | _, b :: bs, h => ⟨linked_sorted b h.1, linkedEach_sortedEach bs h.2⟩

end

mutual

theorem categories_sorted_perm :
    ∀ (b : Branch), b.sorted.categories.Perm b.categories
  | .mk c kids ts => by
    rw [sorted, categories, categories, categoriesOf_eq]
    apply List.Perm.cons
    apply ((sortOn_perm name _).flatMap_right categories).trans
    rw [← categoriesOf_eq]
    exact categoriesOf_sortedEach_perm kids

theorem categoriesOf_sortedEach_perm :
    ∀ (bs : List Branch), (categoriesOf (sortedEach bs)).Perm (categoriesOf bs)
  | [] => .nil
  | b :: bs => (categories_sorted_perm b).append (categoriesOf_sortedEach_perm bs)

end

mutual

theorem allTypes_sorted_perm :
    ∀ (b : Branch), b.sorted.allTypes.Perm b.allTypes
  | .mk c kids ts => by
    rw [sorted, allTypes, allTypes, typesOf_eq]
    apply List.Perm.append _ (sortOn_perm TaskType.name ts)
    apply ((sortOn_perm name _).flatMap_right allTypes).trans
    rw [← typesOf_eq]
    exact typesOf_sortedEach_perm kids

theorem typesOf_sortedEach_perm :
    ∀ (bs : List Branch), (typesOf (sortedEach bs)).Perm (typesOf bs)
  | [] => .nil
  | b :: bs => (allTypes_sorted_perm b).append (typesOf_sortedEach_perm bs)

end

/-! ### Well-formed forests -/

/-- All names what it is under, and ids are distinct. -/
structure WellFormed (bs : List Branch) : Prop where
  linked : LinkedEach none bs
  ids_nodup : (idsOf bs).Nodup
  type_ids_nodup : ((typesOf bs).map TaskType.id).Nodup

theorem wellFormed_nil :
  WellFormed []
  where
  linked := trivial
  ids_nodup := List.nodup_nil
  type_ids_nodup := List.nodup_nil

/-- A linked forest is well formed, if what it extends another by has new ids. -/
theorem wellFormed_of_extends {bs bs' : List Branch} {cs : List Category} {ts : List TaskType}
    (hextends : Extends bs bs' cs ts) (hlinked : LinkedEach none bs')
    (hids : (cs.map Category.id ++ idsOf bs).Nodup)
    (htypes : (ts.map TaskType.id ++ (typesOf bs).map TaskType.id).Nodup) :
  WellFormed bs'
  where
  linked := hlinked
  ids_nodup := by
    rw [idsOf, (hextends.categories.map Category.id).nodup_iff, List.map_append]
    exact hids
  type_ids_nodup := by
    rw [(hextends.types.map TaskType.id).nodup_iff, List.map_append]
    exact htypes

/-- Sorting the siblings of a forest adds nothing. -/
theorem extends_sorted (bs : List Branch) :
  Extends bs (sortOn name (sortedEach bs)) [] []
  where
  categories := by
    rw [categoriesOf_eq]
    apply ((sortOn_perm name _).flatMap_right categories).trans
    rw [← categoriesOf_eq]
    apply categoriesOf_sortedEach_perm
  types := by
    rw [typesOf_eq]
    apply ((sortOn_perm name _).flatMap_right allTypes).trans
    rw [← typesOf_eq]
    apply typesOf_sortedEach_perm

theorem WellFormed.sorted {bs : List Branch} (h : WellFormed bs) :
  WellFormed (sortOn name (sortedEach bs))
  := by
  apply wellFormed_of_extends (extends_sorted bs) _ h.ids_nodup h.type_ids_nodup
  rw [linkedEach_iff]
  intro b hb
  rw [(sortOn_perm _ _).mem_iff] at hb
  exact linkedEach_iff.mp (linkedEach_sortedEach bs h.linked) b hb

end Branch

namespace Builder

variable {b b' : Builder}

theorem hasCategory_iff {id : String} :
  b.hasCategory id = true ↔ id ∈ Branch.idsOf b.roots
  := by
  simp [hasCategory, Branch.idsOf]

theorem hasType_iff {id : String} :
  b.hasType id = true ↔ id ∈ (Branch.typesOf b.roots).map TaskType.id
  := by
  simp [hasType]

/-- A category with a new id is taken in as a root, or under a category that is there. -/
theorem addCategory_eq_ok {k : Category} :
  b.addCategory k = .ok b' ↔ k.id ∉ Branch.idsOf b.roots
    ∧ ((k.parent = none ∧ b' = ⟨b.roots ++ [.leaf k]⟩)
      ∨ ∃ parent, k.parent = some parent ∧ parent ∈ Branch.idsOf b.roots
        ∧ b' = ⟨Branch.alterEach parent (Branch.withChild (.leaf k)) b.roots⟩)
  := by
  rw [addCategory]
  by_cases hid : k.id ∈ Branch.idsOf b.roots
  · simp [hasCategory_iff.mpr hid, hid]
  · rw [if_neg (mt hasCategory_iff.mp hid)]
    cases hparent : k.parent with
    | none => simp [hid, eq_comm]
    | some parent =>
      by_cases hthere : parent ∈ Branch.idsOf b.roots
      · simp [hasCategory_iff.mpr hthere, hid, hthere, eq_comm]
      · simp [mt hasCategory_iff.mp hthere, hthere]

/-- A task type with a new id is taken in under its category, if that is there. -/
theorem addType_eq_ok {t : TaskType} :
  b.addType t = .ok b' ↔ t.id ∉ (Branch.typesOf b.roots).map TaskType.id
    ∧ t.category ∈ Branch.idsOf b.roots
    ∧ b' = ⟨Branch.alterEach t.category (Branch.withType t) b.roots⟩
  := by
  rw [addType]
  by_cases hid : t.id ∈ (Branch.typesOf b.roots).map TaskType.id
  · simp only [hasType_iff.mpr hid, hid]
    simp
  · rw [if_neg (mt hasType_iff.mp hid)]
    by_cases hthere : t.category ∈ Branch.idsOf b.roots
    · simp only [hasCategory_iff.mpr hthere, hid, hthere]
      simp [eq_comm]
    · simp only [mt hasCategory_iff.mp hthere, hthere]
      simp

theorem extends_addCategory (h : Branch.WellFormed b.roots) {k : Category}
    (hb : b.addCategory k = .ok b') :
  Branch.Extends b.roots b'.roots [k] []
  := by
  obtain ⟨-, ⟨-, rfl⟩ | ⟨parent, -, hthere, rfl⟩⟩ := addCategory_eq_ok.mp hb
  · apply Branch.extends_append_leaf
  · exact Branch.extends_alterEach (Branch.extends_withChild k) b.roots h.ids_nodup hthere

theorem extends_addType (h : Branch.WellFormed b.roots) {t : TaskType}
    (hb : b.addType t = .ok b') :
  Branch.Extends b.roots b'.roots [] [t]
  := by
  obtain ⟨-, hthere, rfl⟩ := addType_eq_ok.mp hb
  exact Branch.extends_alterEach (Branch.extends_withType t) b.roots h.ids_nodup hthere

theorem wellFormed_addCategory (h : Branch.WellFormed b.roots) {k : Category}
    (hb : b.addCategory k = .ok b') :
  Branch.WellFormed b'.roots
  := by
  obtain ⟨hid, hplace⟩ := addCategory_eq_ok.mp hb
  have hids : ([k].map Category.id ++ Branch.idsOf b.roots).Nodup :=
    List.nodup_cons.mpr ⟨hid, h.ids_nodup⟩
  apply Branch.wellFormed_of_extends (extends_addCategory h hb) _ hids h.type_ids_nodup
  obtain ⟨hroot, rfl⟩ | ⟨parent, hparent, -, rfl⟩ := hplace
  · rw [Branch.linkedEach_append]
    exact ⟨h.linked, Branch.linked_leaf.mpr hroot, trivial⟩
  · apply Branch.linkedEach_alterEach _ b.roots h.linked
    rintro above ⟨c, kids, ts⟩ rfl ⟨habove, hkids, hts⟩
    refine ⟨habove, ?_, hts⟩
    rw [Branch.linkedEach_append]
    exact ⟨hkids, Branch.linked_leaf.mpr hparent, trivial⟩

theorem wellFormed_addType (h : Branch.WellFormed b.roots) {t : TaskType}
    (hb : b.addType t = .ok b') :
  Branch.WellFormed b'.roots
  := by
  obtain ⟨hid, -, rfl⟩ := addType_eq_ok.mp hb
  have htypes : ([t].map TaskType.id ++ (Branch.typesOf b.roots).map TaskType.id).Nodup :=
    List.nodup_cons.mpr ⟨hid, h.type_ids_nodup⟩
  apply Branch.wellFormed_of_extends (extends_addType h hb) _ h.ids_nodup htypes
  apply Branch.linkedEach_alterEach _ b.roots h.linked
  rintro above ⟨c, kids, ts⟩ hc ⟨habove, hkids, hts⟩
  refine ⟨habove, hkids, ?_⟩
  intro u hu
  obtain hu | rfl := List.mem_append.mp hu |>.imp_right List.mem_singleton.mp
  · exact hts u hu
  · exact hc.symm

/-- No step takes the forest of a builder out of form. -/
theorem wellFormed_apply (h : Branch.WellFormed b.roots) {s : Step} (hb : b.apply s = .ok b') :
  Branch.WellFormed b'.roots
  := by
  cases s with
  | category k => exact wellFormed_addCategory h hb
  | type t => exact wellFormed_addType h hb

/-- The forest of a builder is well formed after any steps, the refused ones left out. -/
theorem wellFormed_run (h : Branch.WellFormed b.roots) (steps : List Step) :
  Branch.WellFormed (b.run steps).1.roots
  := by
  induction steps generalizing b with
  | nil => exact h
  | cons s rest ih =>
    rw [run]
    split
    · next hb => exact ih (wellFormed_apply h hb)
    · exact ih h

/-- The catalog of what was added to a builder is well formed. -/
theorem wellFormed_build (steps : List Step) :
  Branch.WellFormed (empty.run steps).1.build.roots
  := (wellFormed_run Branch.wellFormed_nil steps).sorted

end Builder

end TaskDesk
