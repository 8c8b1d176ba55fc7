import TaskDesk.Proofs.Catalog.Siblings

/-!
# Catalogs in tables

A catalog can be held in two tables, one of the categories and one of the task types, both by id, in
which a category has the ids of its children and of its task types.  The entries of a table come in
no order that could be relied on: between any two steps they may be `Rearranged`.  However they are,
the steps give the same errors as those of a builder, and what is read from the tables in the end is
the catalog of the builder: `Tables.holds_of_reaches`.
-/

namespace TaskDesk

open TaskDesk.Text
open TaskDesk.Builder (Step)

/-! ### Keyed lists -/

namespace Keyed

variable {α β : Type} {key : α → String} {xs : List α} {id : String}

theorem find?_key_eq_none (h : id ∉ xs.map key) :
  (xs.find? fun x => key x = id) = none
  := by
  rw [List.find?_eq_none]
  intro x hx hid
  apply h
  rw [← of_decide_eq_true hid]
  apply List.mem_map_of_mem hx

theorem isSome_find?_key_iff :
  (xs.find? fun x => key x = id).isSome = true ↔ id ∈ xs.map key
  := by
  simp [List.find?_isSome]

/-- What is put under a new key comes after what is there. -/
theorem find?_put_of_new {g : α → β} {x : α} (hid : key x ∉ xs.map key)
    {entries : List (String × β)}
    (hentries : ∀ id, find? id entries = (xs.find? fun y => key y = id).map g) (id : String) :
  find? id (put (key x) (g x) entries) = ((xs ++ [x]).find? fun y => key y = id).map g
  := by
  rw [find?_put, List.find?_append]
  split
  · next hx =>
    rw [hx, find?_key_eq_none hid, Option.none_or, List.find?_cons_of_pos (by simp),
      Option.map_some]
  · next hx =>
    have hnone : ([x].find? fun y => key y = id) = none := by simpa using Ne.symm hx
    rw [hentries, hnone, Option.or_none]

/-- What is found under the keys of a list is the list. -/
theorem filterMap_map_of_find? {found : String → Option α}
    (h : ∀ x ∈ xs, found (key x) = some x) :
  (xs.map key).filterMap found = xs
  := by
  induction xs with
  | nil => rfl
  | cons x xs ih =>
    rw [List.forall_mem_cons] at h
    rw [List.map_cons, List.filterMap_cons_some h.1, ih h.2]

end Keyed

/-! ### Tables -/

/-- A category in a table, with the ids of its children and of its task types. -/
structure CategoryEntry where
  category : Category
  children : List String
  types : List String

/-- Categories and task types by their ids, and the ids of the roots. -/
structure Tables where
  categories : List (String × CategoryEntry)
  types : List (String × TaskType)
  roots : List String

namespace Tables

/-- Nothing added yet. -/
def empty : Tables := ⟨[], [], []⟩

/-- The tables with a category. -/
def addCategory (T : Tables) (k : Category) : Except CatalogError Tables :=
  if Keyed.has k.id T.categories then .error (.duplicateCategory k.id)
  else
    match k.parent with
    | none =>
      .ok { T with
        categories := Keyed.put k.id ⟨k, [], []⟩ T.categories,
        roots := T.roots ++ [k.id] }
    | some parent =>
      match Keyed.find? parent T.categories with
      | none => .error (.unknownParent k.id parent)
      | some e =>
        let categories := Keyed.put parent { e with children := e.children ++ [k.id] } T.categories
        .ok { T with categories := Keyed.put k.id ⟨k, [], []⟩ categories }

/-- The tables with a task type. -/
def addType (T : Tables) (t : TaskType) : Except CatalogError Tables :=
  if Keyed.has t.id T.types then .error (.duplicateTaskType t.id)
  else
    match Keyed.find? t.category T.categories with
    | none => .error (.unknownCategory t.id t.category)
    | some e =>
      .ok { T with
        categories := Keyed.put t.category { e with types := e.types ++ [t.id] } T.categories,
        types := Keyed.put t.id t T.types }

/-- The tables after a step. -/
def apply (T : Tables) : Step → Except CatalogError Tables
  | .category k => T.addCategory k
  | .type t => T.addType t

/-- Whether tables have the same entries, in whatever order. -/
structure Rearranged (T T' : Tables) : Prop where
  categories : T.categories.Perm T'.categories
  types : T.types.Perm T'.types
  roots : T.roots = T'.roots

theorem Rearranged.refl (T : Tables) :
  T.Rearranged T
  where
  categories := List.Perm.refl T.categories
  types := List.Perm.refl T.types
  roots := rfl

/-- Whether steps can make tables of others, where entries may be rearranged at any time; the errors
are those of the refused steps. -/
inductive Reaches : Tables → List Step → List (Option CatalogError) → Tables → Prop where
  | nil {T T' : Tables} (h : T.Rearranged T') : Reaches T [] [] T'
  | ok {T T₁ T₂ T' : Tables} {s : Step} {steps : List Step} {errors : List (Option CatalogError)}
      (h : T.Rearranged T₁) (hs : T₁.apply s = .ok T₂) (hsteps : Reaches T₂ steps errors T') :
      Reaches T (s :: steps) (none :: errors) T'
  | error {T T₁ T' : Tables} {s : Step} {e : CatalogError} {steps : List Step}
      {errors : List (Option CatalogError)} (h : T.Rearranged T₁) (hs : T₁.apply s = .error e)
      (hsteps : Reaches T₁ steps errors T') : Reaches T (s :: steps) (some e :: errors) T'

/-- Any steps can be taken. -/
theorem exists_reaches (T : Tables) (steps : List Step) :
  ∃ errors T', T.Reaches steps errors T'
  := by
  induction steps generalizing T with
  | nil => use [], T, Reaches.nil (.refl T)
  | cons s steps ih =>
    cases hs : T.apply s with
    | ok T₂ =>
      obtain ⟨errors, T', hsteps⟩ := ih T₂
      use none :: errors, T', Reaches.ok (.refl T) hs hsteps
    | error e =>
      obtain ⟨errors, T', hsteps⟩ := ih T
      use some e :: errors, T', Reaches.error (.refl T) hs hsteps

/-- The order of names that may be missing, which come first. -/
def missingLe : Option String → Option String → Bool
  | none, _ => true
  | some _, none => false
  | some a, some b => nameLe a b

/-- Ids in the order of the names that a table gives them; ids of one name keep their order. -/
def sortIds (names : List (String × String)) (ids : List String) : List String :=
  ids.mergeSort fun a b => missingLe (Keyed.find? a names) (Keyed.find? b names)

/-- The names of the categories by id. -/
def categoryNames (T : Tables) : List (String × String) :=
  Keyed.ofList (T.categories.map fun e => (e.2.category.id, e.2.category.name))

/-- The names of the task types by id. -/
def typeNames (T : Tables) : List (String × String) :=
  T.types.map fun e => (e.1, e.2.name)

/-- An entry with its children and its task types sorted by name. -/
def sortEntry (T : Tables) (e : CategoryEntry) : CategoryEntry where
  category := e.category
  children := sortIds T.categoryNames e.children
  types := sortIds T.typeNames e.types

/-- The tables with all siblings sorted by name. -/
def build (T : Tables) : Tables where
  categories := T.categories.map fun e => (e.1, T.sortEntry e.2)
  types := T.types
  roots := sortIds T.categoryNames T.roots

/-- The categories of ids. -/
def resolve (T : Tables) (ids : List String) : List Category :=
  ids.filterMap fun id => (Keyed.find? id T.categories).map CategoryEntry.category

/-- The root categories. -/
def rootCategories (T : Tables) : List Category :=
  T.resolve T.roots

/-- The child categories of the category with an id. -/
def children (T : Tables) (id : String) : List Category :=
  T.resolve ((Keyed.find? id T.categories).elim [] CategoryEntry.children)

/-- The task types of the category with an id. -/
def taskTypes (T : Tables) (id : String) : List TaskType :=
  ((Keyed.find? id T.categories).elim [] CategoryEntry.types).filterMap fun id =>
    Keyed.find? id T.types

/-- Whether reading from the tables gives a catalog: the same roots, and below each category the
same children and the same task types. -/
structure Holds (T : Tables) (c : Catalog) : Prop where
  roots : T.rootCategories = c.roots.map Branch.category
  children : ∀ b ∈ Branch.branchesOf c.roots,
    T.children b.category.id = b.children.map Branch.category
  types : ∀ b ∈ Branch.branchesOf c.roots, T.taskTypes b.category.id = b.types

/-! ### What tables hold -/

/-- The entry of a category in the tables of given categories and task types. -/
def entry (ks : List Category) (ts : List TaskType) (k : Category) : CategoryEntry where
  category := k
  children := (ks.filter fun q => q.parent = some k.id).map Category.id
  types := (ts.filter fun t => t.category = k.id).map TaskType.id

/-- Whether tables are those of given categories and task types, in the order in which they were
added, each after the category that it names. -/
structure Represents (T : Tables) (ks : List Category) (ts : List TaskType) : Prop where
  category_keys : (Keyed.keys T.categories).Nodup
  type_keys : (Keyed.keys T.types).Nodup
  parents : ∀ k ∈ ks, ∀ p, k.parent = some p → p ∈ ks.map Category.id
  type_categories : ∀ t ∈ ts, t.category ∈ ks.map Category.id
  find_category : ∀ id, Keyed.find? id T.categories
    = (ks.find? fun k => k.id = id).map (entry ks ts)
  find_type : ∀ id, Keyed.find? id T.types = ts.find? fun t => t.id = id
  roots : T.roots = (ks.filter fun k => k.parent = none).map Category.id

section Represents

variable {T T' : Tables} {ks : List Category} {ts : List TaskType}

theorem represents_empty :
  empty.Represents [] []
  where
  category_keys := List.nodup_nil
  type_keys := List.nodup_nil
  parents := by simp
  type_categories := by simp
  find_category _ := rfl
  find_type _ := rfl
  roots := rfl

theorem Represents.rearranged (h : T.Represents ks ts) (hT : T.Rearranged T') :
  T'.Represents ks ts
  where
  category_keys := (hT.categories.map Prod.fst).nodup_iff.mp h.category_keys
  type_keys := (hT.types.map Prod.fst).nodup_iff.mp h.type_keys
  parents := h.parents
  type_categories := h.type_categories
  find_category id := by
    rw [← Keyed.find?_of_perm hT.categories h.category_keys]
    apply h.find_category
  find_type id := by
    rw [← Keyed.find?_of_perm hT.types h.type_keys]
    apply h.find_type
  roots := hT.roots.symm.trans h.roots

theorem Represents.has_category_iff (h : T.Represents ks ts) {id : String} :
  Keyed.has id T.categories = true ↔ id ∈ ks.map Category.id
  := by
  rw [Keyed.has, h.find_category, Option.isSome_map, Keyed.isSome_find?_key_iff]

theorem Represents.has_type_iff (h : T.Represents ks ts) {id : String} :
  Keyed.has id T.types = true ↔ id ∈ ts.map TaskType.id
  := by
  rw [Keyed.has, h.find_type, Keyed.isSome_find?_key_iff]

theorem entry_append_category (k q : Category) :
  entry (ks ++ [k]) ts q
    = { entry ks ts q with
        children := (entry ks ts q).children ++ if k.parent = some q.id then [k.id] else [] }
  := by
  by_cases hparent : k.parent = some q.id <;> simp [entry, hparent]

theorem entry_append_type (t : TaskType) (q : Category) :
  entry ks (ts ++ [t]) q
    = { entry ks ts q with
        types := (entry ks ts q).types ++ if t.category = q.id then [t.id] else [] }
  := by
  by_cases hcategory : t.category = q.id <;> simp [entry, hcategory]

/-- A category that is new has no children and no task types. -/
theorem Represents.entry_new (h : T.Represents ks ts) {k : Category}
    (hid : k.id ∉ ks.map Category.id) (hparent : k.parent ≠ some k.id) :
  entry (ks ++ [k]) ts k = ⟨k, [], []⟩
  := by
  have hchildren : (ks.filter fun q => q.parent = some k.id) = [] := by
    rw [List.filter_eq_nil_iff]
    intro q hq hqk
    apply hid (h.parents q hq k.id (of_decide_eq_true hqk))
  have htypes : (ts.filter fun t => t.category = k.id) = [] := by
    rw [List.filter_eq_nil_iff]
    intro t ht htk
    apply hid
    rw [← of_decide_eq_true htk]
    apply h.type_categories t ht
  rw [entry_append_category, if_neg hparent, entry, hchildren, htypes]
  rfl

/-- What is put under an id changes the entry of that id alone. -/
theorem find?_put_of_find? {entries : List (String × CategoryEntry)} {p : String} {q : Category}
    {f g : Category → CategoryEntry}
    (hentries : ∀ id, Keyed.find? id entries = (ks.find? fun k => k.id = id).map f)
    (hq : (ks.find? fun k => k.id = p) = some q) (hother : ∀ k, k.id ≠ p → f k = g k)
    (id : String) :
  Keyed.find? id (Keyed.put p (g q) entries) = (ks.find? fun k => k.id = id).map g
  := by
  rw [Keyed.find?_put]
  split
  · next hid =>
    rw [hid, hq]
    rfl
  · next hid =>
    rw [hentries]
    apply Option.map_congr
    intro k hk
    apply hother
    have hkid : k.id = id := by simpa using List.find?_some hk
    rwa [hkid]

/-- Tables with the entry of a new category are those of the categories with the new one, if the
other entries count it among the children of its parent. -/
theorem Represents.append_category (h : T.Represents ks ts) {k : Category}
    (hid : k.id ∉ ks.map Category.id) (hparent : ∀ p, k.parent = some p → p ∈ ks.map Category.id)
    {entries : List (String × CategoryEntry)} (hkeys : (Keyed.keys entries).Nodup)
    (hentries : ∀ id, Keyed.find? id entries
      = (ks.find? fun q => q.id = id).map (entry (ks ++ [k]) ts)) :
  Represents ⟨Keyed.put k.id ⟨k, [], []⟩ entries, T.types,
    ((ks ++ [k]).filter fun k => k.parent = none).map Category.id⟩ (ks ++ [k]) ts
  where
  category_keys := Keyed.nodup_keys_put hkeys
  type_keys := h.type_keys
  parents := by
    rw [List.forall_mem_append, List.forall_mem_singleton, List.map_append]
    constructor
    · intro q hq p hp
      apply List.mem_append_left _ (h.parents q hq p hp)
    · intro p hp
      apply List.mem_append_left _ (hparent p hp)
  type_categories := by
    intro t ht
    rw [List.map_append]
    apply List.mem_append_left _ (h.type_categories t ht)
  find_category := by
    have hself : k.parent ≠ some k.id := fun hself => hid (hparent k.id hself)
    rw [← h.entry_new hid hself]
    apply Keyed.find?_put_of_new hid hentries
  find_type := h.find_type
  roots := rfl

theorem Represents.append_root (h : T.Represents ks ts) {k : Category}
    (hid : k.id ∉ ks.map Category.id) (hroot : k.parent = none) :
  Represents ⟨Keyed.put k.id ⟨k, [], []⟩ T.categories, T.types, T.roots ++ [k.id]⟩ (ks ++ [k]) ts
  := by
  have hroots : T.roots ++ [k.id]
      = ((ks ++ [k]).filter fun k => k.parent = none).map Category.id := by
    simp [h.roots, hroot]
  rw [hroots]
  apply h.append_category hid (by simp [hroot]) h.category_keys
  intro id
  rw [h.find_category]
  apply Option.map_congr
  intro q _
  rw [entry_append_category, hroot, if_neg (by simp), List.append_nil]

theorem Represents.append_child (h : T.Represents ks ts) {k q : Category} {p : String}
    (hid : k.id ∉ ks.map Category.id) (hparent : k.parent = some p)
    (hq : (ks.find? fun q => q.id = p) = some q) :
  Represents ⟨Keyed.put k.id ⟨k, [], []⟩ (Keyed.put p
      { entry ks ts q with children := (entry ks ts q).children ++ [k.id] } T.categories),
    T.types, T.roots⟩ (ks ++ [k]) ts
  := by
  have hqid : q.id = p := by simpa using List.find?_some hq
  have hroots : T.roots = ((ks ++ [k]).filter fun k => k.parent = none).map Category.id := by
    simp [h.roots, hparent]
  have hentry : { entry ks ts q with children := (entry ks ts q).children ++ [k.id] }
      = entry (ks ++ [k]) ts q := by
    rw [entry_append_category, hparent, hqid, if_pos rfl]
  rw [hroots, hentry]
  apply h.append_category hid _ (Keyed.nodup_keys_put h.category_keys)
  · apply find?_put_of_find? h.find_category hq
    intro q' hq'
    rw [entry_append_category, hparent, if_neg (by simpa using Ne.symm hq'), List.append_nil]
  · intro p' hp'
    rw [hparent, Option.some.injEq] at hp'
    rw [← hp', ← hqid]
    apply List.mem_map_of_mem (List.mem_of_find?_eq_some hq)

theorem Represents.addCategory (h : T.Represents ks ts) {k : Category}
    (hT : T.addCategory k = .ok T') :
  T'.Represents (ks ++ [k]) ts
  := by
  rw [Tables.addCategory] at hT
  split at hT
  · cases hT
  next hnew =>
  have hid : k.id ∉ ks.map Category.id := mt h.has_category_iff.mpr hnew
  cases hparent : k.parent with
  | none =>
    rw [hparent] at hT
    cases hT
    apply h.append_root hid hparent
  | some p =>
    rw [hparent] at hT
    cases hfind : Keyed.find? p T.categories with
    | none => simp [hfind] at hT
    | some e =>
      simp only [hfind, Except.ok.injEq] at hT
      subst hT
      rw [h.find_category, Option.map_eq_some_iff] at hfind
      obtain ⟨q, hq, rfl⟩ := hfind
      apply h.append_child hid hparent hq

theorem Represents.addType (h : T.Represents ks ts) {t : TaskType} (hT : T.addType t = .ok T') :
  T'.Represents ks (ts ++ [t])
  := by
  rw [Tables.addType] at hT
  split at hT
  · cases hT
  next hnew =>
  have hid : t.id ∉ ts.map TaskType.id := mt h.has_type_iff.mpr hnew
  cases hfind : Keyed.find? t.category T.categories with
  | none => simp [hfind] at hT
  | some e =>
    simp only [hfind, Except.ok.injEq] at hT
    subst hT
    rw [h.find_category, Option.map_eq_some_iff] at hfind
    obtain ⟨q, hq, rfl⟩ := hfind
    have hqid : q.id = t.category := by simpa using List.find?_some hq
    have hentry : { entry ks ts q with types := (entry ks ts q).types ++ [t.id] }
        = entry ks (ts ++ [t]) q := by
      rw [entry_append_type, hqid, if_pos rfl]
    rw [hentry]
    constructor
    case category_keys => apply Keyed.nodup_keys_put h.category_keys
    case type_keys => apply Keyed.nodup_keys_put h.type_keys
    case parents => apply h.parents
    case type_categories =>
      rw [List.forall_mem_append, List.forall_mem_singleton, ← hqid]
      use h.type_categories, List.mem_map_of_mem (List.mem_of_find?_eq_some hq)
    case find_category =>
      apply find?_put_of_find? h.find_category hq
      intro q' hq'
      rw [entry_append_type, if_neg (Ne.symm hq'), List.append_nil]
    case find_type =>
      have hentries (id : String) :
          Keyed.find? id T.types = (ts.find? fun t => t.id = id).map fun t => t := by
        rw [Option.map_id', h.find_type]
      intro id
      have hput := Keyed.find?_put_of_new hid hentries id
      rwa [Option.map_id'] at hput
    case roots => apply h.roots

/-- What a step adds comes to what the tables hold. -/
theorem Represents.apply (h : T.Represents ks ts) {s : Step} (hT : T.apply s = .ok T') :
  T'.Represents (ks ++ s.categories) (ts ++ s.types)
  := by
  cases s with
  | category k =>
    rw [Step.types, List.append_nil]
    apply h.addCategory hT
  | type t =>
    rw [Step.categories, List.append_nil]
    apply h.addType hT

end Represents

/-! ### The steps of a builder -/

section Steps

variable {T T' : Tables} {b : Builder} {ks : List Category} {ts : List TaskType}

theorem Represents.hasCategory_eq (h : T.Represents ks ts)
    (hcategories : (Branch.categoriesOf b.roots).Perm ks) (id : String) :
  b.hasCategory id = Keyed.has id T.categories
  := by
  rw [Bool.eq_iff_iff, Builder.hasCategory_iff, h.has_category_iff, Branch.idsOf,
    (hcategories.map Category.id).mem_iff]

theorem Represents.hasType_eq (h : T.Represents ks ts)
    (htypes : (Branch.typesOf b.roots).Perm ts) (id : String) :
  b.hasType id = Keyed.has id T.types
  := by
  rw [Bool.eq_iff_iff, Builder.hasType_iff, h.has_type_iff, (htypes.map TaskType.id).mem_iff]

/-- Tables take in what a builder takes in that has the same, and refuse the rest with the same
error. -/
theorem Represents.map_apply (h : T.Represents ks ts)
    (hcategories : (Branch.categoriesOf b.roots).Perm ks)
    (htypes : (Branch.typesOf b.roots).Perm ts) (s : Step) :
  (T.apply s).map (fun _ => ()) = (b.apply s).map fun _ => ()
  := by
  cases s with
  | category k =>
    rw [Tables.apply, Builder.apply, Tables.addCategory, Builder.addCategory,
      h.hasCategory_eq hcategories]
    split
    · rfl
    · cases k.parent with
      | none => rfl
      | some p =>
        dsimp only
        rw [h.hasCategory_eq hcategories, Keyed.has]
        cases Keyed.find? p T.categories with
        | none => rfl
        | some e => rfl
  | type t =>
    rw [Tables.apply, Builder.apply, Tables.addType, Builder.addType, h.hasType_eq htypes,
      h.hasCategory_eq hcategories]
    split
    · rfl
    · rw [Keyed.has]
      cases Keyed.find? t.category T.categories with
      | none => rfl
      | some e => rfl

/-- However entries are rearranged, the errors of steps are those of a builder, and what the tables
hold in the end is what the builder has taken in. -/
theorem represents_of_reaches {steps : List Step} {errors : List (Option CatalogError)}
    (hrun : T.Reaches steps errors T') (h : T.Represents ks ts) (hb : Branch.WellFormed b.roots)
    (hcategories : (Branch.categoriesOf b.roots).Perm ks)
    (htypes : (Branch.typesOf b.roots).Perm ts) :
  errors = (b.run steps).2
    ∧ T'.Represents (ks ++ (b.accepted steps).flatMap Step.categories)
      (ts ++ (b.accepted steps).flatMap Step.types)
  := by
  induction hrun generalizing b ks ts with
  | nil hT =>
    use rfl
    rw [Builder.accepted_nil, List.flatMap_nil, List.flatMap_nil, List.append_nil,
      List.append_nil]
    apply h.rearranged hT
  | @ok T T₁ T₂ T' s steps errors hT hs _ ih =>
    have hsame := (h.rearranged hT).map_apply hcategories htypes s
    cases hb' : b.apply s with
    | error e => simp [hs, hb', Except.map] at hsame
    | ok b' =>
      obtain ⟨hcategories', htypes'⟩ := Builder.extends_apply hb hb'
      obtain ⟨rfl, hT'⟩ := ih ((h.rearranged hT).apply hs) (Builder.wellFormed_apply hb hb')
        (hcategories'.trans ((hcategories.append_left _).trans List.perm_append_comm))
        (htypes'.trans ((htypes.append_left _).trans List.perm_append_comm))
      rw [Builder.accepted_of_ok hb', List.flatMap_cons, List.flatMap_cons, ← List.append_assoc,
        ← List.append_assoc]
      constructor
      · simp only [Builder.run, hb']
      · apply hT'
  | @error T T₁ T' s e steps errors hT hs _ ih =>
    have hsame := (h.rearranged hT).map_apply hcategories htypes s
    cases hb' : b.apply s with
    | ok b' => simp [hs, hb', Except.map] at hsame
    | error e' =>
      obtain rfl : e = e' := by simpa [hs, hb', Except.map] using hsame
      obtain ⟨rfl, hT'⟩ := ih (h.rearranged hT) hb hcategories htypes
      rw [Builder.accepted_of_error hb']
      constructor
      · simp only [Builder.run, hb']
      · apply hT'

end Steps

/-! ### What is read from tables -/

section Reading

variable {T T' : Tables} {ks : List Category} {ts : List TaskType}

/-- Ids that stand for what has names are sorted as that is. -/
theorem sortIds_map {α : Type} {key name : α → String} {names : List (String × String)}
    {xs : List α} (h : ∀ x ∈ xs, Keyed.find? (key x) names = some (name x)) :
  sortIds names (xs.map key) = (sortOn name xs).map key
  := by
  symm
  apply List.map_mergeSort
  intro x hx y hy
  rw [h x hx, h y hy]
  rfl

theorem Represents.find_categoryNames (h : T.Represents ks ts) (hks : (ks.map Category.id).Nodup)
    {k : Category} (hk : k ∈ ks) :
  Keyed.find? k.id T.categoryNames = some k.name
  := by
  have hnames : (T.categories.map fun e => (e.2.category.id, e.2.category.name))
      = T.categories.map fun e => (e.1, e.2.category.name) := by
    apply List.map_congr_left
    intro e he
    have hfound := (Keyed.find?_eq_some_iff h.category_keys).mpr he
    rw [h.find_category, Option.map_eq_some_iff] at hfound
    obtain ⟨q, hq, hqe⟩ := hfound
    have hid : q.id = e.1 := by simpa using List.find?_some hq
    rw [← hqe, ← hid]
    rfl
  have hkeys : (Keyed.keys (T.categories.map fun e => (e.1, e.2.category.name))).Nodup := by
    rw [Keyed.keys, List.map_map]
    apply h.category_keys
  rw [categoryNames, hnames, Keyed.ofList_of_nodup hkeys,
    Keyed.find?_map fun e : CategoryEntry => e.category.name, h.find_category,
    (Keyed.find?_key_iff hks).mpr hk]
  rfl

theorem Represents.find_typeNames (h : T.Represents ks ts) (hts : (ts.map TaskType.id).Nodup)
    {t : TaskType} (ht : t ∈ ts) :
  Keyed.find? t.id T.typeNames = some t.name
  := by
  rw [typeNames, Keyed.find?_map, h.find_type, (Keyed.find?_key_iff hts).mpr ht]
  rfl

/-- The entry of a category after siblings were sorted. -/
def sortedEntry (ks : List Category) (ts : List TaskType) (k : Category) : CategoryEntry where
  category := k
  children := (sortOn Category.name (ks.filter fun q => q.parent = some k.id)).map Category.id
  types := (sortOn TaskType.name (ts.filter fun t => t.category = k.id)).map TaskType.id

/-- Whether tables are those of given categories and task types with all siblings sorted. -/
structure RepresentsSorted (T : Tables) (ks : List Category) (ts : List TaskType) : Prop where
  find_category : ∀ k ∈ ks, Keyed.find? k.id T.categories = some (sortedEntry ks ts k)
  find_type : ∀ t ∈ ts, Keyed.find? t.id T.types = some t
  roots : T.roots
    = (sortOn Category.name (ks.filter fun k => k.parent = none)).map Category.id

theorem Represents.build (h : T.Represents ks ts) (hks : (ks.map Category.id).Nodup)
    (hts : (ts.map TaskType.id).Nodup) (hT : T.build.Rearranged T') :
  T'.RepresentsSorted ks ts
  := by
  have hcategories {qs : List Category} (hqs : ∀ q ∈ qs, q ∈ ks) :
      sortIds T.categoryNames (qs.map Category.id) = (sortOn Category.name qs).map Category.id :=
    sortIds_map fun q hq => h.find_categoryNames hks (hqs q hq)
  have htypes {us : List TaskType} (hus : ∀ u ∈ us, u ∈ ts) :
      sortIds T.typeNames (us.map TaskType.id) = (sortOn TaskType.name us).map TaskType.id :=
    sortIds_map fun u hu => h.find_typeNames hts (hus u hu)
  constructor
  case find_category =>
    intro k hk
    have hkeys : (Keyed.keys T.build.categories).Nodup := by
      rw [Keyed.keys, Tables.build, List.map_map]
      apply h.category_keys
    rw [← Keyed.find?_of_perm hT.categories hkeys, Tables.build, Keyed.find?_map T.sortEntry,
      h.find_category, (Keyed.find?_key_iff hks).mpr hk, Option.map_some, Option.map_some,
      sortEntry, entry, hcategories fun q hq => (List.mem_filter.mp hq).1,
      htypes fun u hu => (List.mem_filter.mp hu).1, sortedEntry]
  case find_type =>
    intro t ht
    rw [← Keyed.find?_of_perm hT.types h.type_keys, Tables.build, h.find_type,
      (Keyed.find?_key_iff hts).mpr ht]
  case roots =>
    rw [← hT.roots, Tables.build, h.roots, hcategories fun q hq => (List.mem_filter.mp hq).1]

theorem RepresentsSorted.resolve (h : T.RepresentsSorted ks ts) {qs : List Category}
    (hqs : ∀ q ∈ qs, q ∈ ks) :
  T.resolve ((sortOn Category.name qs).map Category.id) = sortOn Category.name qs
  := by
  apply Keyed.filterMap_map_of_find?
  intro q hq
  rw [(sortOn_perm Category.name qs).mem_iff] at hq
  rw [h.find_category q (hqs q hq)]
  rfl

theorem RepresentsSorted.rootCategories (h : T.RepresentsSorted ks ts) :
  T.rootCategories = sortOn Category.name (ks.filter fun k => k.parent = none)
  := by
  rw [Tables.rootCategories, h.roots, h.resolve fun q hq => (List.mem_filter.mp hq).1]

theorem RepresentsSorted.children (h : T.RepresentsSorted ks ts) {k : Category} (hk : k ∈ ks) :
  T.children k.id = sortOn Category.name (ks.filter fun q => q.parent = some k.id)
  := by
  rw [Tables.children, h.find_category k hk, Option.elim_some, sortedEntry,
    h.resolve fun q hq => (List.mem_filter.mp hq).1]

theorem RepresentsSorted.taskTypes (h : T.RepresentsSorted ks ts) {k : Category} (hk : k ∈ ks) :
  T.taskTypes k.id = sortOn TaskType.name (ts.filter fun t => t.category = k.id)
  := by
  rw [Tables.taskTypes, h.find_category k hk, Option.elim_some, sortedEntry]
  apply Keyed.filterMap_map_of_find?
  intro t ht
  rw [(sortOn_perm TaskType.name _).mem_iff] at ht
  apply h.find_type t (List.mem_filter.mp ht).1

end Reading

/-- However entries are rearranged, what is read from tables after steps is the catalog that a
builder makes, and the errors are those of the builder. -/
theorem holds_of_reaches {T T' : Tables} {steps : List Step} {errors : List (Option CatalogError)}
    (hrun : empty.Reaches steps errors T) (hT : T.build.Rearranged T') :
  errors = (Builder.empty.run steps).2 ∧ T'.Holds (Builder.empty.run steps).1.build
  := by
  have hc : Branch.WellFormed (Builder.empty.run steps).1.build.roots :=
    Builder.wellFormed_build steps
  obtain ⟨rfl, hrepresents⟩ := represents_of_reaches (b := Builder.empty) hrun represents_empty
    Branch.wellFormed_nil (.refl _) (.refl _)
  rw [List.nil_append, List.nil_append] at hrepresents
  obtain ⟨hcategories, htypes⟩ := Builder.perm_build steps
  have hsorted := hrepresents.build ((hcategories.map Category.id).nodup_iff.mp hc.ids_nodup)
    ((htypes.map TaskType.id).nodup_iff.mp hc.type_ids_nodup) hT
  obtain ⟨hroots, hbranch⟩ := Builder.arranged_build steps
  have hbelow (b : Branch) (hb : b ∈ Branch.branchesOf (Builder.empty.run steps).1.build.roots) :
      T'.children b.category.id = b.children.map Branch.category
        ∧ T'.taskTypes b.category.id = b.types := by
    have hmem := hcategories.mem_iff.mp (Catalog.category_mem hb)
    obtain ⟨b', hb', hcategory, hchildren, htypes'⟩ := hbranch b.category hmem
    obtain rfl : b' = b :=
      hc.eq_of_category (List.mem_of_find?_eq_some hb') hb hcategory
    rw [hsorted.children hmem, hsorted.taskTypes hmem]
    use (stableSort_sortOn _ _).unique hchildren, (stableSort_sortOn _ _).unique htypes'
  use rfl
  constructor
  case roots =>
    rw [hsorted.rootCategories]
    apply (stableSort_sortOn _ _).unique hroots
  case children =>
    intro b hb
    apply (hbelow b hb).1
  case types =>
    intro b hb
    apply (hbelow b hb).2

end Tables

end TaskDesk
