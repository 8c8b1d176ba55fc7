import TaskDesk.Catalog.Format
import TaskDesk.Proofs.Json.Compact
import TaskDesk.Proofs.Json.Depth

/-!
# Catalog definitions read back

A catalog definition is read back from its JSON value as it is, whatever its nesting: every field
of every category and task type, in order, a list of drivers that is left out apart from an empty
one and an icon that is left out apart from an empty one.  From its JSON text, with and without
blanks, it is read back if the text is not nested too deep for a text, and refused otherwise, so
no definition is ever read back as another one: `read_back`.
-/

namespace TaskDesk

/-! ### Task types -/

namespace TypeDefinition

variable {f : Form}

/-- A task type is read alike with any number of levels that is enough for its form. -/
theorem ofForm?_congr {n m : Nat} (hn : f.depth ≤ n) (hm : f.depth ≤ m) :
  ofForm? n f = ofForm? m f
  := by
  cases hshape : f.shape? fieldNames with
  | none => cases n <;> cases m <;> simp only [ofForm?, hshape]
  | some parts =>
    obtain ⟨hpos, hparts⟩ := Form.depth_lt_of_shape? hshape
    obtain ⟨n, rfl⟩ := Nat.exists_eq_add_one.mpr (hpos.trans_le hn)
    obtain ⟨m, rfl⟩ := Nat.exists_eq_add_one.mpr (hpos.trans_le hm)
    rw [ofForm?, ofForm?, hshape]
    split
    · next id name description icon standalone drivers hsome =>
      have hdrivers : Form.orElse none
            (Form.option? (Form.nested? (fun _ => Form.text?) n)) drivers
          = Form.orElse none (Form.option? (Form.nested? (fun _ => Form.text?) m)) drivers := by
        apply Form.orElse_congr
        rintro g rfl
        have hg := hparts g (by simp [Option.some.inj hsome])
        apply Form.option?_congr
        apply Form.nested?_congr
        · intros
          rfl
        · omega
        · omega
      simp only [hdrivers]
    · rfl

theorem shape?_toJson (d : TypeDefinition) :
  d.toJson.form.shape? fieldNames = some [
    some (Json.str d.id).form, some (Json.str d.name).form, some (Json.str d.description).form,
    some (Json.ofOption .str d.icon).form, some (Json.bool d.standalone).form,
    some (Json.ofOption Json.texts d.drivers).form]
  := Form.shape?_form _ (by simp [Keyed.keys])

theorem depth_toJson (d : TypeDefinition) :
  d.toJson.form.depth = (Json.ofOption Json.texts d.drivers).form.depth + 1
  := by
  simp [toJson, Json.form, Json.formFields, Form.depth, Form.depthsOf, Form.depth_ofOption_str]

/-- The drivers of a task type are read back, none apart from an empty list of them. -/
theorem drivers?_form (drivers : Option (List String)) (n : Nat) :
  Form.option? (Form.nested? (fun _ => Form.text?) n) (Json.ofOption Json.texts drivers).form
    = if (Json.ofOption Json.texts drivers).form.depth ≤ n then some drivers else none
  := by
  cases drivers with
  | none => rfl
  | some ids =>
    have htext : ∀ s ∈ ids, ∀ n, (fun _ => Form.text?) n (Json.str s).form
        = if (Json.str s).form.depth ≤ n then some s else none := by
      intro s _ n
      beta_reduce
      rw [Form.text?_form, Json.form, Form.depth, if_pos (Nat.zero_le n)]
    have htexts := Form.nested?_form htext n
    rw [Json.ofOption, Json.texts]
    rw [Json.form] at htexts ⊢
    rw [Form.option?, htexts]
    · split <;> rfl
    · rintro ⟨⟩

/-- A task type is read back if there are enough levels for it, and only then. -/
theorem ofForm?_toJson (d : TypeDefinition) (n : Nat) :
  ofForm? n d.toJson.form = if d.toJson.form.depth ≤ n then some d else none
  := by
  cases n with
  | zero => rw [ofForm?, depth_toJson, if_neg (Nat.not_succ_le_zero _)]
  | succ n =>
    rw [ofForm?, shape?_toJson, depth_toJson]
    simp only [Form.orElse, Form.text?_form, Form.option?_form, Form.bool?_form, drivers?_form,
      Nat.add_le_add_iff_right]
    split <;> rfl

end TypeDefinition

/-! ### Categories -/

namespace CategoryDefinition

/-- A category is read with one level for itself, and what is below it with those that are left. -/
theorem ofForm?_succ (n : Nat) (f : Form) :
  ofForm? (n + 1) f = match f.shape? fieldNames with
    | some [some id, some name, description, icon, children, types] => do
      let id ← id.text?
      let name ← name.text?
      let description ← Form.orElse "" Form.text? description
      let icon ← Form.orElse none (Form.option? Form.text?) icon
      let children ← Form.orElse [] (Form.nested? ofForm? n) children
      let types ← Form.orElse [] (Form.nested? TypeDefinition.ofForm? n) types
      some (.mk id name description icon children types)
    | _ => none
  := by
  rw [ofForm?]
  cases n <;> rfl

theorem ofForm?_of_shape? {f : Form} (h : f.shape? fieldNames = none) (n : Nat) :
  ofForm? n f = none
  := by
  cases n with
  | zero => rfl
  | succ n => rw [ofForm?_succ, h]

/-- A category is read alike with any number of levels that is enough for its form. -/
theorem ofForm?_congr {f : Form} {n m : Nat} (hn : f.depth ≤ n) (hm : f.depth ≤ m) :
  ofForm? n f = ofForm? m f
  := by
  induction hdepth : f.depth using Nat.strong_induction_on generalizing f n m with
  | h depth ih =>
    cases hshape : f.shape? fieldNames with
    | none => rw [ofForm?_of_shape? hshape, ofForm?_of_shape? hshape]
    | some parts =>
      obtain ⟨hpos, hparts⟩ := Form.depth_lt_of_shape? hshape
      obtain ⟨n, rfl⟩ := Nat.exists_eq_add_one.mpr (hpos.trans_le hn)
      obtain ⟨m, rfl⟩ := Nat.exists_eq_add_one.mpr (hpos.trans_le hm)
      rw [ofForm?_succ, ofForm?_succ, hshape]
      split
      · next id name description icon children types hsome =>
        have hchildren : Form.orElse [] (Form.nested? ofForm? n) children
            = Form.orElse [] (Form.nested? ofForm? m) children := by
          apply Form.orElse_nested?_congr hshape (by simp [Option.some.inj hsome]) _ hn hm
          intro g k l hg hk hl
          exact ih g.depth (by omega) hk hl rfl
        have htypes : Form.orElse [] (Form.nested? TypeDefinition.ofForm? n) types
            = Form.orElse [] (Form.nested? TypeDefinition.ofForm? m) types := by
          apply Form.orElse_nested?_congr hshape (by simp [Option.some.inj hsome]) _ hn hm
          intro g k l _ hk hl
          exact TypeDefinition.ofForm?_congr hk hl
        simp only [hchildren, htypes]
      · rfl

theorem toJsons_eq_map (ds : List CategoryDefinition) :
  toJsons ds = ds.map toJson
  := by
  induction ds with
  | nil => rfl
  | cons d rest ih => rw [toJsons, ih, List.map_cons]

theorem shape?_toJson (id name description : String) (icon : Option String)
    (children : List CategoryDefinition) (types : List TypeDefinition) :
  (toJson (.mk id name description icon children types)).form.shape? fieldNames = some [
    some (Json.str id).form, some (Json.str name).form, some (Json.str description).form,
    some (Json.ofOption .str icon).form, some (Json.arr (children.map toJson)).form,
    some (Json.arr (types.map TypeDefinition.toJson)).form]
  := by
  rw [toJson, toJsons_eq_map]
  exact Form.shape?_form _ (by simp [Keyed.keys])

theorem depth_toJson (id name description : String) (icon : Option String)
    (children : List CategoryDefinition) (types : List TypeDefinition) :
  (toJson (.mk id name description icon children types)).form.depth
    = max (Json.arr (children.map toJson)).form.depth
        (Json.arr (types.map TypeDefinition.toJson)).form.depth + 1
  := by
  simp [toJson, toJsons_eq_map, Json.form, Json.formFields, Form.depth, Form.depthsOf,
    Form.depth_ofOption_str]

/-- A category is read back if there are enough levels for it, and only then. -/
theorem ofForm?_toJson : (d : CategoryDefinition) → (n : Nat) →
    ofForm? n d.toJson.form = if d.toJson.form.depth ≤ n then some d else none
  | .mk id name description icon children types, 0 => by
    rw [ofForm?, depth_toJson, if_neg (Nat.not_succ_le_zero _)]
  | .mk id name description icon children types, n + 1 => by
    have hchildren := Form.nested?_form (fun d (_ : d ∈ children) => ofForm?_toJson d) n
    have htypes := Form.nested?_form
      (fun t (_ : t ∈ types) => TypeDefinition.ofForm?_toJson t) n
    rw [ofForm?_succ, shape?_toJson, depth_toJson]
    simp only [Form.orElse, Form.text?_form, Form.option?_form, hchildren, htypes,
      Nat.add_le_add_iff_right]
    exact Form.bind_if_le children types (CategoryDefinition.mk id name description icon)

end CategoryDefinition

/-! ### Definitions of catalogs -/

namespace CatalogDefinition

theorem ofForm?_of_shape? {f : Form} (h : f.shape? ["categories"] = none) (n : Nat) :
  ofForm? n f = none
  := by
  cases n with
  | zero => rfl
  | succ n => rw [ofForm?, h]

/-- A form is read alike with any number of levels that is enough for it, and so without a limit. -/
theorem ofForm?_eq_ofValue? {f : Form} {n : Nat} (h : f.depth ≤ n) :
  ofForm? n f = ofValue? f
  := by
  rw [ofValue?]
  cases hshape : f.shape? ["categories"] with
  | none => rw [ofForm?_of_shape? hshape, ofForm?_of_shape? hshape]
  | some parts =>
    have hpos := (Form.depth_lt_of_shape? hshape).1
    obtain ⟨m, hm⟩ := Nat.exists_eq_add_one.mpr hpos
    obtain ⟨n, rfl⟩ := Nat.exists_eq_add_one.mpr (hpos.trans_le h)
    rw [hm, ofForm?, ofForm?, hshape]
    split
    · next categories hsome =>
      have hcategories : Form.orElse [] (Form.nested? CategoryDefinition.ofForm? n) categories
          = Form.orElse [] (Form.nested? CategoryDefinition.ofForm? m) categories := by
        apply Form.orElse_nested?_congr hshape (by simp [Option.some.inj hsome]) _ h hm.le
        intro g k l _ hk hl
        exact CategoryDefinition.ofForm?_congr hk hl
      simp only [hcategories]
    · rfl

theorem shape?_toJson (d : CatalogDefinition) :
  d.toJson.form.shape? ["categories"]
    = some [some (Json.arr (d.categories.map CategoryDefinition.toJson)).form]
  := by
  rw [toJson, CategoryDefinition.toJsons_eq_map]
  exact Form.shape?_form _ (by simp [Keyed.keys])

theorem depth_toJson (d : CatalogDefinition) :
  d.toJson.form.depth
    = (Json.arr (d.categories.map CategoryDefinition.toJson)).form.depth + 1
  := by
  simp [toJson, CategoryDefinition.toJsons_eq_map, Json.form, Json.formFields, Form.depth,
    Form.depthsOf]

/-- A definition is read back if there are enough levels for it, and only then. -/
theorem ofForm?_toJson (d : CatalogDefinition) (n : Nat) :
  ofForm? n d.toJson.form = if d.toJson.form.depth ≤ n then some d else none
  := by
  cases n with
  | zero => rw [ofForm?, depth_toJson, if_neg (Nat.not_succ_le_zero _)]
  | succ n =>
    have hcategories := Form.nested?_form
      (fun k (_ : k ∈ d.categories) => CategoryDefinition.ofForm?_toJson k) n
    rw [ofForm?, shape?_toJson, depth_toJson]
    simp only [Form.orElse, hcategories, Nat.add_le_add_iff_right]
    split <;> rfl

/-- Without a limit a definition is read back, however deep it is nested. -/
theorem ofValue?_toJson (d : CatalogDefinition) :
  ofValue? d.toJson.form = some d
  := by
  rw [ofValue?, ofForm?_toJson, if_pos le_rfl]

theorem eq_of_compact {d e : CatalogDefinition} (h : e.toJson.compact = d.toJson.compact) :
  e = d
  := by
  have hform : e.toJson.form = d.toJson.form := by
    rw [← Option.some_inj, ← Form.read?_compact, ← Form.read?_compact, h]
  rw [← Option.some_inj, ← ofValue?_toJson, ← ofValue?_toJson, hform]

/-- From its value a definition is read back however deep it is nested, and builds what it built;
the reader of values reads any form as it is read with enough levels.  Its text, with or without
blanks, is that of its value, and the definition is read back from it if that is nested no deeper
than a text may be, and refused otherwise.  Definitions with the same text are the same. -/
theorem read_back (d : CatalogDefinition) :
  ofValue? d.toJson.form = some d
    ∧ (ofValue? d.toJson.form).map build = some d.build
    ∧ (∀ (f : Form) (n : Nat), f.depth ≤ n → ofForm? n f = ofValue? f)
    ∧ Form.read? d.toJson.compact = some d.toJson.form
    ∧ Form.read? d.toJson.pretty = some d.toJson.form
    ∧ read? d.toJson.compact = (if d.toJson.form.depth ≤ Form.depthLimit then some d else none)
    ∧ read? d.toJson.pretty = (if d.toJson.form.depth ≤ Form.depthLimit then some d else none)
    ∧ ∀ e : CatalogDefinition, e.toJson.compact = d.toJson.compact ↔ e = d
  := by
  have hcompact := Form.read?_compact d.toJson
  have hpretty := Form.read?_pretty d.toJson
  refine ⟨ofValue?_toJson d, ?_, fun f n h => ofForm?_eq_ofValue? h, hcompact, hpretty, ?_, ?_, ?_⟩
  · rw [ofValue?_toJson, Option.map_some]
  · rw [read?, hcompact, Option.bind_some, ofForm?_toJson]
  · rw [read?, hpretty, Option.bind_some, ofForm?_toJson]
  · intro e
    constructor
    · exact eq_of_compact
    · rintro rfl
      rfl

/-- Lists of drivers and icons that are empty or left out are kept apart.  Of categories each in the
one before, 62 are read back from a text and 63 are not, which are from a value. -/
theorem read_back_instance :
  let shell : TypeDefinition := ⟨"shell", "Shell", "", none, false, none⟩
  let idle : TypeDefinition := ⟨"idle", "Idle", "", some "", true, some []⟩
  let d : CatalogDefinition := ⟨[.mk "sql" "SQL" "" none [.mk "dump" "Dump" "" (some "") [] [idle]]
    [shell]]⟩
  let around (k : CategoryDefinition) : CategoryDefinition := .mk "k" "K" "" none [k] []
  let nested (n : Nat) : CatalogDefinition :=
    ⟨[Nat.iterate around (n - 1) (.mk "k" "K" "" none [] [])]⟩
  ofValue? d.toJson.form = some d ∧ read? d.toJson.compact = some d
    ∧ read? (nested 62).toJson.pretty = some (nested 62)
    ∧ read? (nested 63).toJson.compact = none
    ∧ ofForm? 128 (nested 63).toJson.form = some (nested 63)
  := by
  intro shell idle d around nested
  have hd : d.toJson.form.depth ≤ Form.depthLimit := by decide +kernel
  have hlast : (nested 62).toJson.form.depth ≤ Form.depthLimit := by decide +kernel
  have hdepth : (nested 63).toJson.form.depth = 128 := by decide +kernel
  obtain ⟨hvalue, -, -, -, -, hcompact, -⟩ := read_back d
  obtain ⟨-, -, -, -, -, -, hpretty, -⟩ := read_back (nested 62)
  obtain ⟨hdeep, -, henough, -, -, hrefused, -⟩ := read_back (nested 63)
  rw [if_pos hd] at hcompact
  rw [if_pos hlast] at hpretty
  rw [hdepth, if_neg (by decide)] at hrefused
  refine ⟨hvalue, hcompact, hpretty, hrefused, ?_⟩
  rw [henough _ 128 hdepth.le, hdeep]

end CatalogDefinition

end TaskDesk
