import TaskDesk.Json.Printer
import TaskDesk.Json.Form
import TaskDesk.Proofs.Decimal.Shortest

/-!
# Plain values and their forms

A JSON value is plain if it is nested at most a given number of levels, holds no doubles, its
whole numbers fit in 64 bits, with or without sign, and the fields of its objects have distinct
names.  `Json.form` is the form that the text of a value has.  A plain value is the value of its
form, `value?_form`, and every value of a form is plain, if there is no double in it,
`isPlain_of_value?`.
-/

namespace TaskDesk

open TaskDesk.Text TaskDesk.Decimal

namespace Json

/-- Whether a whole number fits in 64 bits, with or without sign. -/
def fitsWord (i : Int) : Bool :=
  -0x8000000000000000 ≤ i && i ≤ maxWord

mutual

/-- Whether a value can be written and read back at the given number of levels. -/
def isPlain (levels : Nat) : Json → Bool
  | .null => true
  | .bool _ => true
  | .num (.whole i) => fitsWord i
  | .num (.double _) => false
  | .str _ => true
  | .arr items =>
    match levels with
    | 0 => false
    | levels + 1 => arePlain levels items
  | .obj fields =>
    match levels with
    | 0 => false
    | levels + 1 => decide (Keyed.keys fields).Nodup && arePlainFields levels fields

/-- Whether all items of a list are plain. -/
def arePlain (levels : Nat) : List Json → Bool
  | [] => true
  | v :: rest => isPlain levels v && arePlain levels rest

/-- Whether all fields of an object are plain. -/
def arePlainFields (levels : Nat) : List (String × Json) → Bool
  | [] => true
  | (_, v) :: rest => isPlain levels v && arePlainFields levels rest

end

mutual

/-- Whether a value is without doubles. -/
def isExact : Json → Bool
  | .null => true
  | .bool _ => true
  | .num (.whole _) => true
  | .num (.double _) => false
  | .str _ => true
  | .arr items => areExact items
  | .obj fields => areExactFields fields

/-- Whether all items of a list are without doubles. -/
def areExact : List Json → Bool
  | [] => true
  | v :: rest => isExact v && areExact rest

/-- Whether all fields of an object are without doubles. -/
def areExactFields : List (String × Json) → Bool
  | [] => true
  | (_, v) :: rest => isExact v && areExactFields rest

end

theorem arePlainFields_iff {levels : Nat} {fields : List (String × Json)} :
  arePlainFields levels fields = true ↔ ∀ e ∈ fields, isPlain levels e.2 = true
  := by
  induction fields with
  | nil => simp [arePlainFields]
  | cons e rest ih => simp [arePlainFields, ih]

theorem areExactFields_iff {fields : List (String × Json)} :
  areExactFields fields = true ↔ ∀ e ∈ fields, isExact e.2 = true
  := by
  induction fields with
  | nil => simp [areExactFields]
  | cons e rest ih => simp [areExactFields, ih]

/-! ### The form of a text -/

/-- The piece that a character of a string is written as. -/
def piece (c : Char) : Form.Piece :=
  if c.toNat < 0x20 ∧ c ∉ ['\x08', '\x0c', '\n', '\r', '\t'] then .unit c.toNat else .char c

/-- The pieces of a string. -/
def pieces (s : String) : List Form.Piece :=
  s.toList.map piece

/-- A whole number as it is written. -/
def wholeNumeral (i : Int) : Form.Numeral :=
  ⟨decide (i < 0), natDigits i.natAbs, none, none⟩

/-- The decimal `0.ds * 10 ^ k` as it is written in the layout of doubles. -/
def decimalNumeral (negative : Bool) (ds : List Char) (k : Int) : Form.Numeral :=
  if -5 < k ∧ k ≤ 16 then
    if k ≤ 0 then ⟨negative, ['0'], some (List.replicate (-k).toNat '0' ++ ds), none⟩
    else if ds.length ≤ k.toNat then
      ⟨negative, ds ++ List.replicate (k.toNat - ds.length) '0', some ['0'], none⟩
    else ⟨negative, ds.take k.toNat, some (ds.drop k.toNat), none⟩
  else
    ⟨negative, ds.take 1, if ds.length = 1 then none else some (ds.drop 1),
      some (decide (k - 1 < 0), natDigits (k - 1).natAbs)⟩

/-- A double as it is written. -/
def doubleNumeral (negative : Bool) (m : Nat) (e : Int) : Form.Numeral :=
  if m = 0 then ⟨negative, ['0'], some ['0'], none⟩
  else decimalNumeral negative (shortest m e).1 (shortest m e).2

/-- The form of the text of a number. -/
def numberForm : Number → Form
  | .whole i => .num (wholeNumeral i)
  | .double d =>
    match d.decode with
    | .finite negative m e => .num (doubleNumeral negative m e)
    | _ => .null

mutual

/-- The form of the text of a value. -/
def form : Json → Form
  | .null => .null
  | .bool b => .bool b
  | .num n => numberForm n
  | .str s => .str (pieces s)
  | .arr items => .arr (forms items)
  | .obj fields => .obj (formFields fields)

/-- The forms of the items of a list. -/
def forms : List Json → List Form
  | [] => []
  | v :: rest => v.form :: forms rest

/-- The forms of the fields of an object. -/
def formFields : List (String × Json) → List (List Form.Piece × Form)
  | [] => []
  | (k, v) :: rest => (pieces k, v.form) :: formFields rest

end

end Json

namespace Form

open Json

/-! ### The values of texts and numbers -/

theorem characters?_unit {n : Nat} (h : n < 0xD800) (ps : List Piece) :
  characters? (.unit n :: ps) = (characters? ps).map (Char.ofNat n :: ·)
  := by
  rw [characters?.eq_def]
  exact if_pos (.inl h)

theorem characters?_map_piece (cs : List Char) :
  characters? (cs.map piece) = some cs
  := by
  induction cs with
  | nil => rfl
  | cons c rest ih =>
    rw [List.map_cons, piece]
    split
    · next hc =>
      have hlow : c.toNat < 0xD800 := by omega
      simp [characters?_unit hlow, ih]
    · simp [characters?, ih]

@[simp]
theorem pieces?_pieces (s : String) :
  pieces? (pieces s) = some s
  := by
  simp [pieces?, pieces, characters?_map_piece]

namespace Numeral

theorem le_foldl_digits (ds : List Char) (n : Nat) :
  n ≤ ds.foldl (fun n c => 10 * n + digitValue c) n
  := by
  induction ds generalizing n with
  | nil => simp
  | cons c rest ih =>
    have := ih (10 * n + digitValue c)
    rw [List.foldl_cons]
    omega

/-- Digits of a number in range are all taken. -/
theorem gather_of_le (ds : List Char) {n taken : Nat}
    (h : ds.foldl (fun n c => 10 * n + digitValue c) n ≤ maxWord) :
  gather n taken ds = (ds.foldl (fun n c => 10 * n + digitValue c) n, taken + ds.length, [])
  := by
  induction ds generalizing n taken with
  | nil => rfl
  | cons c rest ih =>
    have hle := le_foldl_digits rest (10 * n + digitValue c)
    rw [List.foldl_cons] at h ⊢
    rw [gather, if_pos (Nat.le_trans hle h), ih h, List.length_cons, Nat.add_right_comm,
      Nat.add_assoc]

theorem gather_natDigits {n : Nat} (h : n ≤ maxWord) :
  gather 0 0 (natDigits n) = (n, (natDigits n).length, [])
  := by
  have hvalue := digitsValue_natDigits n
  rw [digitsValue] at hvalue
  rw [gather_of_le _ (by rwa [hvalue]), hvalue, Nat.zero_add]

/-- What is taken from digits is in range. -/
theorem gather_le (ds : List Char) {n taken : Nat} (h : n ≤ maxWord) :
  (gather n taken ds).1 ≤ maxWord
  := by
  induction ds generalizing n taken with
  | nil => exact h
  | cons c rest ih =>
    rw [gather]
    split
    · next hc => exact ih hc
    · exact h

/-- If no digit is left, what is taken is the number that the digits stand for. -/
theorem gather_of_done (ds : List Char) {n taken : Nat} (h : (gather n taken ds).2.2 = []) :
  (gather n taken ds).1 = ds.foldl (fun n c => 10 * n + digitValue c) n
  := by
  induction ds generalizing n taken with
  | nil => rfl
  | cons c rest ih =>
    rw [gather] at h ⊢
    split at h
    · next hc =>
      rw [if_pos hc, List.foldl_cons]
      exact ih h
    · simp at h

theorem value?_wholeNumeral {i : Int} (h : fitsWord i = true) :
  (wholeNumeral i).value? = some (.whole i)
  := by
  simp only [fitsWord, Bool.and_eq_true, decide_eq_true_eq] at h
  have hmax : (maxWord : Int) = 0xFFFFFFFFFFFFFFFF := rfl
  have hword : i.natAbs ≤ maxWord := by omega
  simp only [value?, wholeNumeral, gather_natDigits hword]
  by_cases hi : i < 0
  · have hin : ¬(i.natAbs = 0 ∨ 0x8000000000000000 < i.natAbs) := by omega
    have hvalue : -(i.natAbs : Int) = i := by omega
    simp only [hi, decide_true, Bool.not_true, Bool.false_eq_true, if_false, hin, hvalue, ne_eq,
      not_true_eq_false]
  · have hvalue : (i.natAbs : Int) = i := by omega
    simp only [hi, decide_false, Bool.not_false, if_true, hvalue, ne_eq, not_true_eq_false,
      if_false]

/-- A whole number is read back as no other whole number. -/
theorem eq_of_value?_wholeNumeral {i j : Int} (h : (wholeNumeral i).value? = some (.whole j)) :
  j = i
  := by
  have hdone : (gather 0 0 (wholeNumeral i).whole).2.2 = [] →
      (gather 0 0 (wholeNumeral i).whole).1 = i.natAbs := by
    intro hleft
    rw [gather_of_done _ hleft]
    exact digitsValue_natDigits i.natAbs
  rw [value?] at h
  generalize gather 0 0 (wholeNumeral i).whole = taken at h hdone
  obtain ⟨significand, count, left⟩ := taken
  simp only [wholeNumeral] at h hdone
  split at h
  · simp at h
  · next hleft =>
    obtain rfl := hdone (not_not.mp hleft)
    by_cases hi : i < 0
    · simp only [hi, decide_true, Bool.not_true, Bool.false_eq_true, if_false] at h
      split at h
      · simp at h
      · simp only [Option.some.injEq, Number.whole.injEq] at h
        omega
    · simp only [hi, decide_false, Bool.not_false, if_true, Option.some.injEq,
        Number.whole.injEq] at h
      omega

theorem fitsWord_of_value? {n : Numeral} {i : Int} (h : n.value? = some (.whole i)) :
  fitsWord i = true
  := by
  have hle : (gather 0 0 n.whole).1 ≤ maxWord := gather_le n.whole (Nat.zero_le _)
  have hmax : maxWord = 0xFFFFFFFFFFFFFFFF := rfl
  have hnone : ∀ {x : Option Decimal.Double}, x.map Number.double ≠ some (.whole i) := by simp
  rw [value?] at h
  generalize gather 0 0 n.whole = taken at h hle
  obtain ⟨significand, count, left⟩ := taken
  simp only [fitsWord, Bool.and_eq_true, decide_eq_true_eq, hmax]
  simp only [hmax] at hle
  split at h
  next hsplit =>
  obtain ⟨rfl, -⟩ := Prod.mk.inj hsplit
  split at h
  · split at h
    · exact absurd h hnone
    · split at h
      · simp only [Option.some.injEq, Number.whole.injEq] at h
        omega
      · split at h
        · simp at h
        · simp only [Option.some.injEq, Number.whole.injEq] at h
          omega
  · simp only at h
    split at h
    · exact absurd h hnone
    · split at h
      · exact absurd h hnone
      · split at h <;> simp at h

end Numeral

/-! ### The values of whole forms -/

mutual

/-- A plain value is the value of its form. -/
theorem value?_form (levels : Nat) : (v : Json) → v.isPlain levels = true →
    value? levels v.form = some v
  | .null, _ => rfl
  | .bool _, _ => rfl
  | .num (.whole i), h => by
    rw [Json.form, numberForm, value?, Numeral.value?_wholeNumeral h, Option.map_some]
  | .num (.double _), h => by simp [isPlain] at h
  | .str s, _ => by rw [Json.form, value?, pieces?_pieces, Option.map_some]
  | .arr items, h => by
    cases levels with
    | zero => simp [isPlain] at h
    | succ levels =>
      rw [isPlain] at h
      rw [Json.form, value?, values?_forms levels items h, Option.map_some]
  | .obj fields, h => by
    cases levels with
    | zero => simp [isPlain] at h
    | succ levels =>
      rw [isPlain, Bool.and_eq_true, decide_eq_true_eq] at h
      rw [Json.form, value?, entries?_formFields levels fields h.2, Option.map_some,
        Keyed.ofList_of_nodup h.1]

theorem values?_forms (levels : Nat) : (items : List Json) → arePlain levels items = true →
    values? levels (forms items) = some items
  | [], _ => rfl
  | v :: rest, h => by
    rw [arePlain, Bool.and_eq_true] at h
    rw [forms, values?, value?_form levels v h.1, values?_forms levels rest h.2]
    rfl

theorem entries?_formFields (levels : Nat) : (fields : List (String × Json)) →
    arePlainFields levels fields = true → entries? levels (formFields fields) = some fields
  | [], _ => rfl
  | (k, v) :: rest, h => by
    rw [arePlainFields, Bool.and_eq_true] at h
    rw [formFields, entries?, pieces?_pieces, value?_form levels v h.1,
      entries?_formFields levels rest h.2]
    rfl

end

mutual

/-- The value of a form is plain, if it is without doubles. -/
theorem isPlain_of_value? (levels : Nat) : (f : Form) → {v : Json} →
    value? levels f = some v → v.isExact = true → v.isPlain levels = true
  | .null, v, h, _ => by
    obtain rfl := Option.some.inj h
    rfl
  | .bool _, v, h, _ => by
    obtain rfl := Option.some.inj h
    rfl
  | .num n, v, h, hexact => by
    obtain ⟨x, hx, rfl⟩ := Option.map_eq_some_iff.mp h
    cases x with
    | whole i => exact Numeral.fitsWord_of_value? hx
    | double d => simp [isExact] at hexact
  | .str s, v, h, _ => by
    obtain ⟨x, hx, rfl⟩ := Option.map_eq_some_iff.mp h
    rfl
  | .arr items, v, h, hexact => by
    cases levels with
    | zero => simp [value?] at h
    | succ levels =>
      obtain ⟨vs, hvs, rfl⟩ := Option.map_eq_some_iff.mp h
      rw [isExact] at hexact
      rw [isPlain]
      exact arePlain_of_values? levels items hvs hexact
  | .obj fields, v, h, hexact => by
    cases levels with
    | zero => simp [value?] at h
    | succ levels =>
      obtain ⟨es, hes, rfl⟩ := Option.map_eq_some_iff.mp h
      rw [isExact, areExactFields_iff] at hexact
      rw [isPlain, Bool.and_eq_true, decide_eq_true_eq, arePlainFields_iff]
      refine ⟨Keyed.nodup_keys_ofList es, ?_⟩
      intro e he
      exact isPlain_of_entries? levels fields hes e (Keyed.mem_ofList he) (hexact e he)

theorem arePlain_of_values? (levels : Nat) : (fs : List Form) → {vs : List Json} →
    values? levels fs = some vs → areExact vs = true → arePlain levels vs = true
  | [], vs, h, _ => by
    obtain rfl := Option.some.inj h
    rfl
  | f :: rest, vs, h, hexact => by
    simp only [values?, Option.bind_eq_some_iff, Option.map_eq_some_iff] at h
    obtain ⟨v, hv, us, hus, rfl⟩ := h
    rw [areExact, Bool.and_eq_true] at hexact
    rw [arePlain, isPlain_of_value? levels f hv hexact.1,
      arePlain_of_values? levels rest hus hexact.2]
    rfl

theorem isPlain_of_entries? (levels : Nat) : (fields : List (List Piece × Form)) →
    {es : List (String × Json)} → entries? levels fields = some es →
    ∀ e ∈ es, e.2.isExact = true → e.2.isPlain levels = true
  | [], es, h => by
    obtain rfl := Option.some.inj h
    simp
  | (k, f) :: rest, es, h => by
    simp only [entries?, Option.bind_eq_some_iff, Option.map_eq_some_iff] at h
    obtain ⟨name, -, v, hv, fs, hfs, rfl⟩ := h
    rw [List.forall_mem_cons]
    exact ⟨isPlain_of_value? levels f hv, isPlain_of_entries? levels rest hfs⟩

end

/-! ### The parts of a form -/

@[simp]
theorem text?_form (s : String) :
  text? (form (.str s)) = some s
  := pieces?_pieces s

theorem word?_form {n : Nat} (h : n ≤ maxWord) :
  word? (form (Json.nat n)) = some n
  := by
  have hfits : fitsWord n = true := by
    simp [fitsWord]
    omega
  rw [Json.nat, form, numberForm, word?, Numeral.value?_wholeNumeral hfits]
  simp

theorem eq_of_word?_form {n k : Nat} (h : word? (form (Json.nat n)) = some k) :
  k = n
  := by
  rw [Json.nat, form, numberForm, word?] at h
  split at h
  · next i hi =>
    obtain rfl := Numeral.eq_of_value?_wholeNumeral hi
    simpa using h.symm
  · cases h

theorem le_maxWord_of_word? {f : Form} {n : Nat} (h : word? f = some n) :
  n ≤ maxWord
  := by
  unfold word? at h
  split at h
  · split at h
    · next i hi =>
      have hfits := Numeral.fitsWord_of_value? hi
      simp only [fitsWord, Bool.and_eq_true, decide_eq_true_eq] at hfits
      split at h
      · have hn := Option.some.inj h
        omega
      · cases h
    · cases h
  · cases h

/-- What holds of a default and of all that can be read holds of a field with that default. -/
theorem orElse_induction {α : Type} {default a : α} {read : Form → Option α} {field : Option Form}
    {motive : α → Prop} (hdefault : motive default)
    (hread : ∀ {f b}, read f = some b → motive b) (h : orElse default read field = some a) :
  motive a
  := by
  cases field with
  | none =>
    obtain rfl := Option.some.inj h
    exact hdefault
  | some f => exact hread h

@[simp]
theorem bool?_form (b : Bool) :
  bool? (form (.bool b)) = some b
  := rfl

/-- What may be absent is read back, if what is there is, and is never `null`. -/
theorem option?_ofOption {α : Type} {read : Form → Option α} {write : α → Json}
    (h : ∀ a, read (write a).form = some a) (hnull : ∀ a, (write a).form ≠ .null) (x : Option α) :
  option? read (form (Json.ofOption write x)) = some x
  := by
  cases x with
  | none => rfl
  | some a =>
    rw [Json.ofOption, option?, h, Option.map_some]
    exact hnull a

theorem option?_form (x : Option String) :
  option? text? (form (Json.ofOption .str x)) = some x
  := option?_ofOption text?_form (fun _ => by rw [form]; rintro ⟨⟩) x

theorem forms_eq_map (items : List Json) :
  forms items = items.map form
  := by
  induction items with
  | nil => rfl
  | cons v rest ih => rw [forms, ih, List.map_cons]

/-- A list of values is read back, if each of its values is. -/
theorem list?_form {α β : Type} {read : Form → Option β} {write : α → Json} {f : α → β}
    {xs : List α} (h : ∀ x ∈ xs, read (write x).form = some (f x)) :
  list? read (form (.arr (xs.map write))) = some (xs.map f)
  := by
  rw [form, list?, forms_eq_map]
  induction xs with
  | nil => rfl
  | cons x rest ih =>
    rw [List.forall_mem_cons] at h
    simp only [List.map_cons, List.mapM_cons, h.1, ih h.2]
    rfl

theorem list?_texts (xs : List String) :
  list? text? (form (Json.texts xs)) = some xs
  := by
  have hlist := list?_form (f := id) fun s (_ : s ∈ xs) => text?_form s
  simpa [Json.texts] using hlist

/-- The items that are read from a list of values are read from the values one by one. -/
theorem forall₂_of_list?_form {α β : Type} {read : Form → Option β} {write : α → Json}
    {xs : List α} {ys : List β} (h : list? read (form (.arr (xs.map write))) = some ys) :
  List.Forall₂ (fun x y => read (write x).form = some y) xs ys
  := by
  rw [form, list?, forms_eq_map] at h
  induction xs generalizing ys with
  | nil =>
    obtain rfl := Option.some.inj h
    exact .nil
  | cons x rest ih =>
    simp only [List.map_cons, List.mapM_cons, Option.bind_eq_bind, Option.bind_eq_some_iff,
      Option.pure_def, Option.some.injEq] at h
    obtain ⟨y, hy, ys, hys, rfl⟩ := h
    exact .cons hy (ih hys)

/-- Each item of a list that is read comes from a form. -/
theorem exists_of_mem_list? {α : Type} {read : Form → Option α} {f : Form} {xs : List α} {x : α}
    (h : list? read f = some xs) (hx : x ∈ xs) :
  ∃ g, read g = some x
  := by
  cases f with
  | arr items =>
    rw [list?] at h
    induction items generalizing xs with
    | nil =>
      obtain rfl := Option.some.inj h
      simp at hx
    | cons g rest ih =>
      simp only [List.mapM_cons, Option.bind_eq_bind, Option.bind_eq_some_iff, Option.pure_def,
        Option.some.injEq] at h
      obtain ⟨y, hy, ys, hys, rfl⟩ := h
      obtain rfl | hx := List.mem_cons.mp hx
      · exact ⟨g, hy⟩
      · exact ih hx hys
  | _ => cases h

theorem named?_formFields (fields : List (String × Json)) :
  named? (formFields fields) = some (fields.map fun e => (e.1, e.2.form))
  := by
  induction fields with
  | nil => rfl
  | cons e rest ih =>
    rw [named?] at ih ⊢
    simp only [formFields, List.mapM_cons, pieces?_pieces, ih, List.map_cons]
    rfl

/-- An object is taken as a record of exactly its fields. -/
theorem shape?_form (fields : List (String × Json)) (h : (Keyed.keys fields).Nodup) :
  shape? (Keyed.keys fields) (form (.obj fields)) = some (fields.map fun e => some e.2.form)
  := by
  have hkeys : Keyed.keys (fields.map fun e => (e.1, e.2.form)) = Keyed.keys fields := by
    simp [Keyed.keys]
  have hfilter : (fields.map fun e => (e.1, e.2.form)).filter
      (fun e => (Keyed.keys fields).contains e.1) = fields.map fun e => (e.1, e.2.form) := by
    rw [List.filter_eq_self]
    intro e he
    rw [List.contains_iff_mem, ← hkeys]
    exact List.mem_map_of_mem he
  rw [form, shape?, named?_formFields, Option.bind_some]
  simp only [hfilter, hkeys, h, if_true, Option.some.injEq]
  rw [Keyed.keys, List.map_map]
  apply List.map_congr_left
  intro e he
  rw [← hkeys] at h
  exact (Keyed.find?_eq_some_iff h).mpr (List.mem_map_of_mem (f := fun e => (e.1, e.2.form)) he)

end Form

end TaskDesk
