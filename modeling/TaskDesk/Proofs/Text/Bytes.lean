import TaskDesk.Proofs.Text.Order
import Mathlib.Data.List.Nodup

/-!
# The order of bytes

Texts are ordered as their bytes in UTF-8 are: the bytes of a smaller character are smaller,
whatever follows.  So `sortOn` gives the `StableSort` of a list by the bytes of names, that is, the
names are in the order of their bytes and what has the same name stays in its order.
-/

namespace TaskDesk.Text

/-- The bytes of a text in UTF-8. -/
def bytes (s : String) : List UInt8 :=
  s.toByteArray.data.toList

theorem bytes_eq (s : String) :
  bytes s = s.toList.flatMap String.utf8EncodeChar
  := by
  rw [bytes, ← String.utf8Encode_toList, List.utf8Encode, List.toList_data_toByteArray]

theorem exists_digits (n : Nat) :
  ∃ a b c d, n / 262144 = a ∧ n / 4096 % 64 = b ∧ n / 64 % 64 = c ∧ n % 64 = d
    ∧ n = ((a * 64 + b) * 64 + c) * 64 + d ∧ b < 64 ∧ c < 64 ∧ d < 64
  := by
  refine ⟨_, _, _, _, rfl, rfl, rfl, rfl, ?_, ?_, ?_, ?_⟩
  all_goals omega

theorem toNat_lt_of_char (c : Char) :
  c.val.toNat < 0x110000
  := by
  obtain h | ⟨-, h⟩ := c.valid
  · apply Nat.lt_trans h
    decide
  · apply h

/-- The bytes of a smaller character are smaller, whatever follows. -/
theorem utf8EncodeChar_append_lt {c d : Char} (h : c < d) (l l' : List UInt8) :
  String.utf8EncodeChar c ++ l < String.utf8EncodeChar d ++ l'
  := by
  have hlt : c.val.toNat < d.val.toNat := h
  have hmax : d.val.toNat < 0x110000 := toNat_lt_of_char d
  unfold String.utf8EncodeChar
  dsimp only
  generalize c.val.toNat = v at hlt ⊢
  generalize d.val.toNat = w at hlt hmax ⊢
  by_cases hv : v ≤ 65535
  · split_ifs <;> simp only [List.cons_append, List.nil_append, List.cons_lt_cons_iff,
      UInt8.lt_iff_toNat_lt, ← UInt8.toNat_inj, UInt8.toNat_ofNat'] <;> omega
  · -- Both characters have four bytes, which are compared digit by digit to the base 64.
    obtain ⟨a, b, c, d, ha, hb, hc, hd, hdigits, hblt, hclt, hdlt⟩ := exists_digits v
    obtain ⟨a', b', c', d', ha', hb', hc', hd', hdigits', hblt', hclt', hdlt'⟩ := exists_digits w
    have hv' : ¬ v ≤ 127 ∧ ¬ v ≤ 2047 := by omega
    have hw' : ¬ w ≤ 127 ∧ ¬ w ≤ 2047 ∧ ¬ w ≤ 65535 := by omega
    simp only [hv, hv', hw', if_false, ha, hb, hc, hd, ha', hb', hc', hd', List.cons_append,
      List.nil_append, List.cons_lt_cons_iff, UInt8.lt_iff_toNat_lt, ← UInt8.toNat_inj,
      UInt8.toNat_ofNat']
    clear ha hb hc hd ha' hb' hc' hd'
    have ha : a < 8 := by omega
    have ha' : a' < 8 := by omega
    simp (disch := omega) only [Nat.mod_eq_of_lt]
    omega

theorem utf8EncodeChar_ne_nil (c : Char) :
  String.utf8EncodeChar c ≠ []
  := by
  unfold String.utf8EncodeChar
  dsimp only
  split_ifs <;> simp

theorem flatMap_utf8EncodeChar_lt {cs ds : List Char} (h : cs < ds) :
  cs.flatMap String.utf8EncodeChar < ds.flatMap String.utf8EncodeChar
  := by
  induction cs generalizing ds with
  | nil =>
    cases ds with
    | nil => cases h
    | cons d ds =>
      rw [List.flatMap_nil, List.flatMap_cons]
      obtain ⟨b, bytes, hbytes⟩ := List.exists_cons_of_ne_nil (utf8EncodeChar_ne_nil d)
      rw [hbytes]
      apply List.nil_lt_cons
  | cons c cs ih =>
    cases ds with
    | nil => cases h
    | cons d ds =>
      rw [List.flatMap_cons, List.flatMap_cons]
      obtain hlt | ⟨rfl, hlt⟩ := List.cons_lt_cons_iff.mp h
      · apply utf8EncodeChar_append_lt hlt
      · apply List.append_left_lt
        apply ih hlt

theorem bytes_lt {a b : String} (h : a < b) :
  bytes a < bytes b
  := by
  rw [bytes_eq, bytes_eq]
  apply flatMap_utf8EncodeChar_lt h

/-- Texts are ordered as their bytes. -/
theorem bytes_le_iff {a b : String} :
  bytes a ≤ bytes b ↔ a ≤ b
  := by
  constructor
  · intro h
    rw [← String.not_lt]
    intro hlt
    apply h (bytes_lt hlt)
  · intro h
    obtain rfl | hne := eq_or_ne a b
    · apply List.le_refl
    · apply List.le_of_lt
      apply bytes_lt
      apply Std.lt_of_le_of_ne h hne

/-! ### Stable sorting -/

/-- Whether a list is another one with the names in the order of their bytes and with what has the
same name in the order in which it was. -/
structure StableSort {α : Type} (name : α → String) (xs ys : List α) : Prop where
  perm : ys.Perm xs
  ordered : ys.Pairwise fun x y => bytes (name x) ≤ bytes (name y)
  stable : ∀ n, (ys.filter fun x => name x = n) = xs.filter fun x => name x = n

section Sorting

variable {α β : Type} {name : α → String}

theorem nameLe_trans (a b c : String) (hab : nameLe a b = true) (hbc : nameLe b c = true) :
  nameLe a c = true
  := by
  rw [nameLe, decide_eq_true_eq] at *
  apply String.le_trans hab hbc

theorem nameLe_total (a b : String) :
  (nameLe a b || nameLe b a) = true
  := by
  simp only [nameLe, Bool.or_eq_true, decide_eq_true_eq]
  apply String.le_total

theorem pairwise_sortOn (name : α → String) (xs : List α) :
  (sortOn name xs).Pairwise fun x y => name x ≤ name y
  := by
  have h := List.pairwise_mergeSort (fun x y z => nameLe_trans (name x) (name y) (name z))
    (fun x y => nameLe_total (name x) (name y)) xs
  apply h.imp
  intro x y hle
  apply of_decide_eq_true hle

/-- What has one name keeps its order. -/
theorem filter_sortOn (name : α → String) (xs : List α) (n : String) :
  ((sortOn name xs).filter fun x => name x = n) = xs.filter fun x => name x = n
  := by
  let same := xs.filter fun x => name x = n
  have hsame : ∀ x ∈ same, name x = n := fun x hx => of_decide_eq_true (List.mem_filter.mp hx).2
  have hpairwise : same.Pairwise fun x y => nameLe (name x) (name y) = true := by
    apply List.pairwise_of_forall_mem_list
    intro x hx y hy
    rw [hsame x hx, hsame y hy]
    apply decide_eq_true
    apply String.le_refl
  have hsublist : same.Sublist (sortOn name xs) :=
    List.sublist_mergeSort (fun x y z => nameLe_trans (name x) (name y) (name z))
      (fun x y => nameLe_total (name x) (name y)) hpairwise List.filter_sublist
  symm
  apply List.Sublist.eq_of_length
  · have hfilter := hsublist.filter fun x => name x = n
    have htwice : (same.filter fun x => name x = n) = same := by
      rw [List.filter_eq_self]
      intro x hx
      apply decide_eq_true (hsame x hx)
    rwa [htwice] at hfilter
  · apply List.Perm.length_eq
    apply ((sortOn_perm name xs).filter _).symm

theorem stableSort_sortOn (name : α → String) (xs : List α) :
  StableSort name xs (sortOn name xs)
  where
  perm := sortOn_perm name xs
  ordered := (pairwise_sortOn name xs).imp bytes_le_iff.mpr
  stable := filter_sortOn name xs

/-- The first one of what is ordered by name has the least name. -/
theorem name_le_of_mem {x y : α} {ys : List α}
    (hordered : (y :: ys).Pairwise fun x y => bytes (name x) ≤ bytes (name y))
    (hx : x ∈ y :: ys) :
  name y ≤ name x
  := by
  rw [← bytes_le_iff]
  obtain rfl | hx := List.mem_cons.mp hx
  · apply List.le_refl
  · apply List.rel_of_pairwise_cons hordered hx

theorem mem_iff_of_filter_eq {ys zs : List α}
    (h : ∀ n, (ys.filter fun x => name x = n) = zs.filter fun x => name x = n) {x : α} :
  x ∈ ys ↔ x ∈ zs
  := by
  have hx : x ∈ (ys.filter fun y => name y = name x) ↔ x ∈ zs.filter fun y => name y = name x := by
    rw [h]
  simpa using hx

/-- What is ordered by name is determined by what there is of each name. -/
theorem eq_of_ordered {ys zs : List α}
    (hys : ys.Pairwise fun x y => bytes (name x) ≤ bytes (name y))
    (hzs : zs.Pairwise fun x y => bytes (name x) ≤ bytes (name y))
    (h : ∀ n, (ys.filter fun x => name x = n) = zs.filter fun x => name x = n) :
  ys = zs
  := by
  induction ys generalizing zs with
  | nil =>
    symm
    rw [List.eq_nil_iff_forall_not_mem]
    intro z hz
    cases (mem_iff_of_filter_eq h).mpr hz
  | cons y ys ih =>
    cases zs with
    | nil => cases (mem_iff_of_filter_eq h).mp List.mem_cons_self
    | cons z zs =>
      have hname : name y = name z := by
        apply String.le_antisymm
        · apply name_le_of_mem hys ((mem_iff_of_filter_eq h).mpr List.mem_cons_self)
        · apply name_le_of_mem hzs ((mem_iff_of_filter_eq h).mp List.mem_cons_self)
      have hfirst := h (name z)
      simp only [List.filter_cons, hname, decide_true, if_true, List.cons.injEq] at hfirst
      obtain ⟨rfl, -⟩ := hfirst
      congr 1
      apply ih hys.of_cons hzs.of_cons
      intro n
      have hn := h n
      rw [List.filter_cons, List.filter_cons] at hn
      split at hn
      · apply (List.cons.inj hn).2
      · apply hn

/-- A list has one stable sort. -/
theorem StableSort.unique {xs ys zs : List α} (hys : StableSort name xs ys)
    (hzs : StableSort name xs zs) :
  ys = zs
  := by
  apply eq_of_ordered hys.ordered hzs.ordered
  intro n
  rw [hys.stable, hzs.stable]

/-- Sorting depends only on the names. -/
theorem map_sortOn {f : α → β} {name' : β → String} (h : ∀ x, name' (f x) = name x)
    (xs : List α) :
  (sortOn name xs).map f = sortOn name' (xs.map f)
  := by
  apply List.map_mergeSort
  intro x _ y _
  rw [h, h]

/-- Where names are distinct the order in which things come does not matter. -/
theorem sortOn_congr {xs ys : List α} (h : xs.Perm ys) (hnames : (xs.map name).Nodup) :
  sortOn name xs = sortOn name ys
  := by
  apply List.Perm.eq_of_pairwise _ (pairwise_sortOn name xs) (pairwise_sortOn name ys)
  · apply (sortOn_perm name xs).trans
    apply h.trans (sortOn_perm name ys).symm
  · intro x y hx hy hxy hyx
    rw [(sortOn_perm name xs).mem_iff] at hx
    rw [(sortOn_perm name ys).mem_iff, ← h.mem_iff] at hy
    apply List.inj_on_of_nodup_map hnames hx hy
    apply String.le_antisymm hxy hyx

/-- Where names are distinct what is sorted is strictly increasing. -/
theorem pairwise_lt_sortOn {xs : List α} (hnames : (xs.map name).Nodup) :
  (sortOn name xs).Pairwise fun x y => bytes (name x) < bytes (name y)
  := by
  have hperm : ((sortOn name xs).map name).Perm (xs.map name) := (sortOn_perm name xs).map name
  have hdistinct : (sortOn name xs).Pairwise fun x y => name x ≠ name y := by
    rw [← List.pairwise_map]
    exact hperm.nodup_iff.mpr hnames
  apply ((pairwise_sortOn name xs).and hdistinct).imp
  rintro x y ⟨hle, hne⟩
  apply bytes_lt
  apply Std.lt_of_le_of_ne hle hne

/-- What is strictly increasing is determined by what there is. -/
theorem eq_of_pairwise_lt {xs ys : List α}
    (hxs : xs.Pairwise fun x y => bytes (name x) < bytes (name y))
    (hys : ys.Pairwise fun x y => bytes (name x) < bytes (name y)) (h : ∀ x, x ∈ xs ↔ x ∈ ys) :
  xs = ys
  := by
  have hnodup {zs : List α} (hzs : zs.Pairwise fun x y => bytes (name x) < bytes (name y)) :
      zs.Nodup := by
    apply hzs.imp
    rintro x _ hlt rfl
    exact List.lt_irrefl (bytes (name x)) hlt
  have hperm : xs.Perm ys := (List.perm_ext_iff_of_nodup (hnodup hxs) (hnodup hys)).mpr h
  apply hperm.eq_of_pairwise _ hxs hys
  intro x y _ _ hxy hyx
  exact absurd hyx (List.lt_asymm hxy)

end Sorting

end TaskDesk.Text
