import TaskDesk.Text.Digits
import Mathlib.Algebra.Group.Nat.Defs
import Mathlib.Tactic.Common

/-!
# Digits read back

The digits of a number are digits, they have no zero in front, and their value is the number;
the same holds of digits filled up with zeros.  One or more digits are `AreDigits`, as parts of
them are and what they are filled up to.  Digits are split off from what follows them if that does
not go on with a digit.  A whole number is read back from its digits and its sign.  What is read
as a word fits in one.
-/

namespace TaskDesk.Text

theorem isDigit_digitChar {n : Nat} (h : n < 10) :
  (digitChar n).isDigit = true
  := by
  revert n
  decide

theorem digitValue_digitChar {n : Nat} (h : n < 10) :
  digitValue (digitChar n) = n
  := by
  revert n
  decide

theorem isDigit_of_mem_natDigits {n : Nat} {c : Char} (h : c ∈ natDigits n) :
  c.isDigit = true
  := by
  induction n using natDigits.induct with
  | case1 n hn =>
    rw [natDigits, if_pos hn, List.mem_singleton] at h
    rw [h]
    apply isDigit_digitChar hn
  | case2 n hn ih =>
    rw [natDigits, if_neg hn, List.mem_append, List.mem_singleton] at h
    obtain h | rfl := h
    · apply ih h
    · apply isDigit_digitChar
      omega

theorem natDigits_ne_nil (n : Nat) :
  natDigits n ≠ []
  := by
  rw [natDigits]
  split <;> simp

theorem digitsValue_concat (ds : List Char) (c : Char) :
  digitsValue (ds ++ [c]) = 10 * digitsValue ds + digitValue c
  := by
  simp [digitsValue]

theorem digitsValue_natDigits (n : Nat) :
  digitsValue (natDigits n) = n
  := by
  induction n using natDigits.induct with
  | case1 n hn =>
    rw [natDigits, if_pos hn]
    simpa [digitsValue] using digitValue_digitChar hn
  | case2 n hn ih =>
    rw [natDigits, if_neg hn, digitsValue_concat, ih, digitValue_digitChar (by omega)]
    omega

theorem length_natDigits_le {n w : Nat} (hw : 0 < w) (h : n < 10 ^ w) :
  (natDigits n).length ≤ w
  := by
  induction n using natDigits.induct generalizing w with
  | case1 n hn =>
    rw [natDigits, if_pos hn]
    exact hw
  | case2 n hn ih =>
    obtain ⟨v, rfl⟩ : ∃ v, w = v + 1 := ⟨w - 1, by omega⟩
    have hv : 0 < v := by
      by_contra hzero
      obtain rfl : v = 0 := by omega
      omega
    rw [natDigits, if_neg hn, List.length_append, List.length_singleton]
    have hdiv : n / 10 < 10 ^ v := by
      rw [Nat.pow_succ] at h
      omega
    have := ih hv hdiv
    omega

/-- The count of the digits of a number says between which powers of ten the number is. -/
theorem length_natDigits {n : Nat} (h : n ≠ 0) :
  ∃ w, (natDigits n).length = w + 1 ∧ 10 ^ w ≤ n ∧ n < 10 ^ (w + 1)
  := by
  induction n using natDigits.induct with
  | case1 n hn =>
    refine ⟨0, ?_, ?_, hn⟩
    · rw [natDigits, if_pos hn, List.length_singleton]
    · exact Nat.one_le_iff_ne_zero.mpr h
  | case2 n hn ih =>
    obtain ⟨w, hw, hlow, hhigh⟩ := ih (by omega)
    refine ⟨w + 1, ?_, ?_, ?_⟩
    · rw [natDigits, if_neg hn, List.length_append, List.length_singleton, hw]
    · rw [Nat.pow_succ]
      omega
    · rw [Nat.pow_succ]
      omega

/-- The digits of a number other than zero do not start with a zero. -/
theorem head_natDigits_ne {n : Nat} (h : n ≠ 0) :
  (natDigits n).head? ≠ some '0'
  := by
  induction n using natDigits.induct with
  | case1 n hn =>
    rw [natDigits, if_pos hn]
    revert n
    decide
  | case2 n hn ih =>
    obtain ⟨c, rest, hc⟩ := List.exists_cons_of_ne_nil (natDigits_ne_nil (n / 10))
    rw [natDigits, if_neg hn]
    rw [hc] at ih ⊢
    apply ih
    omega

/-! ### Digits filled up with zeros -/

theorem isDigit_of_mem_padded {w n : Nat} {c : Char} (h : c ∈ padded w n) :
  c.isDigit = true
  := by
  simp only [padded, List.mem_append, List.mem_replicate] at h
  obtain ⟨-, rfl⟩ | h := h
  · rfl
  · apply isDigit_of_mem_natDigits h

theorem padded_ne_nil (w n : Nat) :
  padded w n ≠ []
  := by
  simp [padded, natDigits_ne_nil]

theorem length_padded {w n : Nat} (hw : 0 < w) (h : n < 10 ^ w) :
  (padded w n).length = w
  := by
  have := length_natDigits_le hw h
  simp only [padded, List.length_append, List.length_replicate]
  omega

theorem digitsValue_padded (w n : Nat) :
  digitsValue (padded w n) = n
  := by
  have hzeros : ∀ k, digitsValue (List.replicate k '0' ++ natDigits n) = digitsValue (natDigits n)
    := by
    intro k
    induction k with
    | zero => rfl
    | succ k ih => simpa [digitsValue, List.replicate_succ, digitValue] using ih
  simp only [padded]
  rw [hzeros, digitsValue_natDigits]

/-- Whether a text is one or more digits. -/
structure AreDigits (ds : List Char) : Prop where
  ne_nil : ds ≠ []
  isDigit : ∀ c ∈ ds, c.isDigit = true

theorem areDigits_natDigits (n : Nat) :
  AreDigits (natDigits n)
  where
  ne_nil := natDigits_ne_nil n
  isDigit _ hc := isDigit_of_mem_natDigits hc

theorem areDigits_zero :
  AreDigits ['0']
  where
  ne_nil := by simp
  isDigit := by simp

theorem isDigit_of_mem_zeros {n : Nat} {c : Char} (h : c ∈ List.replicate n '0') :
  c.isDigit = true
  := by
  rw [List.eq_of_mem_replicate h]
  rfl

theorem AreDigits.append {ds es : List Char} (h : AreDigits ds) (hes : ∀ c ∈ es, c.isDigit = true) :
  AreDigits (ds ++ es)
  where
  ne_nil := by simp [h.ne_nil]
  isDigit := List.forall_mem_append.mpr ⟨h.isDigit, hes⟩

theorem AreDigits.take {ds : List Char} (h : AreDigits ds) {n : Nat} (hn : 0 < n) :
  AreDigits (ds.take n)
  where
  ne_nil := by simp [h.ne_nil, Nat.ne_of_gt hn]
  isDigit _ hc := h.isDigit _ (List.mem_of_mem_take hc)

theorem AreDigits.drop {ds : List Char} (h : AreDigits ds) {n : Nat} (hn : n < ds.length) :
  AreDigits (ds.drop n)
  where
  ne_nil := by simp [hn]
  isDigit _ hc := h.isDigit _ (List.mem_of_mem_drop hc)

/-! ### What follows digits -/

/-- Whether a text does not start with a digit. -/
def StopsDigits (s : List Char) : Prop :=
  ∀ c ∈ s.head?, c.isDigit = false

theorem splitDigits_append {ds s : List Char} (hds : ∀ c ∈ ds, c.isDigit = true)
    (hs : StopsDigits s) :
  splitDigits (ds ++ s) = (ds, s)
  := by
  have htake : s.takeWhile Char.isDigit = [] ∧ s.dropWhile Char.isDigit = s := by
    cases s with
    | nil => simp
    | cons c r => simp [hs c (by simp)]
  simp only [splitDigits, List.takeWhile_append_of_pos hds, List.dropWhile_append_of_pos hds,
    htake, List.append_nil]

/-! ### Whole numbers -/

theorem splitSign_digits {ds : List Char} (h : AreDigits ds) (s : List Char) :
  splitSign (ds ++ s) = (false, ds ++ s)
  := by
  obtain ⟨c, rest, rfl⟩ := List.exists_cons_of_ne_nil h.ne_nil
  have hc : c.isDigit = true := h.isDigit c List.mem_cons_self
  unfold splitSign
  split
  · next heq =>
    obtain rfl := (List.cons.inj heq).1
    simp at hc
  · next heq =>
    obtain rfl := (List.cons.inj heq).1
    simp at hc
  · rfl

theorem mem_splitSign {s : List Char} {c : Char} (h : c ∈ s) :
  c = '+' ∨ c = '-' ∨ c ∈ (splitSign s).2
  := by
  unfold splitSign
  split
  · exact (List.mem_cons.mp h).imp_right .inr
  · exact .inr (List.mem_cons.mp h)
  · exact .inr (.inr h)

theorem digits?_of_areDigits {ds : List Char} (h : AreDigits ds) :
  digits? ds = some (digitsValue ds)
  := by
  rw [digits?, if_pos ⟨h.ne_nil, List.all_eq_true.mpr h.isDigit⟩]

/-- A whole number is what its digits stand for, with its sign. -/
theorem wholeNumber?_eq_some_iff {s : List Char} {i : Int} :
  wholeNumber? s = some i
    ↔ ∃ n : Nat, digits? (splitSign s).2 = some n ∧ (if (splitSign s).1 then -(n : Int) else n) = i
  := by
  simp only [wholeNumber?]
  cases digits? (splitSign s).2 <;> simp

/-- A whole number is read back from its digits. -/
theorem wholeNumber?_intDigits (i : Int) :
  wholeNumber? (intDigits i) = some i
  := by
  have hread := digits?_of_areDigits (areDigits_natDigits i.natAbs)
  rw [digitsValue_natDigits] at hread
  rw [wholeNumber?_eq_some_iff, intDigits]
  refine ⟨i.natAbs, ?_⟩
  split
  · next hi =>
    refine ⟨hread, ?_⟩
    simp only [splitSign, if_true]
    omega
  · next hi =>
    have hsign := splitSign_digits (areDigits_natDigits i.natAbs) []
    rw [List.append_nil] at hsign
    rw [hsign]
    refine ⟨hread, ?_⟩
    simp only [Bool.false_eq_true, if_false]
    omega

theorem signedWord?_intDigits {i : Int} (h : isSignedWord i = true) :
  signedWord? (intDigits i) = some i
  := by
  rw [signedWord?, wholeNumber?_intDigits, Option.filter_some, if_pos h]

/-- A whole number is written with digits after an optional sign. -/
theorem mem_of_wholeNumber? {s : List Char} {i : Int} (h : wholeNumber? s = some i) {c : Char}
    (hc : c ∈ s) :
  c = '+' ∨ c = '-' ∨ c.isDigit = true
  := by
  obtain ⟨n, hn, -⟩ := wholeNumber?_eq_some_iff.mp h
  rw [digits?] at hn
  split at hn
  · next hdigits =>
    exact (mem_splitSign hc).imp_right (Or.imp_right (List.all_eq_true.mp hdigits.2 c))
  · cases hn

/-! ### Words -/

theorem le_maxWord_of_word? {s : List Char} {n : Nat} (h : word? s = some n) :
  n ≤ maxWord
  := by
  obtain ⟨m, -, hm⟩ := Option.bind_eq_some_iff.mp h
  split at hm
  · next hle =>
    obtain rfl := Option.some.inj hm
    exact hle
  · cases hm

end TaskDesk.Text
