import TaskDesk.Decimal.Shortest
import TaskDesk.Proofs.Text.Digits
import Mathlib.Tactic.Ring
import Mathlib.Tactic.Linarith

/-!
# Seventeen digits suffice

The reals that round to a double are an interval that is wider, in units of the seventeenth digit,
than one such unit.  So one of the two decimals of seventeen digits around the double lies in the
interval, and the search for the shortest decimal finds one: `isSignificand_shortest`.
-/

namespace TaskDesk.Decimal

open TaskDesk.Text

theorem shift_eq (num den : Nat) (k : Int) :
  shift num den k = (num * 10 ^ k.toNat, den * 10 ^ (-k).toNat)
  := by
  rw [shift]
  split
  · have hk : (-k).toNat = 0 := by omega
    simp [hk]
  · have hk : k.toNat = 0 := by omega
    simp [hk]

/-- In units of the digit `n` from the place of its point a fraction has `n` digits or more. -/
theorem pow_le_shift_pointPlace {num den : Nat} (hnum : 0 < num) (hden : 0 < den) (n : Nat) :
  10 ^ n * (den * 10 ^ (-((n : Int) + 1 - pointPlace num den)).toNat)
    ≤ num * 10 ^ ((n : Int) + 1 - pointPlace num den).toNat
  := by
  rw [pointPlace]
  split
  · next hle =>
    obtain ⟨w, hw, hlow, -⟩ := length_natDigits (Nat.div_pos hle hden).ne'
    rw [Nat.le_div_iff_mul_le hden] at hlow
    rw [hw]
    obtain hn | hn := Nat.le_total w n
    · have hup : ((n : Int) + 1 - ((w + 1 : Nat) : Int)).toNat = n - w := by omega
      have hdown : (-((n : Int) + 1 - ((w + 1 : Nat) : Int))).toNat = 0 := by omega
      have hsplit : 10 ^ n = 10 ^ w * 10 ^ (n - w) := by
        rw [← Nat.pow_add, Nat.add_sub_cancel' hn]
      rw [hup, hdown, hsplit]
      calc 10 ^ w * 10 ^ (n - w) * (den * 10 ^ 0)
          = 10 ^ w * den * 10 ^ (n - w) := by ring
        _ ≤ num * 10 ^ (n - w) := Nat.mul_le_mul_right _ hlow
    · have hup : ((n : Int) + 1 - ((w + 1 : Nat) : Int)).toNat = 0 := by omega
      have hdown : (-((n : Int) + 1 - ((w + 1 : Nat) : Int))).toNat = w - n := by omega
      have hsplit : 10 ^ w = 10 ^ n * 10 ^ (w - n) := by
        rw [← Nat.pow_add, Nat.add_sub_cancel' hn]
      rw [hup, hdown]
      calc 10 ^ n * (den * 10 ^ (w - n))
          = 10 ^ w * den := by rw [hsplit]; ring
        _ ≤ num * 10 ^ 0 := by simpa using hlow
  · next hlt =>
    have hle : num ≤ den := (Nat.lt_of_not_le hlt).le
    obtain ⟨w, hw, -, hhigh⟩ := length_natDigits (Nat.div_pos hle hnum).ne'
    rw [Nat.div_lt_iff_lt_mul hnum] at hhigh
    simp only [hw, Nat.add_sub_cancel]
    split
    · next heq =>
      have hup : ((n : Int) + 1 - (2 - ((w + 1 : Nat) : Int))).toNat = n + w := by omega
      have hdown : (-((n : Int) + 1 - (2 - ((w + 1 : Nat) : Int)))).toNat = 0 := by omega
      rw [hup, hdown, heq]
      apply Nat.le_of_eq
      simp only [Nat.pow_eq]
      ring
    · have hup : ((n : Int) + 1 - (1 - ((w + 1 : Nat) : Int))).toNat = n + (w + 1) := by omega
      have hdown : (-((n : Int) + 1 - (1 - ((w + 1 : Nat) : Int)))).toNat = 0 := by omega
      rw [hup, hdown]
      calc 10 ^ n * (den * 10 ^ 0) = 10 ^ n * den := by ring
        _ ≤ 10 ^ n * (10 ^ (w + 1) * num) := Nat.mul_le_mul_left _ hhigh.le
        _ = num * 10 ^ (n + (w + 1)) := by ring

section Candidates

variable {low mid high den : Nat} {closed : Bool} {place : Int} {n : Nat}

/-- In units of the last digit, an interval that is wider than one contains one of the two decimals
around a number inside it. -/
theorem candidate?_ne_none
    (hlow : low * 10 ^ ((n : Int) - place).toNat < mid * 10 ^ ((n : Int) - place).toNat)
    (hhigh : mid * 10 ^ ((n : Int) - place).toNat < high * 10 ^ ((n : Int) - place).toNat)
    (hden : 0 < den * 10 ^ (-((n : Int) - place)).toNat)
    (hwide : low * 10 ^ ((n : Int) - place).toNat + den * 10 ^ (-((n : Int) - place)).toNat
      < high * 10 ^ ((n : Int) - place).toNat) :
  candidate? low mid high den closed place n ≠ none
  := by
  simp only [candidate?, shift_eq]
  generalize low * 10 ^ ((n : Int) - place).toNat = l at *
  generalize mid * 10 ^ ((n : Int) - place).toNat = v at *
  generalize high * 10 ^ ((n : Int) - place).toNat = h at *
  generalize den * 10 ^ (-((n : Int) - place)).toNat = d at *
  have hdown : v / d * d ≤ v := Nat.div_mul_le_self v d
  have hup : v < (v / d + 1) * d := by
    rw [Nat.add_mul, Nat.one_mul]
    have := Nat.lt_div_mul_add hden (a := v)
    omega
  have hstep : (v / d + 1) * d = v / d * d + d := by rw [Nat.add_mul, Nat.one_mul]
  generalize hdown' : v / d * d = down at *
  generalize hup' : (v / d + 1) * d = up at *
  split
  · split <;> simp
  · simp
  · simp
  · next hnot hnot' =>
    -- Both decimals are outside, so they are further apart than the ends.
    cases closed <;> simp at hnot hnot' <;> omega

theorem pos_of_candidate? {q : Nat} (hlow : 0 < low)
    (h : candidate? low mid high den closed place n = some q) :
  0 < q
  := by
  have hl : 0 < low * 10 ^ ((n : Int) - place).toNat :=
    Nat.mul_pos hlow (Nat.pow_pos (by decide))
  simp only [candidate?, shift_eq] at h
  generalize low * 10 ^ ((n : Int) - place).toNat = l at *
  generalize mid * 10 ^ ((n : Int) - place).toNat = v at *
  generalize high * 10 ^ ((n : Int) - place).toNat = h' at *
  generalize den * 10 ^ (-((n : Int) - place)).toNat = d at *
  apply Nat.pos_of_ne_zero
  rintro rfl
  split at h
  · next hdown hup =>
    have hzero : v / d ≠ 0 := by
      intro hzero
      rw [hzero] at hdown
      cases closed with
      | false => simp at hdown
      | true =>
        simp at hdown
        omega
    split at h
    · exact hzero (Option.some.inj h)
    · cases h
  · next hdown _ =>
    rw [Option.some.inj h] at hdown
    cases closed with
    | false => simp at hdown
    | true =>
      simp at hdown
      omega
  · cases h
  · cases h

/-- The search finds a number other than zero, if there is a candidate among those that it tries. -/
theorem search_pos (hlow : 0 < low) {left : Nat} {k : Nat} (hk : n ≤ k) (hkn : k < n + left)
    (h : candidate? low mid high den closed place k ≠ none) :
  0 < (search low mid high den closed place left n).1
  := by
  induction left generalizing n with
  | zero => omega
  | succ left ih =>
    rw [search]
    cases hq : candidate? low mid high den closed place n with
    | some q => exact pos_of_candidate? hlow hq
    | none =>
      have hne : n ≠ k := by
        rintro rfl
        exact h hq
      exact ih (by omega) (by omega)

end Candidates

/-! ### Digits -/

/-- The digits of a number other than zero, without the zeros at their end, start with the first
of them. -/
theorem head?_significant {n : Nat} (h : n ≠ 0) :
  (significant n).head? = (natDigits n).head?
  := by
  obtain ⟨c, ds, hds⟩ := List.exists_cons_of_ne_nil (natDigits_ne_nil n)
  have hc : (c == '0') = false := by
    have hhead := head_natDigits_ne h
    rw [hds] at hhead
    simpa using hhead
  rw [significant, hds, List.reverse_cons, List.dropWhile_append]
  split <;> simp [hc]

theorem isDigit_of_mem_significant {n : Nat} {c : Char} (h : c ∈ significant n) :
  c.isDigit = true
  := by
  apply isDigit_of_mem_natDigits (n := n)
  rw [significant, List.mem_reverse] at h
  exact List.mem_reverse.mp ((List.dropWhile_sublist _).mem h)

/-- Whether a text is digits that start with one other than zero. -/
structure IsSignificand (ds : List Char) : Prop extends AreDigits ds where
  head_ne : ds.head? ≠ some '0'

theorem isSignificand_significant {n : Nat} (h : n ≠ 0) :
  IsSignificand (significant n)
  where
  isDigit _ hc := isDigit_of_mem_significant hc
  ne_nil hnil := by
    have hhead := head?_significant h
    rw [hnil, List.head?_nil, eq_comm, List.head?_eq_none_iff] at hhead
    exact natDigits_ne_nil n hhead
  head_ne := by
    rw [head?_significant h]
    exact head_natDigits_ne h

/-- The interval of a double of 53 bits, `below` and 2 away from `4 * m`, is wider than one unit of
the seventeenth digit. -/
theorem unit_lt_width {m below u d : Nat} (hlt : m < 2 ^ 53) (hu : 0 < u)
    (hbelow : below = 1 ∧ m = 2 ^ 52 ∨ below = 2) (hdigits : 10 ^ 16 * d ≤ 4 * m * u) :
  d < below * u + 2 * u
  := by
  obtain ⟨rfl, rfl⟩ | rfl := hbelow
  · omega
  · have hmu : m * u ≤ 2 ^ 53 * u := Nat.mul_le_mul_right u hlt.le
    rw [Nat.mul_assoc] at hdigits
    omega

/-- The shortest decimal of a double other than zero has digits, and they start with one other
than zero. -/
theorem isSignificand_shortest {m : Nat} (hm : 0 < m) (hlt : m < 2 ^ 53) (e : Int) :
  IsSignificand (shortest m e).1
  := by
  obtain ⟨s, hs, hspos⟩ : ∃ s, s = (if 0 ≤ e - 2 then Nat.pow 2 (e - 2).toNat else 1) ∧ 0 < s := by
    refine ⟨_, rfl, ?_⟩
    split
    · exact Nat.pow_pos (by decide)
    · decide
  obtain ⟨den, hden, hdenpos⟩ :
      ∃ den, den = (if 0 ≤ e - 2 then 1 else Nat.pow 2 (-(e - 2)).toNat) ∧ 0 < den := by
    refine ⟨_, rfl, ?_⟩
    split
    · decide
    · exact Nat.pow_pos (by decide)
  obtain ⟨below, hbelow, hcases⟩ :
      ∃ below, below = (if m = Double.leadingBit ∧ -1074 < e then 1 else 2)
        ∧ (below = 1 ∧ m = 2 ^ 52 ∨ below = 2) := by
    refine ⟨_, rfl, ?_⟩
    split
    · next h => exact .inl ⟨rfl, h.1⟩
    · exact .inr rfl
  simp only [shortest, interval, ← hs, ← hden, ← hbelow]
  apply isSignificand_significant
  apply Nat.ne_of_gt
  have hmid : 0 < 4 * m * s := Nat.mul_pos (by omega) hspos
  have hlow : 0 < (4 * m - below) * s := Nat.mul_pos (by omega) hspos
  have hdigits := pow_le_shift_pointPlace hmid hdenpos 16
  have hscale : ((16 : Nat) : Int) + 1 = ((17 : Nat) : Int) := rfl
  rw [hscale] at hdigits
  apply search_pos hlow (k := 17) (by decide) (by decide)
  generalize pointPlace (4 * m * s) den = place at *
  have hunit : 0 < den * 10 ^ (-(((17 : Nat) : Int) - place)).toNat :=
    Nat.mul_pos hdenpos (Nat.pow_pos (by decide))
  have hu : 0 < s * 10 ^ (((17 : Nat) : Int) - place).toNat :=
    Nat.mul_pos hspos (Nat.pow_pos (by decide))
  rw [Nat.mul_assoc (4 * m)] at hdigits
  have hwidth := unit_lt_width hlt hu hcases hdigits
  obtain ⟨k, hk⟩ : ∃ k, 4 * m = k + below := ⟨4 * m - below, by omega⟩
  have hpos : 0 < below * (s * 10 ^ (((17 : Nat) : Int) - place).toNat) :=
    Nat.mul_pos (by omega) hu
  apply candidate?_ne_none _ _ hunit
  all_goals
    simp only [Nat.mul_assoc _ s, hk, Nat.add_sub_cancel, Nat.add_mul]
    omega

/-- A double has 53 bits. -/
theorem lt_of_decode {d : Double} {negative : Bool} {m : Nat} {e : Int}
    (h : d.decode = .finite negative m e) :
  m < 2 ^ 53
  := by
  have hbit : Double.leadingBit = 2 ^ 52 := rfl
  have hfraction : d.bits.toNat % Double.leadingBit < Double.leadingBit :=
    Nat.mod_lt _ (by decide)
  simp only [Double.decode] at h
  split at h
  · split at h <;> cases h
  · split at h
    · obtain ⟨-, rfl, -⟩ := Double.Value.finite.inj h
      omega
    · obtain ⟨-, rfl, -⟩ := Double.Value.finite.inj h
      omega

end TaskDesk.Decimal
