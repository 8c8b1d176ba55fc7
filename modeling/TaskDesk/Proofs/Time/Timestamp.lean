import TaskDesk.Proofs.Text.Digits
import TaskDesk.Time.Timestamp
import Mathlib.Data.List.TakeWhile

/-!
# Points in time read back

A valid point in time is read back from its text, `read?_text`, and what is read from any text
is a valid point in time, `valid_of_read?`.
-/

namespace TaskDesk.Timestamp

open TaskDesk.Text

/-! ### The parts of a text -/

theorem isBlank_of_isDigit {c : Char} (h : c.isDigit = true) :
  isBlank c = false
  := by
  obtain ⟨hlow, hhigh⟩ := Char.isDigit_iff_toNat.mp h
  have hzero : '0'.toNat = 48 := rfl
  have hnine : '9'.toNat = 57 := rfl
  simp only [isBlank, Bool.or_eq_false_iff, Bool.and_eq_false_iff, decide_eq_false_iff_not,
    beq_eq_false_iff_ne]
  omega

theorem dropBlanks_digits {ds s : List Char} (hne : ds ≠ []) (hds : ∀ c ∈ ds, c.isDigit = true) :
  dropBlanks (ds ++ s) = ds ++ s
  := by
  obtain ⟨c, rest, rfl⟩ := List.exists_cons_of_ne_nil hne
  have hc := isBlank_of_isDigit (hds c (by simp))
  simp [dropBlanks, hc]

theorem number?_padded {w n : Nat} (hw : 0 < w) (hn : n < 10 ^ w) (s : List Char) :
  number? w (padded w n ++ s) = some (n, s)
  := by
  have hds : ∀ c ∈ padded w n, c.isDigit = true := fun _ => isDigit_of_mem_padded
  have hlen := length_padded hw hn
  have htake : ((padded w n ++ s).take w).takeWhile Char.isDigit = padded w n := by
    rw [List.take_left' hlen]
    rwa [List.takeWhile_eq_self_iff]
  rw [number?]
  simp only [dropBlanks_digits (padded_ne_nil w n) hds, htake, padded_ne_nil, if_false,
    digitsValue_padded, List.drop_left]

theorem expect?_cons {c : Char} (hc : isBlank c = false) (s : List Char) :
  expect? c (c :: s) = some s
  := by
  simp [expect?, dropBlanks, hc]

/-- A year is read back, if it is followed by something else than a digit. -/
theorem year?_yearChars (y : Int) {s : List Char} (hs : StopsDigits s) :
  year? (yearChars y ++ s) = some (y, s)
  := by
  have hds : ∀ c ∈ padded 4 y.natAbs, c.isDigit = true := fun _ => isDigit_of_mem_padded
  rw [yearChars]
  split
  · next hy =>
    have hsmall : y.toNat < 10 ^ 4 := by omega
    obtain ⟨c, rest, hc⟩ := List.exists_cons_of_ne_nil (padded_ne_nil 4 y.toNat)
    have hdigit : c.isDigit = true := isDigit_of_mem_padded (hc ▸ List.mem_cons_self)
    have hminus : c ≠ '-' := by rintro rfl; simp at hdigit
    have hplus : c ≠ '+' := by rintro rfl; simp at hdigit
    have hread := number?_padded (by omega) hsmall s
    rw [year?]
    rw [dropBlanks_digits (padded_ne_nil 4 _) fun _ => isDigit_of_mem_padded]
    rw [hc] at hread ⊢
    simp only [List.cons_append] at hread ⊢
    split
    · next h => simp_all
    · next h => simp_all
    · rw [hread]
      simp [Int.toNat_of_nonneg hy.1]
  · next hy =>
    split
    · next hneg =>
      have hblank : isBlank '-' = false := by decide
      have hvalue : -(y.natAbs : Int) = y := by omega
      simp only [year?, List.cons_append, dropBlanks, List.dropWhile_cons, hblank,
        Bool.false_eq_true, if_false, splitDigits_append hds hs, padded_ne_nil,
        digitsValue_padded, if_true, hvalue]
    · next hpos =>
      have hblank : isBlank '+' = false := by decide
      have hvalue : (y.natAbs : Int) = y := by omega
      simp only [year?, List.cons_append, dropBlanks, List.dropWhile_cons, hblank,
        Bool.false_eq_true, if_false, splitDigits_append hds hs, padded_ne_nil,
        digitsValue_padded, hvalue]

theorem nanos?_fractionChars {n : Nat} (hn : n < 1000000000) {s : List Char}
    (hs : StopsDigits s) (hpoint : s.head? ≠ some '.') :
  nanos? (fractionChars n ++ s) = some (n, s)
  := by
  have hpadded : ∀ {w k : Nat}, 0 < w → w ≤ 9 → k < 10 ^ w →
      nanos? ('.' :: padded w k ++ s) = some (k * 10 ^ (9 - w), s) := by
    intro w k hw hw9 hk
    have hds : ∀ c ∈ padded w k, c.isDigit = true := fun _ => isDigit_of_mem_padded
    have hlen := length_padded hw hk
    have htake : (padded w k).take 9 = padded w k := List.take_of_length_le (by omega)
    simp [nanos?, splitDigits_append hds hs, padded_ne_nil, htake, hlen, digitsValue_padded]
  rw [fractionChars]
  split
  · next h =>
    subst h
    cases s with
    | nil => rfl
    | cons c rest =>
      simp only [List.nil_append, nanos?]
      split
      · next h => simp_all
      · rfl
  · split
    · rw [hpadded (by omega) (by omega) (by omega)]
      simp only [Option.some.injEq, Prod.mk.injEq, and_true]
      omega
    · split
      · rw [hpadded (by omega) (by omega) (by omega)]
        simp only [Option.some.injEq, Prod.mk.injEq, and_true]
        omega
      · rw [hpadded (by omega) (by omega) (by omega)]
        simp

/-! ### Whole texts -/

theorem fromLocal_zero {t : Timestamp} (hhour : t.hour ≤ 23) (hminute : t.minute ≤ 59) :
  t.fromLocal 0 = t
  := by
  have hnonneg : ¬((60 * t.hour + t.minute : Nat) : Int) - 0 < 0 := by omega
  have hday : ¬1440 ≤ ((60 * t.hour + t.minute : Nat) : Int) - 0 := by omega
  have hminutes : ((((60 * t.hour + t.minute : Nat) : Int) - 0) % 1440).toNat
      = 60 * t.hour + t.minute := by
    omega
  have hdiv : (60 * t.hour + t.minute) / 60 = t.hour := by omega
  have hmod : (60 * t.hour + t.minute) % 60 = t.minute := by omega
  simp only [fromLocal, if_neg hnonneg, if_neg hday, hminutes, hdiv, hmod]

theorem valid_iff {t : Timestamp} :
  t.valid = true
    ↔ yearInRange t.year = true ∧ (1 ≤ t.month ∧ t.month ≤ 12)
      ∧ (1 ≤ t.day ∧ t.day ≤ daysIn t.year t.month)
      ∧ t.hour ≤ 23 ∧ t.minute ≤ 59 ∧ t.second ≤ 60 ∧ t.nanos < 1000000000
  := by
  simp [valid, and_assoc]

theorem daysIn_le (year : Int) (month : Nat) :
  daysIn year month ≤ 31
  := by
  rw [daysIn]
  split
  · split <;> omega
  · split <;> omega

theorem le_daysIn (year : Int) (month : Nat) :
  28 ≤ daysIn year month
  := by
  rw [daysIn]
  split
  · split <;> omega
  · split <;> omega

theorem bind_of_eq_some {α β : Type} {x : Option α} {a : α} (h : x = some a) (f : α → Option β) :
  (x >>= f) = f a
  := by
  rw [h]
  rfl

/-- A valid point in time is read back from its text. -/
theorem read?_text {t : Timestamp} (h : t.valid = true) :
  read? t.text = some t
  := by
  obtain ⟨hyear, ⟨-, hmonth⟩, ⟨-, hday⟩, hhour, hminute, hsecond, hnanos⟩ := valid_iff.mp h
  have hdays := daysIn_le t.year t.month
  have hdash : isBlank '-' = false := by decide
  have hcolon : isBlank ':' = false := by decide
  have hstops : ∀ {c : Char} {s : List Char}, c.isDigit = false → StopsDigits (c :: s) := by
    intro c s hc c' hc'
    obtain rfl : c = c' := by simpa using hc'
    exact hc
  have htwo : ∀ {n : Nat} (s : List Char), n < 10 ^ 2 → number? 2 (padded 2 n ++ s) = some (n, s) :=
    fun s hn => number?_padded (by omega) hn s
  have hletter : 'T' = 't' ∨ 'T' = 'T' ∨ 'T' = ' ' := by decide
  have hzone : zone? ['Z'] = some (0, []) := by decide
  rw [read?]
  rw [text, String.toList_ofList]
  simp only [chars, List.append_assoc, List.cons_append]
  rw [bind_of_eq_some (year?_yearChars t.year (hstops (by decide)))]
  dsimp only
  rw [bind_of_eq_some (expect?_cons hdash _), bind_of_eq_some (htwo _ (by omega))]
  dsimp only
  rw [bind_of_eq_some (expect?_cons hdash _), bind_of_eq_some (htwo _ (by omega))]
  dsimp only
  rw [if_pos hletter, bind_of_eq_some rfl, bind_of_eq_some (htwo _ (by omega))]
  dsimp only
  rw [bind_of_eq_some (expect?_cons hcolon _), bind_of_eq_some (htwo _ (by omega))]
  dsimp only
  rw [bind_of_eq_some (expect?_cons hcolon _), bind_of_eq_some (htwo _ (by omega))]
  dsimp only
  rw [bind_of_eq_some (nanos?_fractionChars hnanos (hstops (by decide)) (by simp))]
  dsimp only
  rw [bind_of_eq_some hzone]
  dsimp only
  rw [fromLocal_zero hhour hminute]
  exact if_pos ⟨rfl, h, by decide, hyear⟩

/-- The day before and the day after a day of the calendar are days of the calendar. -/
theorem day_dayBefore {t : Timestamp} (hmonth : 1 ≤ t.month ∧ t.month ≤ 12)
    (hday : 1 ≤ t.day ∧ t.day ≤ daysIn t.year t.month) :
  (1 ≤ t.dayBefore.month ∧ t.dayBefore.month ≤ 12)
    ∧ (1 ≤ t.dayBefore.day ∧ t.dayBefore.day ≤ daysIn t.dayBefore.year t.dayBefore.month)
  := by
  have hlast := le_daysIn t.year (t.month - 1)
  have hdecember : daysIn (t.year - 1) 12 = 31 := rfl
  rw [dayBefore]
  split
  · simp only
    omega
  · split
    · simp only
      omega
    · simp only
      omega

theorem day_dayAfter {t : Timestamp} (hmonth : 1 ≤ t.month ∧ t.month ≤ 12)
    (hday : 1 ≤ t.day ∧ t.day ≤ daysIn t.year t.month) :
  (1 ≤ t.dayAfter.month ∧ t.dayAfter.month ≤ 12)
    ∧ (1 ≤ t.dayAfter.day ∧ t.dayAfter.day ≤ daysIn t.dayAfter.year t.dayAfter.month)
  := by
  have hnext := le_daysIn t.year (t.month + 1)
  have hjanuary := le_daysIn (t.year + 1) 1
  rw [dayAfter]
  split
  · simp only
    omega
  · split
    · simp only
      omega
    · simp only
      omega

@[simp] theorem second_dayBefore (t : Timestamp) :
  t.dayBefore.second = t.second
  := by
  rw [dayBefore]
  split
  · rfl
  · split <;> rfl

@[simp] theorem nanos_dayBefore (t : Timestamp) :
  t.dayBefore.nanos = t.nanos
  := by
  rw [dayBefore]
  split
  · rfl
  · split <;> rfl

@[simp] theorem second_dayAfter (t : Timestamp) :
  t.dayAfter.second = t.second
  := by
  rw [dayAfter]
  split
  · rfl
  · split <;> rfl

@[simp] theorem nanos_dayAfter (t : Timestamp) :
  t.dayAfter.nanos = t.nanos
  := by
  rw [dayAfter]
  split
  · rfl
  · split <;> rfl

theorem valid_fromLocal {t : Timestamp} {ahead : Int} (h : t.valid = true)
    (hyear : yearInRange (t.fromLocal ahead).year = true) :
  (t.fromLocal ahead).valid = true
  := by
  obtain ⟨-, hmonth, hday, -, -, hsecond, hnanos⟩ := valid_iff.mp h
  have hbefore := day_dayBefore hmonth hday
  have hafter := day_dayAfter hmonth hday
  refine valid_iff.mpr ⟨hyear, ?_⟩
  rw [fromLocal]
  simp only
  split
  · exact ⟨hbefore.1, hbefore.2, by omega, by omega, by simpa, by simpa⟩
  · split
    · exact ⟨hafter.1, hafter.2, by omega, by omega, by simpa, by simpa⟩
    · exact ⟨hmonth, hday, by omega, by omega, hsecond, hnanos⟩

/-- What is read from a text is a valid point in time. -/
theorem valid_of_read? {text : String} {t : Timestamp} (h : read? text = some t) :
  t.valid = true
  := by
  rw [read?] at h
  obtain ⟨⟨year, s⟩, -, h⟩ := Option.bind_eq_some_iff.mp h
  obtain ⟨_, -, h⟩ := Option.bind_eq_some_iff.mp h
  obtain ⟨⟨month, s⟩, -, h⟩ := Option.bind_eq_some_iff.mp h
  obtain ⟨_, -, h⟩ := Option.bind_eq_some_iff.mp h
  obtain ⟨⟨day, s⟩, -, h⟩ := Option.bind_eq_some_iff.mp h
  -- the character between the date and the time of day
  cases s with
  | nil => cases h
  | cons c s =>
    dsimp only at h
    split at h
    · obtain ⟨s, -, h⟩ := Option.bind_eq_some_iff.mp h
      obtain ⟨⟨hour, s⟩, -, h⟩ := Option.bind_eq_some_iff.mp h
      obtain ⟨_, -, h⟩ := Option.bind_eq_some_iff.mp h
      obtain ⟨⟨minute, s⟩, -, h⟩ := Option.bind_eq_some_iff.mp h
      obtain ⟨_, -, h⟩ := Option.bind_eq_some_iff.mp h
      obtain ⟨⟨second, s⟩, -, h⟩ := Option.bind_eq_some_iff.mp h
      obtain ⟨⟨nanos, s⟩, -, h⟩ := Option.bind_eq_some_iff.mp h
      obtain ⟨⟨ahead, s⟩, -, h⟩ := Option.bind_eq_some_iff.mp h
      dsimp only at h
      split at h
      · next hok =>
        obtain ⟨-, hvalid, -, hyear⟩ := hok
        obtain rfl := Option.some.inj h
        exact valid_fromLocal hvalid hyear
      · cases h
    · cases h

end TaskDesk.Timestamp
