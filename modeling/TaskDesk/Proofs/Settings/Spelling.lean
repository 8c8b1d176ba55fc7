import TaskDesk.Settings.Environment
import TaskDesk.Proofs.Text.Digits

/-!
# How the environment spells texts

A value in the environment is taken as a truth value or a number if it can be, and written out
again where a text is asked for.  So it is the text that it was exactly if it is in its
`OwnSpelling`: a truth value in lower case, a whole number without a plus sign and without zeros
in front, any other double as it is written.  A value with a character that no number has is in
its own spelling, but for a few words, and so is each whole number as it is written.
-/

namespace TaskDesk.Environment

open TaskDesk.Text TaskDesk.Decimal

/-- Whether a value is written as the setting that it is taken for is written. -/
structure OwnSpelling (v : String) : Prop where
  yes : lowered v = "true" → v = "true"
  no : lowered v = "false" → v = "false"
  whole : ∀ i, signedWord? v.toList = some i → v = intText i
  double : signedWord? v.toList = none →
    ∀ d, Double.read? v = some d → v = String.ofList (d.text Setting.doubleLayout)

/-! ### Texts that are no numbers -/

/-- The characters of numbers. -/
def isNumberChar (c : Char) : Bool :=
  c.isDigit || c ∈ ['+', '-', '.', 'e', 'E']

/-- The words that are read as doubles. -/
def doubleWords : List String :=
  ["inf", "infinity", "nan"]

theorem isNumberChar_of_wholeNumber? {s : List Char} {i : Int} (h : wholeNumber? s = some i)
    {c : Char} (hc : c ∈ s) :
  isNumberChar c = true
  := by
  obtain rfl | rfl | hdigit := mem_of_wholeNumber? h hc
  · rfl
  · rfl
  · simp [isNumberChar, hdigit]

theorem isNumberChar_of_signedWord? {s : List Char} {i : Int} (h : signedWord? s = some i)
    {c : Char} (hc : c ∈ s) :
  isNumberChar c = true
  := isNumberChar_of_wholeNumber? (Option.filter_eq_some_iff.mp h).1 hc

theorem isNumberChar_of_read? {s : String} {d : Double} (h : Double.read? s = some d)
    (hword : lowered (String.ofList (splitSign s.toList).2) ∉ doubleWords) {c : Char}
    (hc : c ∈ s.toList) :
  isNumberChar c = true
  := by
  obtain hmem | ⟨whole, part, exponent, hbody, hwhole, hpart, hexponent⟩ :=
    Double.exists_parts_of_read? h
  · exact absurd hmem hword
  have hrest : ∀ c ∈ (splitSign s.toList).2, isNumberChar c = true := by
    rw [hbody]
    intro c hc
    rw [List.mem_append, List.mem_append] at hc
    obtain (hc | hc) | hc := hc
    · simp [isNumberChar, hwhole c hc]
    · obtain rfl | hdigit := hpart c hc
      · rfl
      · simp [isNumberChar, hdigit]
    · obtain rfl | ⟨e, ds, i, rfl, he, hds⟩ := hexponent
      · cases hc
      · obtain rfl | hc := List.mem_cons.mp hc
        · obtain rfl | rfl := he <;> rfl
        · exact isNumberChar_of_wholeNumber? hds hc
  obtain rfl | rfl | hc := mem_splitSign hc
  · rfl
  · rfl
  · exact hrest c hc

/-- A text with a character that no number has is in its own spelling, but for other spellings
of truth values and for words that are read as doubles. -/
theorem ownSpelling_of_mem {v : String} {c : Char} (hc : c ∈ v.toList)
    (hforeign : isNumberChar c = false)
    (hword : lowered (String.ofList (splitSign v.toList).2) ∉ doubleWords)
    (hyes : lowered v = "true" → v = "true") (hno : lowered v = "false" → v = "false") :
  OwnSpelling v
  where
  yes := hyes
  no := hno
  whole i hi := by
    have hnumber := isNumberChar_of_signedWord? hi hc
    rw [hforeign] at hnumber
    cases hnumber
  double _ d hd := by
    have hnumber := isNumberChar_of_read? hd hword hc
    rw [hforeign] at hnumber
    cases hnumber

theorem ownSpelling_true :
  OwnSpelling "true"
  := ownSpelling_of_mem (c := 't') (by decide) rfl (by decide) (fun _ => rfl) (by decide)

theorem ownSpelling_false :
  OwnSpelling "false"
  := ownSpelling_of_mem (c := 'f') (by decide) rfl (by decide) (by decide) (fun _ => rfl)

/-! ### Whole numbers -/

theorem lowerCase_of_isDigit {c : Char} (h : c.isDigit = true) :
  lowerCase c = c
  := by
  have hkelvin : c ≠ '\u212a' := by
    rintro rfl
    cases h
  rw [Char.isDigit, Bool.and_eq_true, decide_eq_true_eq, decide_eq_true_eq] at h
  rw [lowerCase, if_neg hkelvin]
  apply dif_neg
  rintro ⟨hupper, -⟩
  exact absurd (UInt32.le_trans hupper h.2) (by decide)

theorem lowered_intText (i : Int) :
  lowered (intText i) = intText i
  := by
  have hlower : ∀ c ∈ intDigits i, lowerCase c = c := by
    intro c hc
    obtain rfl | rfl | hdigit := mem_of_wholeNumber? (wholeNumber?_intDigits i) hc
    · rfl
    · rfl
    · exact lowerCase_of_isDigit hdigit
  rw [lowered, intText, String.toList_ofList, List.map_congr_left hlower, List.map_id']

/-- A whole number is in its own spelling as it is written. -/
theorem ownSpelling_intText {i : Int} (h : isSignedWord i = true) :
  OwnSpelling (intText i)
  where
  yes hyes := by rw [← hyes, lowered_intText]
  no hno := by rw [← hno, lowered_intText]
  whole j hj := by
    rw [intText, String.toList_ofList, signedWord?_intDigits h] at hj
    obtain rfl := Option.some.inj hj
    rfl
  double hnone := by
    rw [intText, String.toList_ofList, signedWord?_intDigits h] at hnone
    cases hnone

/-! ### The text of a setting -/

/-- What a value is taken for. -/
theorem settingOf_cases (v : String) :
  (lowered v = "true" ∧ settingOf v = .bool true)
    ∨ (lowered v = "false" ∧ settingOf v = .bool false)
    ∨ (lowered v ≠ "true" ∧ lowered v ≠ "false"
        ∧ ((∃ i, signedWord? v.toList = some i ∧ settingOf v = .int i)
          ∨ (signedWord? v.toList = none
            ∧ ((∃ d, Double.read? v = some d ∧ settingOf v = .double d)
              ∨ (Double.read? v = none ∧ settingOf v = .text v)))))
  := by
  by_cases hyes : lowered v = "true"
  · exact .inl ⟨hyes, if_pos hyes⟩
  by_cases hno : lowered v = "false"
  · exact .inr (.inl ⟨hno, by rw [settingOf, if_neg hyes, if_pos hno]⟩)
  refine .inr (.inr ⟨hyes, hno, ?_⟩)
  rw [settingOf, if_neg hyes, if_neg hno]
  cases signedWord? v.toList with
  | some i => exact .inl ⟨i, rfl, rfl⟩
  | none =>
    refine .inr ⟨rfl, ?_⟩
    cases Double.read? v with
    | some d => exact .inl ⟨d, rfl, rfl⟩
    | none => exact .inr ⟨rfl, rfl⟩

theorem exists_text?_settingOf (v : String) :
  ∃ t, (settingOf v).text? = some t
  := by
  obtain ⟨-, h⟩ | ⟨-, h⟩ | ⟨-, -, ⟨i, -, h⟩ | ⟨-, ⟨d, -, h⟩ | ⟨-, h⟩⟩⟩ := settingOf_cases v <;>
    exact ⟨_, congrArg Setting.text? h⟩

/-- A value is read as the text that it was exactly if it is in its own spelling. -/
theorem text?_settingOf_iff {v : String} :
  (settingOf v).text? = some v ↔ OwnSpelling v
  := by
  obtain ⟨hyes, h⟩ | ⟨hno, h⟩ | ⟨hyes, hno, ⟨i, hi, h⟩ | ⟨hi, ⟨d, hd, h⟩ | ⟨hd, h⟩⟩⟩ :=
    settingOf_cases v <;> rw [h, Setting.text?, Option.some_inj]
  · constructor
    · rintro rfl
      exact ownSpelling_true
    · intro hv
      exact (hv.yes hyes).symm
  · constructor
    · rintro rfl
      exact ownSpelling_false
    · intro hv
      exact (hv.no hno).symm
  · constructor
    · intro hv
      refine ⟨fun h => absurd h hyes, fun h => absurd h hno, ?_, ?_⟩
      · intro j hj
        obtain rfl := Option.some.inj (hi.symm.trans hj)
        exact hv.symm
      · intro hnone
        cases hi.symm.trans hnone
    · intro hv
      exact (hv.whole i hi).symm
  · constructor
    · intro hv
      refine ⟨fun h => absurd h hyes, fun h => absurd h hno, ?_, ?_⟩
      · intro j hj
        cases hi.symm.trans hj
      · intro _ e he
        obtain rfl := Option.some.inj (hd.symm.trans he)
        exact hv.symm
    · intro hv
      exact (hv.double hi d hd).symm
  · refine iff_of_true rfl ⟨fun h => absurd h hyes, fun h => absurd h hno, ?_, ?_⟩
    · intro j hj
      cases hi.symm.trans hj
    · intro _ e he
      cases hd.symm.trans he

end TaskDesk.Environment
