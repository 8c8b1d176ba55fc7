import TaskDesk.Json.Reader
import TaskDesk.Proofs.Json.Form

/-!
# Numbers read back

A numeral is well formed if it has the digits that JSON asks for.  The text of a well-formed
numeral is read back to the numeral, if what follows does not go on with a number:
`readNumeral_chars`.  The text of a whole number and that of a double, other than infinity and
what is no number, are texts of well-formed numerals: `chars_of_numberForm`.
-/

namespace TaskDesk.Form

open TaskDesk.Text TaskDesk.Decimal Json

/-- Whether a text does not go on with a number. -/
def StopsNumber (s : List Char) : Prop :=
  ∀ c ∈ s.head?, c.isDigit = false ∧ c ≠ '.' ∧ c ≠ 'e' ∧ c ≠ 'E'

namespace Numeral

/-- The point and the digits after it. -/
def partChars : Option (List Char) → List Char
  | none => []
  | some ds => '.' :: ds

/-- The letter of an exponent, its sign if it is negative, and its digits. -/
def exponentChars : Option (Bool × List Char) → List Char
  | none => []
  | some (negative, ds) => 'e' :: if negative then '-' :: ds else ds

/-- A numeral without its sign. -/
def body (n : Numeral) : List Char :=
  n.whole ++ partChars n.part ++ exponentChars n.exponent

/-- The text of a numeral. -/
def chars (n : Numeral) : List Char :=
  if n.negative then '-' :: n.body else n.body

/-- Whether a numeral has digits wherever JSON asks for them, and no leading zero. -/
structure WellFormed (n : Numeral) : Prop where
  whole : AreDigits n.whole
  noLeadingZero : ∀ c r, n.whole ≠ '0' :: c :: r
  part : ∀ ds, n.part = some ds → AreDigits ds
  exponent : ∀ negative ds, n.exponent = some (negative, ds) → AreDigits ds

end Numeral

/-! ### The reader -/

variable {s : List Char}

theorem StopsNumber.stopsDigits (h : StopsNumber s) :
  StopsDigits s
  := fun c hc => (h c hc).1

theorem readExponent_chars {exponent : Option (Bool × List Char)}
    (h : ∀ negative ds, exponent = some (negative, ds) → AreDigits ds)
    (hs : StopsNumber s) :
  readExponent (Numeral.exponentChars exponent ++ s) = some (exponent, s)
  := by
  match exponent with
  | none =>
    rw [Numeral.exponentChars, List.nil_append]
    unfold readExponent
    split
    · rfl
    · next c r =>
      obtain ⟨-, -, he, hE⟩ := hs c rfl
      simp [he, hE]
  | some (negative, ds) =>
    have hds := h negative ds rfl
    have hsplit := splitDigits_append hds.isDigit hs.stopsDigits
    cases negative with
    | false => simp [Numeral.exponentChars, readExponent, splitSign_digits hds, hsplit, hds.ne_nil]
    | true => simp [Numeral.exponentChars, readExponent, splitSign, hsplit, hds.ne_nil]

theorem readPart_chars {part : Option (List Char)}
    (h : ∀ ds, part = some ds → AreDigits ds) (hdigits : StopsDigits s)
    (hpoint : ∀ r, s ≠ '.' :: r) :
  readPart (Numeral.partChars part ++ s) = some (part, s)
  := by
  cases part with
  | none =>
    rw [Numeral.partChars, List.nil_append]
    unfold readPart
    split
    · exact absurd rfl (hpoint _)
    · rfl
  | some ds =>
    have hds := h ds rfl
    simp [Numeral.partChars, readPart, splitDigits_append hds.isDigit hdigits, hds.ne_nil]

/-- The text of a well-formed numeral is read back to the numeral. -/
theorem readNumeral_chars {n : Numeral} (hn : n.WellFormed) (hs : StopsNumber s) :
  readNumeral (n.chars ++ s) = some (n, s)
  := by
  obtain ⟨negative, whole, part, exponent⟩ := n
  obtain ⟨hwhole, hzero, hpart, hexponent⟩ := hn
  simp only at hwhole hzero hpart hexponent
  -- What comes after the whole part and after the part behind the point starts with no digit.
  have hafter : StopsDigits (Numeral.exponentChars exponent ++ s)
      ∧ ∀ r, Numeral.exponentChars exponent ++ s ≠ '.' :: r := by
    match exponent with
    | none =>
      refine ⟨hs.stopsDigits, ?_⟩
      rintro r rfl
      exact (hs '.' rfl).2.1 rfl
    | some (_, ds) => simp [Numeral.exponentChars, StopsDigits]
  have hpoint : StopsDigits (Numeral.partChars part ++ (Numeral.exponentChars exponent ++ s)) := by
    cases part with
    | none => exact hafter.1
    | some ds => simp [Numeral.partChars, StopsDigits]
  have hsplit := splitDigits_append hwhole.isDigit hpoint
  have hreadPart := readPart_chars hpart hafter.1 hafter.2
  have hreadExponent := readExponent_chars hexponent hs
  have hwhole' : ¬(whole = [] ∨ false = true) := by simp [hwhole.ne_nil]
  simp only [readNumeral, Numeral.chars, Numeral.body]
  cases negative with
  | true =>
    simp only [if_true, List.cons_append, List.append_assoc, hsplit]
    rw [if_neg hwhole', hreadPart, Option.bind_some, hreadExponent]
    rfl
  | false =>
    simp only [Bool.false_eq_true, if_false, List.append_assoc]
    split
    · next r hr =>
      -- digits do not start with a sign
      obtain ⟨c, ds, rfl⟩ := List.exists_cons_of_ne_nil hwhole.ne_nil
      have hdigit : c.isDigit = true := hwhole.isDigit c List.mem_cons_self
      obtain rfl := (List.cons.inj hr).1
      simp at hdigit
    · simp only [hsplit]
      rw [if_neg hwhole', hreadPart, Option.bind_some, hreadExponent]
      rfl

/-! ### The printer -/

namespace Numeral

theorem chars_wholeNumeral (i : Int) :
  (wholeNumeral i).chars = intDigits i
  := by
  simp [wholeNumeral, chars, body, partChars, exponentChars, intDigits]

theorem wellFormed_wholeNumeral (i : Int) :
  (wholeNumeral i).WellFormed
  where
  whole := areDigits_natDigits i.natAbs
  noLeadingZero c r hzero := by
    simp only [wholeNumeral] at hzero
    by_cases hi : i.natAbs = 0
    · rw [hi, natDigits] at hzero
      simp at hzero
    · apply head_natDigits_ne hi
      rw [hzero]
      rfl
  part _ h := by cases h
  exponent _ _ h := by cases h

variable {ds : List Char}

theorem chars_decimalNumeral (h : ds ≠ []) (negative : Bool) (k : Int) :
  (decimalNumeral negative ds k).chars
    = if negative then '-' :: doubleLayout.write ds k else doubleLayout.write ds k
  := by
  have hbody : (decimalNumeral negative ds k).body = doubleLayout.write ds k := by
    simp only [decimalNumeral, Layout.write, doubleLayout, Option.all_some, Bool.and_eq_true,
      decide_eq_true_eq]
    split
    · split
      · simp [body, partChars, exponentChars]
      · split <;> simp [body, partChars, exponentChars]
    · obtain ⟨d, rest, rfl⟩ := List.exists_cons_of_ne_nil h
      cases rest with
      | nil => simp [body, partChars, exponentChars, intDigits]
      | cons d' rest => simp [body, partChars, exponentChars, intDigits]
  have hsign : (decimalNumeral negative ds k).negative = negative := by
    simp only [decimalNumeral]
    split
    · split
      · rfl
      · split <;> rfl
    · rfl
  rw [chars, hbody, hsign]

/-- Digits that start with one other than zero have no leading zero, whatever comes after them. -/
theorem noLeadingZero_append (h : IsSignificand ds) (s : List Char) (c : Char) (r : List Char) :
  ds ++ s ≠ '0' :: c :: r
  := by
  obtain ⟨d, rest, rfl⟩ := List.exists_cons_of_ne_nil h.ne_nil
  intro heq
  apply h.head_ne
  rw [(List.cons.inj heq).1]
  rfl

theorem noLeadingZero_take (h : IsSignificand ds) (n : Nat) (c : Char) (r : List Char) :
  ds.take n ≠ '0' :: c :: r
  := by
  intro heq
  apply noLeadingZero_append h [] c (r ++ ds.drop n)
  rw [List.append_nil, ← List.cons_append, ← List.cons_append, ← heq, List.take_append_drop]

theorem wellFormed_decimalNumeral (h : IsSignificand ds) (negative : Bool) (k : Int) :
  (decimalNumeral negative ds k).WellFormed
  := by
  have hds : AreDigits ds := h.toAreDigits
  have hlength : 0 < ds.length := List.length_pos_iff.mpr hds.ne_nil
  rw [decimalNumeral]
  split
  · split
    · -- below one, with zeros between the point and the digits
      constructor
      · exact areDigits_zero
      · simp
      · rintro _ ⟨⟩
        refine ⟨by simp [hds.ne_nil], ?_⟩
        rw [List.forall_mem_append]
        exact ⟨fun _ => isDigit_of_mem_zeros, hds.isDigit⟩
      · rintro _ _ ⟨⟩
    · next hk =>
      split
      · -- a whole number
        constructor
        · exact hds.append fun _ => isDigit_of_mem_zeros
        · exact noLeadingZero_append h _
        · rintro _ ⟨⟩
          exact areDigits_zero
        · rintro _ _ ⟨⟩
      · next hlong =>
        -- the point is among the digits
        constructor
        · exact hds.take (by omega)
        · exact noLeadingZero_take h _
        · rintro _ ⟨⟩
          exact hds.drop (by omega)
        · rintro _ _ ⟨⟩
  · constructor
    · exact hds.take Nat.one_pos
    · exact noLeadingZero_take h 1
    · intro es hes
      simp only at hes
      split at hes
      · cases hes
      · obtain rfl := Option.some.inj hes
        exact hds.drop (by omega)
    · rintro _ _ ⟨⟩
      exact areDigits_natDigits _

theorem chars_doubleNumeral {d : Double} {negative : Bool} {m : Nat} {e : Int}
    (h : d.decode = .finite negative m e) :
  (doubleNumeral negative m e).chars = d.text doubleLayout
  := by
  simp only [Double.text, h, doubleNumeral]
  split
  · cases negative <;> rfl
  · next hm =>
    have hds := isSignificand_shortest (Nat.pos_of_ne_zero hm) (lt_of_decode h) e
    exact chars_decimalNumeral hds.ne_nil negative _

theorem wellFormed_doubleNumeral {d : Double} {negative : Bool} {m : Nat} {e : Int}
    (h : d.decode = .finite negative m e) :
  (doubleNumeral negative m e).WellFormed
  := by
  rw [doubleNumeral]
  split
  · constructor
    · exact areDigits_zero
    · simp
    · rintro _ ⟨⟩
      exact areDigits_zero
    · rintro _ _ ⟨⟩
  · next hm =>
    have hds := isSignificand_shortest (Nat.pos_of_ne_zero hm) (lt_of_decode h) e
    exact wellFormed_decimalNumeral hds negative _

end Numeral

/-- The text of a number is that of a well-formed numeral, unless it is `null`. -/
theorem chars_of_numberForm (n : Number) :
  (∃ ν : Numeral, numberForm n = .num ν ∧ ν.chars = numberChars n ∧ ν.WellFormed)
    ∨ numberForm n = .null ∧ numberChars n = "null".toList
  := by
  cases n with
  | whole i =>
    exact .inl ⟨_, rfl, Numeral.chars_wholeNumeral i, Numeral.wellFormed_wholeNumeral i⟩
  | double d =>
    match h : d.decode with
    | .finite negative m e =>
      left
      refine ⟨doubleNumeral negative m e, ?_, ?_, Numeral.wellFormed_doubleNumeral h⟩
      · simp only [numberForm, h]
      · simp only [numberChars, h, Numeral.chars_doubleNumeral h]
    | .infinite negative => simp [numberForm, numberChars, h]
    | .nan => simp [numberForm, numberChars, h]

end TaskDesk.Form
