import TaskDesk.Decimal.Double

/-!
# Reading doubles

`Double.read?` reads a decimal: an optional sign, digits with an optional point among them,
and an optional exponent; the words `inf`, `infinity` and `nan` are read in any case.  The
result is the nearest double.
-/

namespace TaskDesk.Decimal

open TaskDesk.Text

/-- The exponent after a mantissa: nothing, or a letter `e` and a whole number. -/
private def exponent? : List Char → Option Int
  | [] => some 0
  | c :: s => if c = 'e' ∨ c = 'E' then wholeNumber? s else none

/-- Reads a decimal without its sign. -/
private def unsigned? (negative : Bool) (s : List Char) : Option Double :=
  let (whole, rest) := splitDigits s
  let (part, rest) := match rest with
    | '.' :: rest => splitDigits rest
    | rest => ([], rest)
  if whole = [] ∧ part = [] then none
  else
    (exponent? rest).map fun e =>
      Double.ofDecimal negative (digitsValue (whole ++ part)) (e - part.length)

/-- The double nearest to a decimal. -/
def Double.read? (s : String) : Option Double :=
  let (negative, body) := splitSign s.toList
  match lowered (String.ofList body) with
  | "inf" | "infinity" => some (Double.ofMagnitude negative Double.infiniteBits)
  | "nan" => some (if negative then Double.nan.neg else Double.nan)
  | _ => unsigned? negative body

private theorem exists_of_exponent? {s : List Char} {e : Int} (h : exponent? s = some e) :
  s = [] ∨ ∃ c ds, s = c :: ds ∧ (c = 'e' ∨ c = 'E') ∧ wholeNumber? ds = some e
  := by
  cases s with
  | nil => exact .inl rfl
  | cons c ds =>
    rw [exponent?] at h
    split at h
    · next hc => exact .inr ⟨c, ds, rfl, hc, h⟩
    · cases h

private theorem exists_parts_of_unsigned? {negative : Bool} {s : List Char} {d : Double}
    (h : unsigned? negative s = some d) :
  ∃ whole part exponent, s = whole ++ part ++ exponent ∧ (∀ c ∈ whole, c.isDigit = true)
    ∧ (∀ c ∈ part, c = '.' ∨ c.isDigit = true) ∧ ∃ e, exponent? exponent = some e
  := by
  have hdigits : ∀ ds : List Char, ∀ c ∈ (splitDigits ds).1, c.isDigit = true :=
    fun ds => List.all_eq_true.mp List.all_takeWhile
  have hsplit : ∀ ds : List Char, ds = (splitDigits ds).1 ++ (splitDigits ds).2 :=
    fun ds => List.takeWhile_append_dropWhile.symm
  have hs := hsplit s
  have hwhole := hdigits s
  rw [unsigned?] at h
  generalize splitDigits s = parts at h hs hwhole
  obtain ⟨whole, rest⟩ := parts
  simp only at h hs hwhole
  split at h
  · next r =>
    split at h
    · cases h
    · obtain ⟨e, he, -⟩ := Option.map_eq_some_iff.mp h
      refine ⟨whole, '.' :: (splitDigits r).1, (splitDigits r).2, ?_, hwhole, ?_, e, he⟩
      · rw [hs, List.append_assoc, List.cons_append, ← hsplit r]
      · intro c hc
        exact (List.mem_cons.mp hc).imp_right (hdigits r c)
  · split at h
    · cases h
    · obtain ⟨e, he, -⟩ := Option.map_eq_some_iff.mp h
      exact ⟨whole, [], rest, by rw [hs, List.append_nil], hwhole, by simp, e, he⟩

/-- A text that is read as a double is, after its sign, one of a few words, or digits, digits
after a point, and an exponent. -/
theorem Double.exists_parts_of_read? {s : String} {d : Double} (h : Double.read? s = some d) :
  lowered (String.ofList (splitSign s.toList).2) ∈ ["inf", "infinity", "nan"]
    ∨ ∃ whole part exponent, (splitSign s.toList).2 = whole ++ part ++ exponent
        ∧ (∀ c ∈ whole, c.isDigit = true) ∧ (∀ c ∈ part, c = '.' ∨ c.isDigit = true)
        ∧ (exponent = [] ∨ ∃ c ds, ∃ e : Int, exponent = c :: ds ∧ (c = 'e' ∨ c = 'E')
            ∧ wholeNumber? ds = some e)
  := by
  rw [read?] at h
  generalize splitSign s.toList = sign at h ⊢
  obtain ⟨negative, body⟩ := sign
  simp only at h ⊢
  split at h
  · next hword => exact .inl (by simp [hword])
  · next hword => exact .inl (by simp [hword])
  · next hword => exact .inl (by simp [hword])
  · obtain ⟨whole, part, exponent, hbody, hwhole, hpart, e, he⟩ := exists_parts_of_unsigned? h
    refine .inr ⟨whole, part, exponent, hbody, hwhole, hpart, ?_⟩
    obtain hnil | ⟨c, ds, hcons, hc, hds⟩ := exists_of_exponent? he
    · exact .inl hnil
    · exact .inr ⟨c, ds, e, hcons, hc, hds⟩

end TaskDesk.Decimal
