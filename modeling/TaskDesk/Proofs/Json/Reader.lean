import TaskDesk.Proofs.Json.Numeral

/-!
# Texts of JSON values read back

The reader takes the text that `Json.pretty` writes for a value to the form of the value,
`read?_pretty`.  Each reader is described by what it does in front of the text that the printer
writes; blanks in front of a value do not matter, and what follows a number must not go on with it.
-/

namespace TaskDesk.Form

open TaskDesk.Text Json

/-! ### Blanks -/

/-- A blank of JSON. -/
def isSpace (c : Char) : Bool :=
  c = ' ' ∨ c = '\n' ∨ c = '\t' ∨ c = '\r'

theorem dropSpace_eq (s : List Char) :
  dropSpace s = s.dropWhile isSpace
  := rfl

theorem dropSpace_cons {c : Char} (h : isSpace c = false) (s : List Char) :
  dropSpace (c :: s) = c :: s
  := by
  rw [dropSpace_eq, List.dropWhile_cons_of_neg (by simp [h])]

theorem dropSpace_space (s : List Char) :
  dropSpace (' ' :: s) = dropSpace s
  := rfl

@[simp]
theorem dropSpace_newLine (depth : Nat) (s : List Char) :
  dropSpace (newLine depth ++ s) = dropSpace s
  := by
  have hreplicate : ∀ n, dropSpace (List.replicate n ' ' ++ s) = dropSpace s := by
    intro n
    induction n with
    | zero => rfl
    | succ n ih => exact ih
  exact hreplicate (2 * depth)

@[simp]
theorem dropSpace_dropSpace (s : List Char) :
  dropSpace (dropSpace s) = dropSpace s
  := by
  induction s with
  | nil => rfl
  | cons c rest ih =>
    cases hc : isSpace c with
    | false => rw [dropSpace_cons hc, dropSpace_cons hc]
    | true =>
      rw [dropSpace_eq (c :: rest), List.dropWhile_cons_of_pos hc]
      exact ih

/-- Blanks in front of a value do not matter. -/
theorem readValue_congr {n : Nat} {s s' : List Char} (h : dropSpace s = dropSpace s') :
  readValue n s = readValue n s'
  := by
  cases n with
  | zero => rfl
  | succ n => rw [readValue, readValue, h]

theorem readItems_congr {n : Nat} {s s' : List Char} (h : dropSpace s = dropSpace s') :
  readItems n s = readItems n s'
  := by
  cases n with
  | zero => rfl
  | succ n => rw [readItems, readItems, readValue_congr h]

theorem readFields_congr {n : Nat} {s s' : List Char} (h : dropSpace s = dropSpace s') :
  readFields n s = readFields n s'
  := by
  cases n with
  | zero => rfl
  | succ n => rw [readFields, readFields, h]

/-! ### Strings -/

theorem unit?_hexPadded {n : Nat} (h : n < 0x20) :
  ∃ a b c d, hexPadded hexDigit 4 n = [a, b, c, d] ∧ unit? a b c d = some n
  := by
  have hunit : ∀ n < 0x20, unit? (hexDigit (n / 16 / 16 / 16 % 16)) (hexDigit (n / 16 / 16 % 16))
      (hexDigit (n / 16 % 16)) (hexDigit (n % 16)) = some n := by
    decide +kernel
  exact ⟨_, _, _, _, rfl, hunit n h⟩

/-- A character is read back as its piece. -/
theorem readPieces_charChars (c : Char) (s : List Char) :
  readPieces (charChars c ++ s) = (readPieces s).map fun (ps, r) => (piece c :: ps, r)
  := by
  unfold charChars
  split
  case h_8 hquote hslash hb hf hn hr ht =>
    split
    · next hc =>
      obtain ⟨a, b, c', d, hhex, hunit⟩ := unit?_hexPadded hc
      have hpiece : piece c = .unit c.toNat := by
        rw [piece, if_pos]
        simp_all
      rw [hhex, hpiece]
      simp [readPieces, hunit]
    · next hc =>
      have hpiece : piece c = .char c := by
        rw [piece, if_neg]
        simp [hc]
      rw [hpiece, List.singleton_append, readPieces.eq_def]
      split
      · next h => cases h
      · next h => exact absurd (List.cons.inj h).1 hquote
      · next h => exact absurd (List.cons.inj h).1 hslash
      · next h => exact absurd (List.cons.inj h).1 hslash
      · next h =>
        obtain ⟨rfl, rfl⟩ := List.cons.inj h
        rw [if_neg]
        rintro (hlow | hback)
        · exact hc hlow
        · exact hslash hback
  all_goals rfl

theorem readPieces_chars (cs s : List Char) :
  readPieces (cs.flatMap charChars ++ '"' :: s) = some (cs.map piece, s)
  := by
  induction cs with
  | nil => simp [readPieces]
  | cons c rest ih =>
    rw [List.flatMap_cons, List.append_assoc, readPieces_charChars, ih]
    rfl

/-! ### Values -/

theorem head_chars {n : Numeral} (h : n.WellFormed) :
  ∃ c cs, n.chars = c :: cs ∧ (c = '-' ∨ c.isDigit = true)
  := by
  obtain ⟨c, ds, hds⟩ := List.exists_cons_of_ne_nil h.whole.ne_nil
  rw [Numeral.chars]
  split
  · exact ⟨'-', _, rfl, .inl rfl⟩
  · have hc : c.isDigit = true := h.whole.isDigit c (hds ▸ List.mem_cons_self)
    rw [Numeral.body, hds, List.cons_append, List.cons_append]
    exact ⟨c, _, rfl, .inr hc⟩

theorem isSpace_of_number {c : Char} (h : c = '-' ∨ c.isDigit = true) :
  isSpace c = false
  := by
  obtain rfl | h := h
  · rfl
  · by_contra hspace
    rw [Bool.not_eq_false, isSpace, decide_eq_true_eq] at hspace
    obtain rfl | rfl | rfl | rfl := hspace <;> simp at h

/-- A number is read as one. -/
theorem readValue_number {n : Nat} {c : Char} {s : List Char} (h : c = '-' ∨ c.isDigit = true) :
  readValue (n + 1) (c :: s) = (readNumeral (c :: s)).map fun (n, r) => (.num n, r)
  := by
  rw [readValue, dropSpace_cons (isSpace_of_number h)]
  split <;> simp_all

/-- The text of a number starts with neither a blank nor a closing bracket. -/
theorem head_numberChars (x : Number) :
  ∃ c cs, numberChars x = c :: cs ∧ isSpace c = false ∧ c ≠ ']'
  := by
  obtain ⟨ν, -, hchars, hν⟩ | ⟨-, hnull⟩ := chars_of_numberForm x
  · obtain ⟨c, cs, hcs, hc⟩ := head_chars hν
    refine ⟨c, cs, by rw [← hchars, hcs], isSpace_of_number hc, ?_⟩
    rintro rfl
    simp at hc
  · exact ⟨_, _, hnull, rfl, by decide⟩

/-- A number is read back from its text. -/
theorem readValue_numberChars (n : Nat) (x : Number) {rest : List Char} (h : StopsNumber rest) :
  readValue (n + 1) (numberChars x ++ rest) = some (numberForm x, rest)
  := by
  obtain ⟨ν, hform, hchars, hν⟩ | ⟨hform, hnull⟩ := chars_of_numberForm x
  · obtain ⟨c, cs, hcs, hc⟩ := head_chars hν
    have hread := readNumeral_chars hν h
    rw [← hchars, hform]
    rw [hcs, List.cons_append] at hread ⊢
    rw [readValue_number hc, hread]
    rfl
  · rw [hform, hnull]
    rfl

/-- A string is read back from its text. -/
theorem readValue_stringChars (n : Nat) (s : String) (rest : List Char) :
  readValue (n + 1) (stringChars s ++ rest) = some (.str (pieces s), rest)
  := by
  have hquote : isSpace '"' = false := by decide
  rw [stringChars, List.cons_append, readValue, dropSpace_cons hquote]
  simp only [List.append_assoc, List.singleton_append, readPieces_chars]
  rfl

/-- The text of a value starts with neither a blank nor a closing bracket. -/
theorem head_prettyChars (depth : Nat) (v : Json) :
  ∃ c cs, prettyChars depth v = c :: cs ∧ isSpace c = false ∧ c ≠ ']'
  := by
  match v with
  | .null => exact ⟨_, _, rfl, rfl, by decide⟩
  | .bool true => exact ⟨_, _, rfl, rfl, by decide⟩
  | .bool false => exact ⟨_, _, rfl, rfl, by decide⟩
  | .num x => exact head_numberChars x
  | .str s => exact ⟨_, _, rfl, rfl, by decide⟩
  | .arr [] => exact ⟨_, _, rfl, rfl, by decide⟩
  | .arr (_ :: _) => exact ⟨_, _, rfl, rfl, by decide⟩
  | .obj [] => exact ⟨_, _, rfl, rfl, by decide⟩
  | .obj (_ :: _) => exact ⟨_, _, rfl, rfl, by decide⟩

theorem stopsNumber_newLine (depth : Nat) (s : List Char) :
  StopsNumber (newLine depth ++ s)
  := by
  simp [StopsNumber, newLine]

theorem stopsNumber_comma (s : List Char) :
  StopsNumber (',' :: s)
  := by
  simp [StopsNumber]

/-- Items start with the first of them. -/
theorem dropSpace_prettyItems_ne (depth : Nat) (v : Json) (items : List Json) (s r : List Char) :
  dropSpace (prettyItems depth (v :: items) ++ s) ≠ ']' :: r
  := by
  obtain ⟨c, cs, hcs, hspace, hbracket⟩ := head_prettyChars depth v
  cases items with
  | nil =>
    rw [prettyItems, hcs, List.append_assoc, dropSpace_newLine, List.cons_append,
      dropSpace_cons hspace]
    simp [hbracket]
  | cons w items =>
    rw [prettyItems, hcs, List.append_assoc, List.append_assoc, dropSpace_newLine,
      List.cons_append, dropSpace_cons hspace]
    · simp [hbracket]
    · simp

theorem dropSpace_prettyFields_ne (depth : Nat) (k : String) (v : Json)
    (fields : List (String × Json)) (s r : List Char) :
  dropSpace (prettyFields depth ((k, v) :: fields) ++ s) ≠ '\x7d' :: r
  := by
  have hquote : isSpace '"' = false := by decide
  cases fields with
  | nil =>
    simp only [prettyFields, List.append_assoc, dropSpace_newLine, stringChars, List.cons_append,
      dropSpace_cons hquote]
    simp
  | cons e fields =>
    simp only [prettyFields, List.append_assoc, dropSpace_newLine, stringChars, List.cons_append,
      dropSpace_cons hquote]
    simp

/-- A list with items is read by the reader of items. -/
theorem readValue_items {n : Nat} {s : List Char} (h : ∀ r, dropSpace s ≠ ']' :: r) :
  readValue (n + 1) ('[' :: s) = (readItems n s).map fun (items, r) => (.arr items, r)
  := by
  have hspace : isSpace '[' = false := by decide
  rw [readValue, dropSpace_cons hspace]
  simp only
  rw [readItems_congr (dropSpace_dropSpace s)]

/-- An object with fields is read by the reader of fields. -/
theorem readValue_fields {n : Nat} {s : List Char} (h : ∀ r, dropSpace s ≠ '\x7d' :: r) :
  readValue (n + 1) ('\x7b' :: s) = (readFields n s).map fun (fields, r) => (.obj fields, r)
  := by
  have hspace : isSpace '\x7b' = false := by decide
  rw [readValue, dropSpace_cons hspace]
  simp only
  rw [readFields_congr (dropSpace_dropSpace s)]

theorem readItems_last {n : Nat} {s r r' : List Char} {f : Form}
    (h : readValue n s = some (f, r)) (hr : dropSpace r = ']' :: r') :
  readItems (n + 1) s = some ([f], r')
  := by
  rw [readItems, h, Option.bind_some]
  simp only [hr]

theorem readItems_more {n : Nat} {s r r' : List Char} {f : Form}
    (h : readValue n s = some (f, r)) (hr : dropSpace r = ',' :: r') :
  readItems (n + 1) s = (readItems n r').map fun (fs, r) => (f :: fs, r)
  := by
  rw [readItems, h, Option.bind_some]
  simp only [hr]

/-- The name of a field and its value, in front of what comes after it. -/
theorem readFields_field {n : Nat} {k : String} {f : Form} {s r : List Char}
    (h : readValue n s = some (f, r)) :
  readFields (n + 1) (stringChars k ++ ':' :: s)
    = match dropSpace r with
      | '\x7d' :: r => some ([(pieces k, f)], r)
      | ',' :: r => (readFields n r).map fun (fs, r) => ((pieces k, f) :: fs, r)
      | _ => none
  := by
  have hquote : isSpace '"' = false := by decide
  have hcolon : isSpace ':' = false := by decide
  rw [readFields, stringChars, List.cons_append, dropSpace_cons hquote]
  simp only [List.append_assoc, List.singleton_append, readPieces_chars, Option.bind_some,
    dropSpace_cons hcolon, h]
  rfl

mutual

/-- A value is read back from its text, if the fuel is more than the characters of the text. -/
theorem readValue_pretty : (n : Nat) → (v : Json) → (depth : Nat) →
    (prettyChars depth v).length < n → (rest : List Char) → StopsNumber rest →
    readValue n (prettyChars depth v ++ rest) = some (v.form, rest)
  | n + 1, .null, depth, _, rest, _ => rfl
  | n + 1, .bool true, depth, _, rest, _ => rfl
  | n + 1, .bool false, depth, _, rest, _ => rfl
  | n + 1, .num x, depth, _, rest, hrest => by
    rw [prettyChars, Json.form, readValue_numberChars n x hrest]
  | n + 1, .str s, depth, _, rest, _ => by
    rw [prettyChars, Json.form, readValue_stringChars]
  | n + 1, .arr [], depth, _, rest, _ => rfl
  | n + 1, .arr (v :: items), depth, hn, rest, _ => by
    have hlength : (prettyItems (depth + 1) (v :: items)).length < n := by
      simp only [prettyChars, List.length_cons, List.length_append] at hn
      omega
    simp only [prettyChars, List.cons_append, List.append_assoc]
    rw [readValue_items (dropSpace_prettyItems_ne (depth + 1) v items _),
      List.nil_append, readItems_pretty n v items (depth + 1) hlength]
    rfl
  | n + 1, .obj [], depth, _, rest, _ => rfl
  | n + 1, .obj ((k, v) :: fields), depth, hn, rest, _ => by
    have hlength : (prettyFields (depth + 1) ((k, v) :: fields)).length < n := by
      simp only [prettyChars, List.length_cons, List.length_append] at hn
      omega
    simp only [prettyChars, List.cons_append, List.append_assoc]
    rw [readValue_fields (dropSpace_prettyFields_ne (depth + 1) k v fields _),
      List.nil_append, readFields_pretty n k v fields (depth + 1) hlength]
    rfl

theorem readItems_pretty : (n : Nat) → (v : Json) → (items : List Json) → (depth : Nat) →
    (prettyItems depth (v :: items)).length < n → (outer : Nat) → (rest : List Char) →
    readItems n (prettyItems depth (v :: items) ++ (newLine outer ++ ']' :: rest))
      = some (forms (v :: items), rest)
  | n + 1, v, [], depth, hn, outer, rest => by
    have hspace : isSpace ']' = false := by decide
    simp only [prettyItems, List.length_append, newLine, List.length_cons] at hn
    rw [prettyItems, List.append_assoc, readItems_congr (dropSpace_newLine depth _),
      readItems_last (readValue_pretty n v depth (by omega) _ (stopsNumber_newLine outer _))]
    · rfl
    · rw [dropSpace_newLine, dropSpace_cons hspace]
  | n + 1, v, w :: items, depth, hn, outer, rest => by
    have hspace : isSpace ',' = false := by decide
    simp only [prettyItems, List.length_append, newLine, List.length_cons] at hn
    simp only [prettyItems, List.append_assoc, List.cons_append]
    rw [readItems_congr (dropSpace_newLine depth _),
      readItems_more (readValue_pretty n v depth (by omega) _ (stopsNumber_comma _))
        (dropSpace_cons hspace _),
      readItems_pretty n w items depth (by omega)]
    rfl

theorem readFields_pretty : (n : Nat) → (k : String) → (v : Json) →
    (fields : List (String × Json)) → (depth : Nat) →
    (prettyFields depth ((k, v) :: fields)).length < n → (outer : Nat) → (rest : List Char) →
    readFields n (prettyFields depth ((k, v) :: fields) ++ (newLine outer ++ '\x7d' :: rest))
      = some (formFields ((k, v) :: fields), rest)
  | n + 1, k, v, [], depth, hn, outer, rest => by
    have hspace : isSpace '\x7d' = false := by decide
    simp only [prettyFields, List.length_append, newLine, List.length_cons] at hn
    simp only [prettyFields, List.append_assoc, List.cons_append, List.nil_append]
    rw [readFields_congr (dropSpace_newLine depth _),
      readFields_field ((readValue_congr (dropSpace_space _)).trans
        (readValue_pretty n v depth (by omega) _ (stopsNumber_newLine outer _))),
      dropSpace_newLine, dropSpace_cons hspace]
    rfl
  | n + 1, k, v, (l, w) :: fields, depth, hn, outer, rest => by
    have hspace : isSpace ',' = false := by decide
    simp only [prettyFields, List.length_append, newLine, List.length_cons] at hn
    simp only [prettyFields, List.append_assoc, List.cons_append, List.nil_append]
    rw [readFields_congr (dropSpace_newLine depth _),
      readFields_field ((readValue_congr (dropSpace_space _)).trans
        (readValue_pretty n v depth (by omega) _ (stopsNumber_comma _))),
      dropSpace_cons hspace]
    simp only [readFields_pretty n l w fields depth (by omega)]
    rfl

end

/-- A text is read to a form, if the reader of values with enough fuel takes all of it. -/
theorem read?_ofList {cs : List Char} {f : Form}
    (h : readValue (cs.length + 1) (cs ++ []) = some (f, [])) :
  read? (String.ofList cs) = some f
  := by
  rw [List.append_nil] at h
  simp only [read?, String.toList_ofList, h]
  rfl

/-- The text of a value is read back to the form of the value. -/
theorem read?_pretty (v : Json) :
  read? v.pretty = some v.form
  :=
  read?_ofList (readValue_pretty _ v 0 (Nat.lt_succ_self _) [] (by simp [StopsNumber]))

end TaskDesk.Form
