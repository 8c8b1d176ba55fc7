import TaskDesk.Proofs.Json.Reader

/-!
# Texts without blanks read back

The reader takes the text that `Json.compact` writes for a value to the form of the value,
`read?_compact`, as it does with the text over several lines.  So the form of a value does not
depend on how the value was printed.
-/

namespace TaskDesk.Form

open TaskDesk.Text Json

/-- The text of a value starts with neither a blank nor a closing bracket. -/
theorem head_compactChars (v : Json) :
  ∃ c cs, compactChars v = c :: cs ∧ isSpace c = false ∧ c ≠ ']'
  := by
  match v with
  | .null => exact ⟨_, _, rfl, rfl, by decide⟩
  | .bool true => exact ⟨_, _, rfl, rfl, by decide⟩
  | .bool false => exact ⟨_, _, rfl, rfl, by decide⟩
  | .num x => exact head_numberChars x
  | .str s => exact ⟨_, _, rfl, rfl, by decide⟩
  | .arr _ => exact ⟨_, _, rfl, rfl, by decide⟩
  | .obj _ => exact ⟨_, _, rfl, rfl, by decide⟩

/-- Items start with the first of them. -/
theorem dropSpace_compactItems_ne (v : Json) (items : List Json) (s r : List Char) :
  dropSpace (compactItems (v :: items) ++ s) ≠ ']' :: r
  := by
  obtain ⟨c, cs, hcs, hspace, hbracket⟩ := head_compactChars v
  cases items with
  | nil =>
    rw [compactItems, hcs, List.append_assoc, List.cons_append, dropSpace_cons hspace]
    simp [hbracket]
  | cons w items =>
    rw [compactItems, hcs, List.append_assoc, List.cons_append, dropSpace_cons hspace]
    · simp [hbracket]
    · simp

theorem dropSpace_compactFields_ne (k : String) (v : Json) (fields : List (String × Json))
    (s r : List Char) :
  dropSpace (compactFields ((k, v) :: fields) ++ s) ≠ '\x7d' :: r
  := by
  have hquote : isSpace '"' = false := by decide
  cases fields with
  | nil => simp [compactFields, stringChars, dropSpace_cons hquote]
  | cons e fields => simp [compactFields, stringChars, dropSpace_cons hquote]

theorem stopsNumber_bracket (s : List Char) :
  StopsNumber (']' :: s)
  := by
  simp [StopsNumber]

theorem stopsNumber_brace (s : List Char) :
  StopsNumber ('\x7d' :: s)
  := by
  simp [StopsNumber]

mutual

/-- A value is read back from its text, if the fuel is more than the characters of the text. -/
theorem readValue_compact : (n : Nat) → (v : Json) → (compactChars v).length < n →
    (rest : List Char) → StopsNumber rest →
    readValue n (compactChars v ++ rest) = some (v.form, rest)
  | n + 1, .null, _, rest, _ => rfl
  | n + 1, .bool true, _, rest, _ => rfl
  | n + 1, .bool false, _, rest, _ => rfl
  | n + 1, .num x, _, rest, hrest => by
    rw [compactChars, Json.form, readValue_numberChars n x hrest]
  | n + 1, .str s, _, rest, _ => by
    rw [compactChars, Json.form, readValue_stringChars]
  | n + 1, .arr [], _, rest, _ => rfl
  | n + 1, .arr (v :: items), hn, rest, _ => by
    rw [compactChars, List.length_cons] at hn
    rw [compactChars, List.cons_append, readValue_items (dropSpace_compactItems_ne v items rest),
      readItems_compact n v items (by omega)]
    rfl
  | n + 1, .obj [], _, rest, _ => rfl
  | n + 1, .obj ((k, v) :: fields), hn, rest, _ => by
    rw [compactChars, List.length_cons] at hn
    rw [compactChars, List.cons_append,
      readValue_fields (dropSpace_compactFields_ne k v fields rest),
      readFields_compact n k v fields (by omega)]
    rfl

theorem readItems_compact : (n : Nat) → (v : Json) → (items : List Json) →
    (compactItems (v :: items)).length < n → (rest : List Char) →
    readItems n (compactItems (v :: items) ++ rest) = some (forms (v :: items), rest)
  | n + 1, v, [], hn, rest => by
    have hspace : isSpace ']' = false := by decide
    simp only [compactItems, List.length_append, List.length_cons] at hn
    rw [compactItems, List.append_assoc, List.singleton_append,
      readItems_last (readValue_compact n v (by omega) _ (stopsNumber_bracket _))
        (dropSpace_cons hspace _)]
    rfl
  | n + 1, v, w :: items, hn, rest => by
    have hspace : isSpace ',' = false := by decide
    simp only [compactItems, List.length_append, List.length_cons] at hn
    simp only [compactItems, List.append_assoc, List.cons_append]
    rw [readItems_more (readValue_compact n v (by omega) _ (stopsNumber_comma _))
        (dropSpace_cons hspace _),
      readItems_compact n w items (by omega)]
    rfl

theorem readFields_compact : (n : Nat) → (k : String) → (v : Json) →
    (fields : List (String × Json)) → (compactFields ((k, v) :: fields)).length < n →
    (rest : List Char) →
    readFields n (compactFields ((k, v) :: fields) ++ rest)
      = some (formFields ((k, v) :: fields), rest)
  | n + 1, k, v, [], hn, rest => by
    have hspace : isSpace '\x7d' = false := by decide
    simp only [compactFields, List.length_append, List.length_cons] at hn
    simp only [compactFields, List.append_assoc, List.cons_append, List.nil_append]
    rw [readFields_field (readValue_compact n v (by omega) _ (stopsNumber_brace _)),
      dropSpace_cons hspace]
    rfl
  | n + 1, k, v, (l, w) :: fields, hn, rest => by
    have hspace : isSpace ',' = false := by decide
    simp only [compactFields, List.length_append, List.length_cons] at hn
    simp only [compactFields, List.append_assoc, List.cons_append]
    rw [readFields_field (readValue_compact n v (by omega) _ (stopsNumber_comma _)),
      dropSpace_cons hspace]
    simp only [readFields_compact n l w fields (by omega)]
    rfl

end

/-- The text of a value without blanks is read back to the form of the value. -/
theorem read?_compact (v : Json) :
  read? v.compact = some v.form
  :=
  read?_ofList (readValue_compact _ v (Nat.lt_succ_self _) [] (by simp [StopsNumber]))

end TaskDesk.Form
