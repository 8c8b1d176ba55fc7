/-!
# Keyed lists

A keyed list is a list of entries, each a key with a value.  `find?` looks a key up, `put`
replaces the value of a key in its place or adds a new entry at the end, `swapErase` takes
an entry out and moves the last entry into the freed place.  Where keys are distinct, the
entry of a key is the only one it has, and the lookups after `put` are those of a map.
-/

namespace TaskDesk.Keyed

variable {α : Type}

/-- The value of the first entry with the given key. -/
def find? (k : String) : List (String × α) → Option α
  | [] => none
  | (k', v) :: rest => if k = k' then some v else find? k rest

/-- Whether a key has an entry. -/
def has (k : String) (entries : List (String × α)) : Bool :=
  (find? k entries).isSome

/-- The keys, in order. -/
def keys (entries : List (String × α)) : List String :=
  entries.map Prod.fst

/-- The values, in order. -/
def values (entries : List (String × α)) : List α :=
  entries.map Prod.snd

/-- The list in which the key has the given value. -/
def put (k : String) (v : α) : List (String × α) → List (String × α)
  | [] => [(k, v)]
  | (k', v') :: rest => if k = k' then (k, v) :: rest else (k', v') :: put k v rest

/-- The list without the entry of the key; the last entry moves into the freed place. -/
def swapErase (k : String) : List (String × α) → List (String × α)
  | [] => []
  | (k', v) :: rest =>
    if k = k' then
      match rest.getLast? with
      | none => []
      | some last => last :: rest.dropLast
    else (k', v) :: swapErase k rest

/-- The keyed list of given entries; a repeated key keeps its place and takes the last value. -/
def ofList (entries : List (String × α)) : List (String × α) :=
  entries.foldl (fun m e => put e.1 e.2 m) []

theorem find?_put (k k' : String) (v : α) (entries : List (String × α)) :
  find? k (put k' v entries) = if k = k' then some v else find? k entries
  := by
  induction entries with
  | nil => simp [put, find?]
  | cons e rest ih =>
    obtain ⟨l, w⟩ := e
    simp only [put]
    split <;> simp_all [find?]
    grind

theorem find?_put_eq_some {k k' : String} {v w : α} {entries : List (String × α)} :
  find? k (put k' v entries) = some w
    ↔ k = k' ∧ w = v ∨ k ≠ k' ∧ find? k entries = some w
  := by
  rw [find?_put]
  by_cases h : k = k'
  · simp [h, eq_comm]
  · simp [h]

/-- Of two lists the first one that has the key counts. -/
theorem find?_append (k : String) (entries later : List (String × α)) :
  find? k (entries ++ later) = (find? k entries).or (find? k later)
  := by
  induction entries with
  | nil => rfl
  | cons e rest ih =>
    obtain ⟨l, w⟩ := e
    rw [List.cons_append, find?, find?]
    split
    · rfl
    · exact ih

theorem find?_eq_none_iff {k : String} {entries : List (String × α)} :
  find? k entries = none ↔ k ∉ keys entries
  := by
  induction entries with
  | nil => simp [find?, keys]
  | cons e rest ih =>
    obtain ⟨l, w⟩ := e
    simp only [find?, keys, List.map_cons, List.mem_cons] at *
    split <;> simp_all

theorem keys_put (k : String) (v : α) (entries : List (String × α)) :
  keys (put k v entries) = if k ∈ keys entries then keys entries else keys entries ++ [k]
  := by
  induction entries with
  | nil => simp [put, keys]
  | cons e rest ih =>
    obtain ⟨l, w⟩ := e
    simp only [keys, put] at *
    by_cases h : k = l
    · simp [h]
    · simp only [h, if_false, List.map_cons, ih, List.mem_cons, false_or]
      split <;> simp_all

theorem mem_put {e : String × α} {k : String} {v : α} {entries : List (String × α)}
    (h : e ∈ put k v entries) :
  e = (k, v) ∨ e ∈ entries
  := by
  induction entries with
  | nil => simp_all [put]
  | cons a rest ih =>
    obtain ⟨l, w⟩ := a
    simp only [put] at h
    split at h
    · simp only [List.mem_cons] at h ⊢
      exact h.imp_right .inr
    · simp only [List.mem_cons] at h ⊢
      obtain h | h := h
      · exact .inr (.inl h)
      · exact (ih h).imp_right .inr

theorem mem_keys_iff {k : String} {entries : List (String × α)} :
  k ∈ keys entries ↔ ∃ v, find? k entries = some v
  := by
  have h : find? k entries = none ↔ k ∉ keys entries := find?_eq_none_iff
  cases hf : find? k entries <;> simp_all

theorem mem_of_find? {k : String} {v : α} {entries : List (String × α)}
    (h : find? k entries = some v) :
  (k, v) ∈ entries
  := by
  induction entries with
  | nil => simp [find?] at h
  | cons e rest ih =>
    obtain ⟨l, w⟩ := e
    simp only [find?] at h
    split at h <;> simp_all

/-- The value that a key has already changes nothing. -/
theorem put_of_find? {k : String} {v : α} {entries : List (String × α)}
    (h : find? k entries = some v) :
  put k v entries = entries
  := by
  induction entries with
  | nil => simp [find?] at h
  | cons e rest ih =>
    obtain ⟨l, w⟩ := e
    simp only [find?] at h
    by_cases hk : k = l
    · simp_all [put]
    · simp_all [put]

/-- Of two values that are put under a key the later one counts. -/
theorem put_put (k : String) (v w : α) (entries : List (String × α)) :
  put k v (put k w entries) = put k v entries
  := by
  induction entries with
  | nil => simp [put]
  | cons e rest ih =>
    obtain ⟨l, x⟩ := e
    by_cases hk : k = l
    · simp [put, hk]
    · simp [put, hk, ih]

section Map

variable {β : Type} (f : α → β)

theorem find?_map (k : String) (entries : List (String × α)) :
  find? k (entries.map fun e => (e.1, f e.2)) = (find? k entries).map f
  := by
  induction entries with
  | nil => rfl
  | cons e rest ih =>
    obtain ⟨l, w⟩ := e
    rw [List.map_cons, find?, find?]
    split
    · rfl
    · exact ih

theorem map_put (k : String) (v : α) (entries : List (String × α)) :
  ((put k v entries).map fun e => (e.1, f e.2)) = put k (f v) (entries.map fun e => (e.1, f e.2))
  := by
  induction entries with
  | nil => rfl
  | cons e rest ih =>
    obtain ⟨l, w⟩ := e
    by_cases hk : k = l
    · simp [put, hk]
    · simp [put, hk, ih]

end Map

/-- Where keys are distinct, looking up finds exactly the entries. -/
theorem find?_eq_some_iff {k : String} {v : α} {entries : List (String × α)}
    (h : (keys entries).Nodup) :
  find? k entries = some v ↔ (k, v) ∈ entries
  := by
  constructor
  · apply mem_of_find?
  · intro hm
    induction entries with
    | nil => simp at hm
    | cons e rest ih =>
      obtain ⟨l, w⟩ := e
      simp only [keys, List.map_cons, List.nodup_cons] at h
      rw [List.mem_cons, Prod.mk.injEq] at hm
      obtain ⟨rfl, rfl⟩ | hrest := hm
      · simp [find?]
      · have hk : k ≠ l := by
          rintro rfl
          exact h.1 (List.mem_map_of_mem (f := Prod.fst) hrest)
        simpa [find?, hk] using ih h.2 hrest

/-- Where keys are distinct, the order of entries does not matter for what is found. -/
theorem find?_of_perm {entries entries' : List (String × α)} (h : entries.Perm entries')
    (hkeys : (keys entries).Nodup) (k : String) :
  find? k entries = find? k entries'
  := by
  have hkeys' : (keys entries').Nodup := (h.map Prod.fst).nodup_iff.mp hkeys
  apply Option.ext
  intro v
  rw [find?_eq_some_iff hkeys, find?_eq_some_iff hkeys', h.mem_iff]

theorem nodup_keys_put {k : String} {v : α} {entries : List (String × α)}
    (h : (keys entries).Nodup) :
  (keys (put k v entries)).Nodup
  := by
  rw [keys_put]
  split
  · apply h
  · next hk =>
    rw [List.nodup_append]
    refine ⟨h, by simp, ?_⟩
    intro a ha b hb
    rw [List.mem_singleton] at hb
    rintro rfl
    exact hk (hb ▸ ha)

/-- Where keys are distinct, the values are what can be looked up. -/
theorem mem_values_iff {v : α} {entries : List (String × α)} (h : (keys entries).Nodup) :
  v ∈ values entries ↔ ∃ k, find? k entries = some v
  := by
  simp [values, find?_eq_some_iff h]

/-- A new key goes to the end. -/
theorem put_eq_append {k : String} {v : α} {entries : List (String × α)}
    (h : k ∉ keys entries) :
  put k v entries = entries ++ [(k, v)]
  := by
  induction entries with
  | nil => rfl
  | cons e rest ih =>
    obtain ⟨l, w⟩ := e
    simp only [keys, List.map_cons, List.mem_cons, not_or] at h
    simp [put, h.1, ih h.2]

private theorem foldl_put_eq_append (done entries : List (String × α))
    (h : (keys (done ++ entries)).Nodup) :
  entries.foldl (fun m e => put e.1 e.2 m) done = done ++ entries
  := by
  induction entries generalizing done with
  | nil => simp
  | cons e rest ih =>
    have hk : e.1 ∉ keys done := by
      simp only [keys, List.map_append, List.map_cons, List.nodup_append] at h
      intro he
      exact h.2.2 _ he _ (by simp) rfl
    rw [List.foldl_cons, put_eq_append hk, ih _ (by simpa using h)]
    simp

/-- Entries with distinct keys stay as they are. -/
theorem ofList_of_nodup {entries : List (String × α)} (h : (keys entries).Nodup) :
  ofList entries = entries
  := foldl_put_eq_append [] entries h

private theorem nodup_keys_foldl_put {done : List (String × α)} (h : (keys done).Nodup)
    (entries : List (String × α)) :
  (keys (entries.foldl (fun m e => put e.1 e.2 m) done)).Nodup
  := by
  induction entries generalizing done with
  | nil => exact h
  | cons e rest ih => exact ih (nodup_keys_put h)

theorem nodup_keys_ofList (entries : List (String × α)) :
  (keys (ofList entries)).Nodup
  := nodup_keys_foldl_put (by simp [keys]) entries

private theorem mem_foldl_put {e : String × α} {done entries : List (String × α)}
    (h : e ∈ entries.foldl (fun m e => put e.1 e.2 m) done) :
  e ∈ done ∨ e ∈ entries
  := by
  induction entries generalizing done with
  | nil => exact .inl h
  | cons a rest ih =>
    obtain hput | hrest := ih h
    · obtain rfl | hd := mem_put hput
      · simp
      · exact .inl hd
    · exact .inr (List.mem_cons_of_mem a hrest)

theorem mem_ofList {e : String × α} {entries : List (String × α)} (h : e ∈ ofList entries) :
  e ∈ entries
  := by
  simpa using mem_foldl_put h

private theorem find?_foldl_put (k : String) (done entries : List (String × α)) :
  find? k (entries.foldl (fun m e => put e.1 e.2 m) done)
    = ((entries.reverse.find? fun e => e.1 = k).map Prod.snd).or (find? k done)
  := by
  induction entries generalizing done with
  | nil => rfl
  | cons e rest ih =>
    rw [List.foldl_cons, ih, find?_put, List.reverse_cons, List.find?_append]
    by_cases hk : k = e.1
    · cases rest.reverse.find? fun e => e.1 = k <;> simp [hk]
    · cases rest.reverse.find? fun e => e.1 = k <;> simp [hk, Ne.symm hk]

/-- Of the given entries of a key the last is found. -/
theorem find?_ofList (k : String) (entries : List (String × α)) :
  find? k (ofList entries) = (entries.reverse.find? fun e => e.1 = k).map Prod.snd
  := by
  rw [ofList, find?_foldl_put, find?, Option.or_none]

/-! ### Values with keys of their own -/

/-- Values that are held under their own keys have the keys of the list. -/
theorem map_values {key : α → String} {entries : List (String × α)} (h : (keys entries).Nodup)
    (hkey : ∀ {k v}, find? k entries = some v → key v = k) :
  (values entries).map key = keys entries
  := by
  rw [values, keys, List.map_map]
  apply List.map_congr_left
  intro e he
  exact hkey ((find?_eq_some_iff h).mpr he)

/-- Where keys are distinct, each value is the first one with its key. -/
theorem find?_key_iff {key : α → String} {xs : List α} (h : (xs.map key).Nodup) {v : α} :
  xs.find? (fun x => key x = key v) = some v ↔ v ∈ xs
  := by
  induction xs with
  | nil => simp
  | cons x rest ih =>
    rw [List.map_cons, List.nodup_cons] at h
    rw [List.find?_cons, List.mem_cons]
    by_cases hx : key x = key v
    · have hrest : v ∉ rest := by
        intro hv
        exact h.1 (hx ▸ List.mem_map_of_mem hv)
      simp [hx, hrest, eq_comm]
    · have hne : v ≠ x := by
        rintro rfl
        exact hx rfl
      simp only [hx, decide_false, hne, false_or]
      exact ih h.2

/-- In the list of values each key has the last value of that key. -/
theorem find?_ofList_values (key : α → String) (xs : List α) (k : String) :
  find? k (ofList (xs.map fun x => (key x, x))) = xs.reverse.find? fun x => key x = k
  := by
  rw [find?_ofList, ← List.map_reverse, List.find?_map, Option.map_map]
  exact Option.map_id_apply

theorem mem_of_find?_ofList {key : α → String} {xs : List α} {k : String} {v : α}
    (h : find? k (ofList (xs.map fun x => (key x, x))) = some v) :
  v ∈ xs ∧ key v = k
  := by
  rw [find?_ofList_values] at h
  exact ⟨List.mem_reverse.mp (List.mem_of_find?_eq_some h), by simpa using List.find?_some h⟩

/-- In the list of values with distinct keys each value is found under its key. -/
theorem find?_ofList_iff {key : α → String} {xs : List α} (h : (xs.map key).Nodup) {k : String}
    {v : α} :
  find? k (ofList (xs.map fun x => (key x, x))) = some v ↔ v ∈ xs ∧ key v = k
  := by
  have hkeys : (keys (xs.map fun x => (key x, x))).Nodup := by
    simpa [keys, List.map_map, Function.comp_def] using h
  constructor
  · apply mem_of_find?_ofList
  · rintro ⟨hv, rfl⟩
    rw [ofList_of_nodup hkeys, find?_eq_some_iff hkeys]
    exact List.mem_map_of_mem (f := fun x => (key x, x)) hv

/-! ### Taking out -/

/-- Up to order, taking a key out leaves the other entries. -/
theorem swapErase_perm (k : String) (entries : List (String × α)) :
  (swapErase k entries).Perm (entries.eraseP fun e => k = e.1)
  := by
  induction entries with
  | nil => exact .nil
  | cons e rest ih =>
    obtain ⟨l, w⟩ := e
    by_cases h : k = l
    · subst h
      rw [swapErase, if_pos rfl, List.eraseP_cons_of_pos (by simp)]
      cases hlast : rest.getLast? with
      | none =>
        rw [List.getLast?_eq_none_iff] at hlast
        subst hlast
        exact .nil
      | some last =>
        obtain ⟨front, rfl⟩ := List.getLast?_eq_some_iff.mp hlast
        rw [List.dropLast_concat]
        exact (List.perm_append_singleton last front).symm
    · rw [swapErase, if_neg h, List.eraseP_cons_of_neg (by simpa using h)]
      exact ih.cons _

theorem mem_of_mem_swapErase {e : String × α} {k : String} {entries : List (String × α)}
    (h : e ∈ swapErase k entries) :
  e ∈ entries
  := List.mem_of_mem_eraseP ((swapErase_perm k entries).mem_iff.mp h)

theorem nodup_keys_swapErase {k : String} {entries : List (String × α)}
    (h : (keys entries).Nodup) :
  (keys (swapErase k entries)).Nodup
  := by
  have hperm : (keys (swapErase k entries)).Perm (keys (entries.eraseP fun e => k = e.1)) :=
    (swapErase_perm k entries).map Prod.fst
  rw [hperm.nodup_iff]
  exact h.sublist (List.eraseP_sublist.map Prod.fst)

theorem swapErase_of_notMem {k : String} {entries : List (String × α)} (h : k ∉ keys entries) :
  swapErase k entries = entries
  := by
  induction entries with
  | nil => rfl
  | cons e rest ih =>
    obtain ⟨l, w⟩ := e
    simp only [keys, List.map_cons, List.mem_cons, not_or] at h
    rw [swapErase, if_neg h.1, ih h.2]

/-- A key that is taken out is not found any more; where keys are distinct, all others still
have their values. -/
theorem find?_swapErase (k l : String) {entries : List (String × α)} (h : (keys entries).Nodup) :
  find? k (swapErase l entries) = if k = l then none else find? k entries
  := by
  rw [find?_of_perm (swapErase_perm l entries) (nodup_keys_swapErase h)]
  induction entries with
  | nil => simp [find?]
  | cons e rest ih =>
    obtain ⟨m, w⟩ := e
    have hm : m ∉ keys rest := (List.nodup_cons.mp h).1
    by_cases hl : l = m
    · subst hl
      rw [List.eraseP_cons_of_pos (by simp), find?]
      split
      · next hk => exact find?_eq_none_iff.mpr (hk ▸ hm)
      · rfl
    · rw [List.eraseP_cons_of_neg (by simpa using hl), find?, find?, ih (List.nodup_cons.mp h).2]
      by_cases hk : k = m
      · have hkl : k ≠ l := fun hkl => hl (hkl.symm.trans hk)
        rw [if_pos hk, if_pos hk, if_neg hkl]
      · rw [if_neg hk, if_neg hk]

/-- The last key moves into the place of a key that is taken out. -/
theorem keys_swapErase {k : String} {entries : List (String × α)} {l r : List String}
    (h : keys entries = l ++ k :: r) (hk : k ∉ l) :
  keys (swapErase k entries) = l ++ (r.getLast?.toList ++ r.dropLast)
  := by
  induction entries generalizing l with
  | nil => simp [keys] at h
  | cons e rest ih =>
    obtain ⟨m, w⟩ := e
    cases l with
    | nil =>
      obtain ⟨rfl, hrest⟩ := List.cons.inj h
      have hlast : r.getLast? = rest.getLast?.map Prod.fst := by
        rw [← hrest, List.getLast?_map]
      have hfront : r.dropLast = rest.dropLast.map Prod.fst := by
        rw [← hrest, List.map_dropLast]
      rw [swapErase, if_pos rfl, hlast, hfront]
      cases hrest : rest.getLast? with
      | none =>
        rw [List.getLast?_eq_none_iff] at hrest
        rw [hrest]
        rfl
      | some last => rfl
    | cons m' l =>
      obtain ⟨rfl, hrest⟩ := List.cons.inj h
      rw [List.mem_cons, not_or] at hk
      rw [swapErase, if_neg hk.1, keys, List.map_cons, List.cons_append]
      exact congrArg (m :: ·) (ih hrest hk.2)

end TaskDesk.Keyed
