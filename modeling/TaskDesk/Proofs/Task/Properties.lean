import TaskDesk.Task.Properties
import Mathlib.Data.List.Infix

/-!
# The order of properties

Starting from none, properties are changed by operations.  Under a key they hold the value that
was put there last since the key was made absent last, and each present key is there once.  The
keys are in the order of their arrivals, at which each was put in first since it was absent last,
as long as no key is taken out that has more than one key behind it; taking out such a key moves
the last key in front of others that arrived before it.
-/

namespace TaskDesk.Properties

/-- What is done to properties. -/
inductive Operation where
  | insert (key : String) (value : Json)
  | setText (key text : String)
  | erase (key : String)
  | clear

/-- The properties after an operation. -/
def apply (p : Properties) : Operation → Properties
  | .insert key value => p.insert key value
  | .setText key text => p.insert key (.str text)
  | .erase key => p.erase key
  | .clear => empty

/-- The properties after operations, from none on. -/
def after (ops : List Operation) : Properties :=
  ops.foldl apply empty

/-! ### What operations say of a key -/

namespace Operation

/-- The value that an operation puts under a key. -/
def put? (k : String) : Operation → Option Json
  | .insert key value => if k = key then some value else none
  | .setText key text => if k = key then some (.str text) else none
  | .erase _ => none
  | .clear => none

/-- Whether an operation makes a key absent. -/
def drops (k : String) : Operation → Bool
  | .insert _ _ => false
  | .setText _ _ => false
  | .erase key => k = key
  | .clear => true

theorem drops_of_put? {k : String} {op : Operation} (h : (op.put? k).isSome = true) :
  op.drops k = false
  := by
  cases op with
  | insert key value => rfl
  | setText key text => rfl
  | erase key => cases h
  | clear => cases h

end Operation

/-- The operations since a key was made absent last. -/
def lately (k : String) (ops : List Operation) : List Operation :=
  (ops.reverse.takeWhile fun op => !op.drops k).reverse

/-- The value that was put under a key last since the key was made absent last. -/
def lastValue? (k : String) (ops : List Operation) : Option Json :=
  (lately k ops).reverse.findSome? (Operation.put? k)

/-- The number of the operation that put a key in first since the key was made absent last. -/
def arrival (k : String) (ops : List Operation) : Nat :=
  ops.length - (lately k ops).length + (lately k ops).findIdx fun op => (op.put? k).isSome

/-- Whether the keys after operations are in the order of their arrivals. -/
def InOrder (ops : List Operation) : Prop :=
  (after ops).keys.Pairwise fun k l => arrival k ops < arrival l ops

theorem after_concat (ops : List Operation) (op : Operation) :
  after (ops ++ [op]) = (after ops).apply op
  := List.foldl_concat ..

/-- Any properties with distinct keys come about by putting their entries in. -/
theorem after_inserts {p : Properties} (h : p.keys.Nodup) :
  after (p.entries.map fun e => .insert e.1 e.2) = p
  := by
  have hentries : ∀ (entries : List (String × Json)) (q : Properties),
      (entries.map fun e => Operation.insert e.1 e.2).foldl apply q
        = ⟨entries.foldl (fun m e => Keyed.put e.1 e.2 m) q.entries⟩ := by
    intro entries
    induction entries with
    | nil => exact fun q => rfl
    | cons e rest ih => exact fun q => ih (q.insert e.1 e.2)
  exact (hentries p.entries empty).trans (congrArg Properties.mk (Keyed.ofList_of_nodup h))

theorem lately_concat (k : String) (ops : List Operation) (op : Operation) :
  lately k (ops ++ [op]) = if op.drops k = true then [] else lately k ops ++ [op]
  := by
  rw [lately, List.reverse_concat, List.takeWhile_cons]
  cases hdrops : op.drops k <;> simp [lately]

theorem length_lately_le (k : String) (ops : List Operation) :
  (lately k ops).length ≤ ops.length
  := by
  rw [lately, List.length_reverse]
  exact (List.takeWhile_sublist _).length_le.trans_eq List.length_reverse

theorem lastValue?_concat (k : String) (ops : List Operation) (op : Operation) :
  lastValue? k (ops ++ [op])
    = if op.drops k = true then none else (op.put? k).or (lastValue? k ops)
  := by
  rw [lastValue?, lately_concat]
  split
  · rfl
  · rw [List.reverse_concat, List.findSome?_cons]
    cases op.put? k <;> rfl

/-- A key is present if it was put in since it was made absent last. -/
theorem isSome_lastValue?_iff {k : String} {ops : List Operation} :
  (lastValue? k ops).isSome = true ↔ ∃ op ∈ lately k ops, (op.put? k).isSome = true
  := by
  simp [lastValue?, List.findSome?_isSome_iff]

/-! ### Arrivals -/

/-- A key that stays present keeps its arrival. -/
theorem arrival_concat_of_isSome {k : String} {ops : List Operation} {op : Operation}
    (h : (lastValue? k ops).isSome = true) (hop : op.drops k = false) :
  arrival k (ops ++ [op]) = arrival k ops
  := by
  have hle := length_lately_le k ops
  have hfind := List.findIdx_lt_length_of_exists (isSome_lastValue?_iff.mp h)
  rw [arrival, arrival, lately_concat, if_neg (by simp [hop]), List.findIdx_append, if_pos hfind,
    List.length_append, List.length_append, List.length_singleton]
  omega

/-- A key that comes in arrives with the operation that puts it in. -/
theorem arrival_concat_of_none {k : String} {ops : List Operation} {op : Operation}
    (h : lastValue? k ops = none) (hop : (op.put? k).isSome = true) :
  arrival k (ops ++ [op]) = ops.length
  := by
  have hle := length_lately_le k ops
  have habsent : ¬∃ op ∈ lately k ops, (op.put? k).isSome = true := by
    rw [← isSome_lastValue?_iff, h]
    simp
  have hfind : ¬(lately k ops).findIdx (fun op => (op.put? k).isSome) < (lately k ops).length := by
    rwa [List.findIdx_lt_length]
  rw [arrival, lately_concat, if_neg (by simp [Operation.drops_of_put? hop]), List.findIdx_append,
    if_neg hfind, List.findIdx_singleton, if_pos hop, List.length_append, List.length_append,
    List.length_singleton]
  omega

theorem arrival_lt {k : String} {ops : List Operation} (h : (lastValue? k ops).isSome = true) :
  arrival k ops < ops.length
  := by
  have hle := length_lately_le k ops
  have hfind := List.findIdx_lt_length_of_exists (isSome_lastValue?_iff.mp h)
  rw [arrival]
  omega

/-! ### What operations leave -/

theorem nodup_keys_apply {p : Properties} (h : p.keys.Nodup) (op : Operation) :
  (p.apply op).keys.Nodup
  := by
  cases op with
  | insert key value => exact Keyed.nodup_keys_put h
  | setText key text => exact Keyed.nodup_keys_put h
  | erase key => exact Keyed.nodup_keys_swapErase h
  | clear => exact List.nodup_nil

theorem nodup_keys_after (ops : List Operation) :
  (after ops).keys.Nodup
  := by
  induction ops using List.reverseRecOn with
  | nil => exact List.nodup_nil
  | append_singleton done op ih =>
    rw [after_concat]
    exact nodup_keys_apply ih op

theorem get?_apply {p : Properties} (h : p.keys.Nodup) (k : String) (op : Operation) :
  (p.apply op).get? k = if op.drops k = true then none else (op.put? k).or (p.get? k)
  := by
  cases op with
  | insert key value =>
    rw [apply, get?_insert, Operation.put?, Operation.drops]
    split <;> rfl
  | setText key text =>
    rw [apply, get?_insert, Operation.put?, Operation.drops]
    split <;> rfl
  | erase key =>
    rw [apply, get?, erase, Keyed.find?_swapErase k key h]
    simp [Operation.drops, Operation.put?, get?]
  | clear => rfl

/-- Under a key there is what was put there last since the key was made absent last. -/
theorem get?_after (k : String) (ops : List Operation) :
  (after ops).get? k = lastValue? k ops
  := by
  induction ops using List.reverseRecOn with
  | nil => rfl
  | append_singleton done op ih =>
    rw [after_concat, get?_apply (nodup_keys_after done), ih, lastValue?_concat]

theorem mem_keys_after_iff {k : String} {ops : List Operation} :
  k ∈ (after ops).keys ↔ (lastValue? k ops).isSome = true
  := by
  rw [← get?_after, keys, Keyed.mem_keys_iff, Option.isSome_iff_exists, get?]

/-! ### The order of keys -/

/-- The keys that stay present are among each other as they were. -/
theorem pairwise_arrival_concat {ops : List Operation} {op : Operation} {ks : List String}
    (h : ∀ k ∈ ks, k ∈ (after ops).keys ∧ op.drops k = false) :
  ks.Pairwise (fun k l => arrival k (ops ++ [op]) < arrival l (ops ++ [op]))
    ↔ ks.Pairwise fun k l => arrival k ops < arrival l ops
  := by
  have harrival : ∀ k ∈ ks, arrival k (ops ++ [op]) = arrival k ops := by
    intro k hk
    exact arrival_concat_of_isSome (mem_keys_after_iff.mp (h k hk).1) (h k hk).2
  apply List.Pairwise.iff_of_mem
  intro k l hk hl
  rw [harrival k hk, harrival l hl]

/-- Putting a value in keeps the order. -/
theorem InOrder.put {ops : List Operation} (h : InOrder ops) {op : Operation} {key : String}
    {value : Json} (happly : ∀ p : Properties, p.apply op = p.insert key value)
    (hput : (op.put? key).isSome = true) (hdrops : ∀ k, op.drops k = false) :
  InOrder (ops ++ [op])
  := by
  have hstay : (after ops).keys.Pairwise fun k l =>
      arrival k (ops ++ [op]) < arrival l (ops ++ [op]) :=
    (pairwise_arrival_concat fun k hk => ⟨hk, hdrops k⟩).mpr h
  rw [InOrder, after_concat, happly, keys, insert, Keyed.keys_put]
  split
  · exact hstay
  · next habsent =>
    have hnone : lastValue? key ops = none := by
      rwa [← get?_after, get?, Keyed.find?_eq_none_iff]
    rw [List.pairwise_append]
    refine ⟨hstay, List.pairwise_singleton _ _, ?_⟩
    intro k hk l hl
    obtain rfl := List.mem_singleton.mp hl
    have hpresent := mem_keys_after_iff.mp hk
    rw [arrival_concat_of_none hnone hput, arrival_concat_of_isSome hpresent (hdrops k)]
    exact arrival_lt hpresent

/-- Taking a key out moves the last key into its place. -/
theorem keys_after_erase {ops : List Operation} {key : String} {l r : List String}
    (h : (after ops).keys = l ++ key :: r) :
  (after (ops ++ [.erase key])).keys = l ++ (r.getLast?.toList ++ r.dropLast)
  := by
  have hnodup := nodup_keys_after ops
  rw [h, List.perm_middle.nodup_iff, List.nodup_cons] at hnodup
  rw [after_concat]
  exact Keyed.keys_swapErase h fun hl => hnodup.1 (List.mem_append_left r hl)

example :
  (after [.setText "a" "1", .setText "b" "2", .setText "c" "3", .erase "a"]).keys = ["c", "b"]
  := by decide

/-- Taking a key out leaves the arrivals of the others. -/
theorem inOrder_concat_erase_iff {ops : List Operation} {key : String} :
  InOrder (ops ++ [.erase key])
    ↔ (after (ops ++ [.erase key])).keys.Pairwise fun k l => arrival k ops < arrival l ops
  := by
  apply pairwise_arrival_concat
  intro k hk
  rw [mem_keys_after_iff, lastValue?_concat] at hk
  split at hk
  · cases hk
  · next hdrops => exact ⟨mem_keys_after_iff.mpr hk, Bool.eq_false_iff.mpr hdrops⟩

/-- Taking a key out keeps the order exactly if at most one key is behind it. -/
theorem InOrder.erase_iff {ops : List Operation} (h : InOrder ops) (key : String) :
  InOrder (ops ++ [.erase key]) ↔ ∀ l r, (after ops).keys = l ++ key :: r → r.length ≤ 1
  := by
  rw [inOrder_concat_erase_iff]
  constructor
  · intro hin l r hlr
    by_contra hlong
    obtain ⟨first, rest, rfl⟩ : ∃ first rest, r = first :: rest :=
      List.exists_cons_of_ne_nil (by rintro rfl; simp at hlong)
    obtain ⟨m, last, rfl⟩ : ∃ m last, rest = m ++ [last] :=
      (List.eq_nil_or_concat' rest).resolve_left (by rintro rfl; simp at hlong)
    -- The last of several keys comes to stand in front of the first of them.
    rw [keys_after_erase hlr, ← List.cons_append, List.getLast?_concat, List.dropLast_concat] at hin
    rw [InOrder, hlr] at h
    have hbehind := (List.pairwise_append.mp hin).2.1
    have hfront := List.pairwise_cons.mp (List.pairwise_append.mp h).2.1
    have hlast : arrival last ops < arrival first ops :=
      List.rel_of_pairwise_cons hbehind List.mem_cons_self
    have hfirst : arrival first ops < arrival last ops :=
      List.rel_of_pairwise_cons hfront.2 (by simp)
    omega
  · intro hall
    apply List.Pairwise.sublist _ h
    by_cases hkey : key ∈ (after ops).keys
    · obtain ⟨l, r, hlr⟩ := List.append_of_mem hkey
      have hr : r.getLast?.toList ++ r.dropLast = r := by
        match r, hall l r hlr with
        | [], _ => rfl
        | [k], _ => rfl
      rw [keys_after_erase hlr, hr, hlr]
      exact (List.sublist_cons_self key r).append_left l
    · rw [after_concat, apply, keys, erase, Keyed.swapErase_of_notMem hkey]
      rfl

/-- Only taking out a key with several keys behind it may break the order. -/
theorem InOrder.concat_iff {ops : List Operation} (h : InOrder ops) (op : Operation) :
  InOrder (ops ++ [op])
    ↔ ∀ key, op = .erase key → ∀ l r, (after ops).keys = l ++ key :: r → r.length ≤ 1
  := by
  cases op with
  | insert key value =>
    refine iff_of_true (h.put (fun _ => rfl) (by simp [Operation.put?]) fun _ => rfl) ?_
    rintro _ ⟨⟩
  | setText key text =>
    refine iff_of_true (h.put (fun _ => rfl) (by simp [Operation.put?]) fun _ => rfl) ?_
    rintro _ ⟨⟩
  | erase key =>
    rw [h.erase_iff]
    simp
  | clear =>
    refine iff_of_true ?_ ?_
    · rw [InOrder, after_concat]
      exact .nil
    · rintro _ ⟨⟩

/-- The keys have been in order all along exactly if no key was ever taken out that had more than
one key behind it. -/
theorem inOrder_prefixes_iff (ops : List Operation) :
  (∀ done, done <+: ops → InOrder done)
    ↔ ∀ done key, done ++ [.erase key] <+: ops →
        ∀ l r, (after done).keys = l ++ key :: r → r.length ≤ 1
  := by
  constructor
  · intro hall done key h
    have hdone := hall done ((List.prefix_append done _).trans h)
    exact (hdone.concat_iff (.erase key)).mp (hall _ h) key rfl
  · intro hfew done
    induction done using List.reverseRecOn with
    | nil => exact fun _ => .nil
    | append_singleton done op ih =>
      intro h
      have hdone := ih ((List.prefix_append done _).trans h)
      rw [hdone.concat_iff op]
      rintro key rfl
      exact hfew done key h

/-- After any operations the keys are distinct, they are the keys that were put in since they were
made absent last, and each has the value that was put there last.  They have been in the order of
their arrivals all along exactly if no key was ever taken out that had more than one key behind
it. -/
theorem keys_and_values_after (ops : List Operation) :
  (after ops).keys.Nodup
    ∧ (∀ k, k ∈ (after ops).keys ↔ (lastValue? k ops).isSome = true)
    ∧ (∀ k, (after ops).get? k = lastValue? k ops)
    ∧ ((∀ done, done <+: ops → InOrder done)
        ↔ ∀ done key, done ++ [.erase key] <+: ops →
            ∀ l r, (after done).keys = l ++ key :: r → r.length ≤ 1)
  :=
  ⟨nodup_keys_after ops, fun _ => mem_keys_after_iff, fun k => get?_after k ops,
    inOrder_prefixes_iff ops⟩

end TaskDesk.Properties
