import TaskDesk.Text.Order
import Mathlib.Tactic.Common

/-!
# Sorted lists and sets of names

Sorting only changes the order of a list.  The operations of a set of names keep the list strictly
increasing, and a strictly increasing list is the set of its names.
-/

namespace TaskDesk.Text

theorem sortOn_perm {α : Type} (name : α → String) (xs : List α) :
  (sortOn name xs).Perm xs
  := List.mergeSort_perm xs _

/-- Whether a list of names is strictly increasing. -/
def Increasing (names : List String) : Prop :=
  names.Pairwise (· < ·)

theorem increasing_insertName {n : String} {names : List String} (h : Increasing names) :
  Increasing (insertName n names)
  := by
  induction names with
  | nil => simp [Increasing, insertName]
  | cons m ms ih =>
    obtain ⟨hm, hms⟩ := List.pairwise_cons.mp h
    simp only [insertName]
    split
    · exact h
    · next hne =>
      split
      · next hlt =>
        refine List.pairwise_cons.mpr ⟨?_, h⟩
        intro k hk
        obtain rfl | hk := List.mem_cons.mp hk
        · exact hlt
        · exact String.lt_trans hlt (hm k hk)
      · next hlt =>
        have hmn : m < n := Std.lt_of_le_of_ne (String.not_lt.mp hlt) (Ne.symm hne)
        refine List.pairwise_cons.mpr ⟨?_, ih hms⟩
        intro k hk
        obtain rfl | hk := mem_insertName.mp hk
        · exact hmn
        · exact hm k hk

theorem increasing_eraseName {names : List String} (n : String) (h : Increasing names) :
  Increasing (eraseName n names)
  := List.Pairwise.filter _ h

theorem mem_nameSet {n : String} {names : List String} :
  n ∈ nameSet names ↔ n ∈ names
  := by
  have hfold : ∀ set : List String,
      n ∈ names.foldl (fun set m => insertName m set) set ↔ n ∈ set ∨ n ∈ names := by
    induction names with
    | nil => simp
    | cons m rest ih =>
      intro set
      rw [List.foldl_cons, ih, mem_insertName, List.mem_cons]
      tauto
  rw [nameSet, hfold []]
  simp

theorem increasing_nameSet (names : List String) :
  Increasing (nameSet names)
  := by
  have hfold : ∀ set, Increasing set →
      Increasing (names.foldl (fun set n => insertName n set) set) := by
    induction names with
    | nil => exact fun _ h => h
    | cons n rest ih => exact fun set h => ih _ (increasing_insertName h)
  exact hfold [] List.Pairwise.nil

/-- A name beyond all others goes to the end. -/
theorem insertName_of_lt {n : String} {names : List String} (h : ∀ m ∈ names, m < n) :
  insertName n names = names ++ [n]
  := by
  induction names with
  | nil => rfl
  | cons m ms ih =>
    have hm : m < n := h m List.mem_cons_self
    have hne : n ≠ m := (Std.ne_of_lt hm).symm
    rw [insertName, if_neg hne, if_neg (Std.not_gt_of_lt hm),
      ih fun k hk => h k (List.mem_cons_of_mem m hk), List.cons_append]

/-- A strictly increasing list is the set of its names. -/
theorem nameSet_of_increasing {names : List String} (h : Increasing names) :
  nameSet names = names
  := by
  have hfold : ∀ done rest, Increasing (done ++ rest) →
      rest.foldl (fun set n => insertName n set) done = done ++ rest := by
    intro done rest
    induction rest generalizing done with
    | nil => simp
    | cons n rest ih =>
      intro hall
      have hlast : ∀ m ∈ done, m < n :=
        fun m hm => (List.pairwise_append.mp hall).2.2 m hm n List.mem_cons_self
      rw [List.foldl_cons, insertName_of_lt hlast, ih _ (by simpa using hall)]
      simp
  exact hfold [] names h

end TaskDesk.Text
