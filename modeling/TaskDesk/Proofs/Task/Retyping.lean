import TaskDesk.Proofs.Task.Edits
import Mathlib.Data.List.Infix

/-!
# What calls leave of the properties of a record

A call that gives a record another type takes its properties away, and of the other calls only
those on the properties touch them.  So after any calls the properties are what the calls on the
properties since the last change of the type make of none, or of the properties that the record
had if no call changed its type: `properties_since_retyping`.
-/

namespace TaskDesk.Record

namespace Call

/-- The type that a call sets. -/
def type? : Call → Option String
  | .edit _ (.taskType taskType) => some taskType
  | _ => none

/-- Whether a call is made on the properties. -/
def isOnProperties : Call → Bool
  | .edit _ (.properties _) => true
  | .edit _ (.property _ _) => true
  | .edit _ (.removeProperty _) => true
  | .clear => true
  | _ => false

/-- Whether a call gives another type to a record of the given type. -/
def retypes (taskType : String) (c : Call) : Bool :=
  c.type?.any (· ≠ taskType)

/-- The properties after a call that does not change the type. -/
def enter (p : Properties) : Call → Properties
  | .edit _ (.properties q) => q
  | .edit _ (.property key value) => p.insert key value
  | .edit _ (.removeProperty key) => p.erase key
  | .clear => Properties.empty
  | _ => p

theorem enter_of_not_isOnProperties {c : Call} (h : c.isOnProperties = false) (p : Properties) :
  c.enter p = p
  := by
  cases c with
  | clear => cases h
  | edit now e =>
    cases e with
    | properties q => cases h
    | property key value => cases h
    | removeProperty key => cases h
    | _ => rfl

theorem retypes_of_isOnProperties {c : Call} (h : c.isOnProperties = true) (taskType : String) :
  c.retypes taskType = false
  := by
  cases c with
  | clear => rfl
  | edit now e =>
    cases e with
    | taskType t => cases h
    | _ => rfl

theorem getD_type?_of_not_retypes {taskType : String} {c : Call}
    (h : c.retypes taskType = false) :
  c.type?.getD taskType = taskType
  := by
  cases ht : c.type? with
  | none => rfl
  | some t => simpa [retypes, ht] using h

end Call

/-- The type that calls set last, or the given one if they set none. -/
def lastType (taskType : String) (calls : List Call) : String :=
  (calls.filterMap Call.type?).getLastD taskType

/-- No call gives another type to a record that has the given type at first. -/
def KeepsType (taskType : String) (calls : List Call) : Prop :=
  ∀ before c since, calls = before ++ c :: since →
    c.retypes (lastType taskType before) = false

/-- The calls `since` are those after the last one that gives another type to a record that has the
given type at first. -/
def SinceRetyping (taskType : String) (calls since : List Call) : Prop :=
  ∃ before c, calls = before ++ c :: since
    ∧ c.retypes (lastType taskType before) = true
    ∧ KeepsType (lastType taskType (before ++ [c])) since

/-! ### One call -/

theorem taskType_call (r : Record) (c : Call) :
  (r.call c).taskType = c.type?.getD r.taskType
  := by
  cases c with
  | clear => rfl
  | edit now e =>
    cases e with
    | taskType t =>
      rw [call, apply, setTaskType]
      split
      · next hsame => exact hsame.symm
      · rfl
    | _ => rfl

theorem properties_call (r : Record) (c : Call) :
  (r.call c).properties
    = if c.retypes r.taskType = true then Properties.empty else c.enter r.properties
  := by
  cases c with
  | clear => rfl
  | edit now e =>
    cases e with
    | taskType t =>
      rw [call, apply, setTaskType]
      by_cases hsame : t = r.taskType <;> simp [hsame, Call.retypes, Call.type?, Call.enter]
    | _ => rfl

/-! ### Types -/

theorem lastType_concat (taskType : String) (calls : List Call) (c : Call) :
  lastType taskType (calls ++ [c]) = c.type?.getD (lastType taskType calls)
  := by
  rw [lastType, List.filterMap_append, lastType]
  cases h : c.type? with
  | none => simp [h]
  | some t => simp [h]

theorem lastType_append (taskType : String) (calls calls' : List Call) :
  lastType taskType (calls ++ calls') = lastType (lastType taskType calls) calls'
  := by
  induction calls' using List.reverseRecOn with
  | nil => rw [List.append_nil]; rfl
  | append_singleton done c ih => rw [← List.append_assoc, lastType_concat, ih, lastType_concat]

theorem keepsType_nil (taskType : String) :
  KeepsType taskType []
  := by
  intro before c since h
  simp at h

theorem keepsType_concat_iff {taskType : String} {calls : List Call} {c : Call} :
  KeepsType taskType (calls ++ [c])
    ↔ KeepsType taskType calls ∧ c.retypes (lastType taskType calls) = false
  := by
  constructor
  · intro h
    constructor
    · rintro before d since rfl
      exact h before d (since ++ [c]) (by simp)
    · exact h calls c [] rfl
  · rintro ⟨hcalls, hc⟩ before d since h
    -- The call in question is the new one, or one of those before it.
    obtain rfl | ⟨since, e, rfl⟩ := List.eq_nil_or_concat' since
    · obtain ⟨rfl, ⟨⟩⟩ := List.append_inj' h rfl
      exact hc
    · rw [← List.cons_append, ← List.append_assoc] at h
      exact hcalls before d since (List.append_inj' h rfl).1

theorem lastType_of_keepsType {taskType : String} {calls : List Call}
    (h : KeepsType taskType calls) :
  lastType taskType calls = taskType
  := by
  induction calls using List.reverseRecOn with
  | nil => rfl
  | append_singleton done c ih =>
    obtain ⟨hdone, hc⟩ := keepsType_concat_iff.mp h
    rw [ih hdone] at hc
    rw [lastType_concat, ih hdone, Call.getD_type?_of_not_retypes hc]

/-- The type stays exactly if no call sets another type than the one at first. -/
theorem keepsType_iff {taskType : String} {calls : List Call} :
  KeepsType taskType calls ↔ ∀ c ∈ calls, c.retypes taskType = false
  := by
  induction calls using List.reverseRecOn with
  | nil => exact iff_of_true (keepsType_nil taskType) (List.forall_mem_nil _)
  | append_singleton done c ih =>
    rw [keepsType_concat_iff, List.forall_mem_append, List.forall_mem_singleton, ← ih]
    apply and_congr_right
    intro hdone
    rw [lastType_of_keepsType hdone]

instance (taskType : String) (calls : List Call) : Decidable (KeepsType taskType calls) :=
  decidable_of_iff _ keepsType_iff.symm

/-- Either the type stays, or there is a last call that changes it. -/
theorem keepsType_or_sinceRetyping (taskType : String) (calls : List Call) :
  KeepsType taskType calls ∨ ∃ since, SinceRetyping taskType calls since
  := by
  induction calls using List.reverseRecOn with
  | nil => exact .inl (keepsType_nil taskType)
  | append_singleton done c ih =>
    cases hc : c.retypes (lastType taskType done) with
    | true => exact .inr ⟨[], done, c, rfl, hc, keepsType_nil _⟩
    | false =>
      obtain hdone | ⟨since, before, d, rfl, hd, hsince⟩ := ih
      · exact .inl (keepsType_concat_iff.mpr ⟨hdone, hc⟩)
      · rw [List.append_cons, lastType_append] at hc
        exact .inr ⟨since ++ [c], before, d, by simp, hd, keepsType_concat_iff.mpr ⟨hsince, hc⟩⟩

/-! ### Many calls -/

theorem after_concat (r : Record) (calls : List Call) (c : Call) :
  r.after (calls ++ [c]) = (r.after calls).call c
  := List.foldl_concat ..

theorem after_append (r : Record) (calls calls' : List Call) :
  r.after (calls ++ calls') = (r.after calls).after calls'
  := List.foldl_append

theorem taskType_after (r : Record) (calls : List Call) :
  (r.after calls).taskType = lastType r.taskType calls
  := by
  induction calls using List.reverseRecOn with
  | nil => rfl
  | append_singleton done c ih => rw [after_concat, taskType_call, ih, lastType_concat]

/-- As long as the type stays, each call does to the properties what it does to them alone. -/
theorem properties_after_of_keepsType {r : Record} {calls : List Call}
    (h : KeepsType r.taskType calls) :
  (r.after calls).properties = calls.foldl Call.enter r.properties
  := by
  induction calls using List.reverseRecOn with
  | nil => rfl
  | append_singleton done c ih =>
    obtain ⟨hdone, hc⟩ := keepsType_concat_iff.mp h
    rw [after_concat, properties_call, taskType_after, hc, ih hdone, List.foldl_concat]
    rfl

/-- Calls that are not on the properties can be left out. -/
theorem foldl_enter_filter (p : Properties) (calls : List Call) :
  (calls.filter Call.isOnProperties).foldl Call.enter p = calls.foldl Call.enter p
  := by
  rw [List.foldl_filter]
  congr 1
  funext q c
  split
  · rfl
  · next h => exact (Call.enter_of_not_isOnProperties (Bool.eq_false_iff.mpr h) q).symm

theorem properties_after_filter (r : Record) (calls : List Call) :
  (r.after (calls.filter Call.isOnProperties)).properties = calls.foldl Call.enter r.properties
  := by
  have hkeeps : KeepsType r.taskType (calls.filter Call.isOnProperties) := by
    rw [keepsType_iff]
    intro c hc
    exact Call.retypes_of_isOnProperties (List.of_mem_filter hc) r.taskType
  rw [properties_after_of_keepsType hkeeps, foldl_enter_filter]

/-- The last change of the type takes the properties away. -/
theorem properties_after_of_sinceRetyping {r : Record} {calls since : List Call}
    (h : SinceRetyping r.taskType calls since) :
  (r.after calls).properties = since.foldl Call.enter Properties.empty
  := by
  obtain ⟨before, c, rfl, hc, hsince⟩ := h
  rw [← taskType_after] at hsince
  have hnone : (r.after (before ++ [c])).properties = Properties.empty := by
    rw [after_concat, properties_call, taskType_after, if_pos hc]
  rw [List.append_cons, after_append, properties_after_of_keepsType hsince, hnone]

/-- After any calls the properties are what the calls on the properties alone make of those that
the record had, if no call changed its type, and what those since the last change of the type make
of none otherwise.  The type is the one that was set last, and the id and the time of creation are
as before. -/
theorem properties_since_retyping (r : Record) (calls : List Call) :
  (KeepsType r.taskType calls ∨ ∃ since, SinceRetyping r.taskType calls since)
    ∧ (KeepsType r.taskType calls →
        (r.after calls).properties = (r.after (calls.filter Call.isOnProperties)).properties)
    ∧ (∀ since, SinceRetyping r.taskType calls since →
        (r.after calls).properties
          = ({ r with properties := Properties.empty }.after
              (since.filter Call.isOnProperties)).properties)
    ∧ (r.after calls).taskType = lastType r.taskType calls
    ∧ ((∀ c ∈ calls, c.keepsId = true) → (r.after calls).id = r.id)
    ∧ (r.after calls).createdAt = r.createdAt
  := by
  refine ⟨keepsType_or_sinceRetyping r.taskType calls, ?kept, ?retyped, taskType_after r calls,
    id_after r, createdAt_after r calls⟩
  case kept =>
    intro hkeeps
    rw [properties_after_of_keepsType hkeeps, properties_after_filter]
  case retyped =>
    intro since hsince
    rw [properties_after_of_sinceRetyping hsince, properties_after_filter]

/-- A type is changed, changed back and set once more: what was entered before it came back is
gone, and what was entered since is there. -/
theorem properties_since_retyping_instance :
  let day : Timestamp := ⟨2024, 2, 29, 23, 59, 60, 1⟩
  let r : Record :=
    { Record.new day "Backup" "dump" with
      id := "t1", properties := Properties.empty.insert "format" (.str "custom") }
  let since : List Call := [
    .edit day (.property "level" (.str "5")), .edit day (.name "Nightly"),
    .edit day (.taskType "dump")]
  let calls : List Call := [
    .edit day (.taskType "restore"), .edit day (.property "jobs" (.str "4")),
    .edit day (.taskType "dump")] ++ since
  SinceRetyping r.taskType calls since ∧ (∀ c ∈ calls, c.keepsId = true)
    ∧ (r.after calls).properties = Properties.empty.insert "level" (.str "5")
    ∧ (r.after calls).taskType = "dump" ∧ (r.after calls).id = "t1"
    ∧ (r.after calls).createdAt = day
  := by
  intro day r since calls
  have hsince : SinceRetyping r.taskType calls since :=
    ⟨[_, _], _, rfl, by decide, by decide⟩
  have hkept : ∀ c ∈ calls, c.keepsId = true := by decide
  obtain ⟨-, -, hproperties, htype, hid, hcreated⟩ := properties_since_retyping r calls
  exact ⟨hsince, hkept, (hproperties since hsince).trans rfl, htype.trans rfl, hid hkept, hcreated⟩

end TaskDesk.Record
