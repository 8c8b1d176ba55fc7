import TaskDesk.Task.Record

/-!
# Calls on a record

A `Call` is a change of one field, each at a time of its own, or the clearing of the properties.
The changes of an update are calls at one time, `run_eq_after`.  No call touches the time of
creation, and only the change of the id touches the id, so calls without it keep the id.
-/

namespace TaskDesk.Record

/-- Whether a change leaves the id of a record alone. -/
def Edit.keepsId : Edit → Bool
  | .id _ => false
  | _ => true

/-- What is called on a record: a change of one field at a time, or the clearing of the
properties. -/
inductive Call where
  | edit (now : Timestamp) (e : Edit)
  | clear

/-- Whether a call leaves the id of a record alone. -/
def Call.keepsId : Call → Bool
  | .edit _ e => e.keepsId
  | .clear => true

/-- The record after a call. -/
def call (r : Record) : Call → Record
  | .edit now e => r.apply now e
  | .clear => { r with properties := Properties.empty }

/-- The record after calls, the first one first. -/
def after (r : Record) (calls : List Call) : Record :=
  calls.foldl call r

/-- The changes of an update are calls at one time. -/
theorem run_eq_after (now : Timestamp) (r : Record) (edits : List Edit) :
  r.run now edits = r.after (edits.map (.edit now))
  := by
  rw [run, after, List.foldl_map]
  rfl

theorem id_apply (now : Timestamp) (r : Record) {e : Edit} (h : e.keepsId = true) :
  (r.apply now e).id = r.id
  := by
  cases e with
  | id id => simp [Edit.keepsId] at h
  | taskType taskType =>
    simp only [apply, setTaskType]
    split <;> rfl
  | _ => rfl

theorem id_call (r : Record) {c : Call} (h : c.keepsId = true) :
  (r.call c).id = r.id
  := by
  cases c with
  | clear => rfl
  | edit now e => exact id_apply now r h

theorem id_after (r : Record) {calls : List Call} (h : ∀ c ∈ calls, c.keepsId = true) :
  (r.after calls).id = r.id
  := by
  apply List.foldlRecOn (motive := fun s : Record => s.id = r.id) calls call rfl
  intro s hs c hc
  rw [id_call s (h c hc), hs]

theorem id_run (now : Timestamp) (r : Record) {edits : List Edit}
    (h : ∀ e ∈ edits, e.keepsId = true) :
  (r.run now edits).id = r.id
  := by
  rw [run_eq_after]
  apply id_after
  rwa [List.forall_mem_map]

theorem createdAt_call (r : Record) (c : Call) :
  (r.call c).createdAt = r.createdAt
  := by
  cases c with
  | clear => rfl
  | edit now e =>
    cases e with
    | taskType taskType =>
      simp only [call, apply, setTaskType]
      split <;> rfl
    | _ => rfl

theorem createdAt_after (r : Record) (calls : List Call) :
  (r.after calls).createdAt = r.createdAt
  := by
  apply List.foldlRecOn (motive := fun s : Record => s.createdAt = r.createdAt) calls call rfl
  intro s hs c _
  rw [createdAt_call, hs]

end TaskDesk.Record
