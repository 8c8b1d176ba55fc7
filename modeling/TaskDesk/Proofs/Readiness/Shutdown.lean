import TaskDesk.Proofs.Readiness.Jobs

/-!
# Dispatchers that were shut down

In a dispatcher that was shut down nothing more is checked or handed on, and the jobs that had not
ended can only be cancelled: `Halted`.  They are cancelled at their next turn, so when its clock
goes on, every job ends, whatever else happens in the meantime: `play_of_isDown`.
-/

namespace TaskDesk.Dispatcher

variable {d : Dispatcher} {a : Action} {i : Nat} {job : Job}

/-- What became of a dispatcher after it was shut down: no check was made and no request handed
on, a job that had ended is as it was, and any other, old or new, can only have been cancelled. -/
structure Halted (before after : Dispatcher) : Prop where
  isDown : after.isDown = true
  queue : after.queue = before.queue
  checks : ∀ i, after.checks i = before.checks i
  ended : ∀ {i outcome}, before.outcome? i = some outcome → after.outcome? i = some outcome
  cancelled : ∀ {i outcome}, before.outcome? i = none → after.outcome? i = some outcome →
    outcome = .cancelled

theorem halted_shutDown (d : Dispatcher) :
  d.Halted (d.apply .shutDown)
  where
  isDown := rfl
  queue := rfl
  checks _ := rfl
  ended h := h
  cancelled h h' := by
    have hnone : d.outcome? _ = some _ := h'
    simp [h] at hnone

/-- A check after the dispatcher was shut down ends a job that waits, without being made. -/
theorem turn_of_isDown (hd : d.isDown = true) (horizon : Nat) (cancelled : Bool)
    (finding : Finding) (s : Poll.Status) :
  d.poll.turn horizon (cancelled || d.isDown) finding s
    = match s with
      | .waiting n => .ended .cancelled n false
      | .ended outcome n acted => .ended outcome n acted
  := by
  rw [hd, Bool.or_true]
  cases s <;> rfl

/-- After a shutdown an action leaves a job as it is, or cancels it if it waits. -/
theorem status_treated_of_isDown (hd : d.isDown = true) (a : Action) (i : Nat) (job : Job) :
  (d.treated a i job).status = job.status
    ∨ ∃ n, job.status = .waiting n ∧ (d.treated a i job).status = .ended .cancelled n false
  := by
  unfold treated
  split
  · split
    · rw [turn_of_isDown hd]
      cases hs : job.status with
      | waiting n => exact .inr ⟨n, rfl, rfl⟩
      | ended outcome n acted => exact .inl rfl
    · exact .inl rfl
  · split <;> exact .inl rfl
  · exact .inl rfl

theorem halted_apply (hd : d.isDown = true) (a : Action) :
  d.Halted (d.apply a)
  := by
  constructor
  · exact isDown_apply hd a
  · cases a with
    | check i finding =>
      rw [apply, check]
      split
      · rfl
      · next job hjob =>
        rw [turn_of_isDown hd]
        cases hs : job.status <;> simp [Poll.Status.acted]
    | _ => rfl
  · intro i
    cases hjob : d.jobs[i]? with
    | none =>
      rw [checks, getElem?_apply, hjob, checks, hjob]
      split
      · cases a <;> rfl
      · rfl
    | some job =>
      rw [checks, getElem?_apply_of_some hjob, checks, hjob]
      obtain hs | ⟨n, hs, hs'⟩ := status_treated_of_isDown hd a i job
      · simp [hs]
      · simp [hs, hs', Poll.Status.checks]
  · intro i outcome h
    exact outcome?_apply_of_some h a
  · intro i outcome h h'
    cases hjob : d.jobs[i]? with
    | none => simp [outcome?_apply_of_none hjob] at h'
    | some job =>
      rw [outcome?_eq hjob] at h
      rw [outcome?_eq (getElem?_apply_of_some hjob a)] at h'
      obtain hs | ⟨n, hs, hs'⟩ := status_treated_of_isDown hd a i job
      · simp [hs, h] at h'
      · rw [hs'] at h'
        exact (Option.some.inj h').symm

theorem Halted.trans {d d' d'' : Dispatcher} (h : d.Halted d') (h' : d'.Halted d'') :
  d.Halted d''
  where
  isDown := h'.isDown
  queue := h'.queue.trans h.queue
  checks i := (h'.checks i).trans (h.checks i)
  ended hi := h'.ended (h.ended hi)
  cancelled {i outcome} hi hi' := by
    cases hmid : d'.outcome? i with
    | none => exact h'.cancelled hmid hi'
    | some o =>
      obtain rfl := h.cancelled hi hmid
      rw [h'.ended hmid] at hi'
      exact (Option.some.inj hi').symm

theorem Halted.run {d d' : Dispatcher} (h : d.Halted d') (actions : List Action) :
  d.Halted (d'.run actions)
  := by
  induction actions generalizing d' with
  | nil => exact h
  | cons a rest ih => exact ih (h.trans (halted_apply h.isDown a))

/-- The next check after the dispatcher was shut down ends a job. -/
theorem outcome?_check_of_isDown (hd : d.isDown = true) (hi : i < d.jobs.length)
    (finding : Finding) :
  (d.check i finding).outcome? i ≠ none
  := by
  have hjob : d.jobs[i]? = some d.jobs[i] := List.getElem?_eq_getElem hi
  have hafter := getElem?_apply_of_some hjob (.check i finding)
  rw [apply] at hafter
  rw [outcome?_eq hafter, treated, if_pos rfl]
  simp only [turn_of_isDown hd]
  cases d.jobs[i].status <;> simp [Poll.Status.outcome?]

/-! ### The next check -/

/-- The earlier one of a check that is due and the next check of a job at a place. -/
def sooner (d : Dispatcher) (best : Option (Nat × Nat)) (e : Job × Nat) : Option (Nat × Nat) :=
  match d.nextTime? e.1, best with
  | none, best => best
  | some t, none => some (t, e.2)
  | some t, some (t', i) => if t < t' then some (t, e.2) else some (t', i)

theorem nextCheck?_eq (d : Dispatcher) :
  d.nextCheck? = d.jobs.zipIdx.foldl d.sooner none
  := rfl

theorem sooner_eq_none {best : Option (Nat × Nat)} {e : Job × Nat} (h : d.sooner best e = none) :
  best = none ∧ d.nextTime? e.1 = none
  := by
  unfold sooner at h
  split at h
  · next htime => exact ⟨h, htime⟩
  · cases h
  · split at h <;> cases h

theorem sooner_eq_some {best : Option (Nat × Nat)} {e : Job × Nat} {c : Nat × Nat}
    (h : d.sooner best e = some c) :
  best = some c ∨ (e.2 = c.2 ∧ d.nextTime? e.1 = some c.1)
  := by
  unfold sooner at h
  split at h
  · exact .inl h
  · next htime =>
    obtain rfl := Option.some.inj h
    exact .inr ⟨rfl, htime⟩
  · next htime =>
    split at h
    · obtain rfl := Option.some.inj h
      exact .inr ⟨rfl, htime⟩
    · exact .inl h

theorem foldl_sooner_eq_none {jobs : List (Job × Nat)} {best : Option (Nat × Nat)}
    (h : jobs.foldl d.sooner best = none) :
  best = none ∧ ∀ e ∈ jobs, d.nextTime? e.1 = none
  := by
  induction jobs generalizing best with
  | nil => exact ⟨h, by simp⟩
  | cons e rest ih =>
    obtain ⟨hfirst, hrest⟩ := ih h
    obtain ⟨hbest, he⟩ := sooner_eq_none hfirst
    exact ⟨hbest, List.forall_mem_cons.mpr ⟨he, hrest⟩⟩

theorem foldl_sooner_eq_some {jobs : List (Job × Nat)} {best : Option (Nat × Nat)} {c : Nat × Nat}
    (h : jobs.foldl d.sooner best = some c) :
  best = some c ∨ ∃ e ∈ jobs, e.2 = c.2 ∧ d.nextTime? e.1 = some c.1
  := by
  induction jobs generalizing best with
  | nil => exact .inl h
  | cons e rest ih =>
    obtain hfirst | ⟨e', he', hdue⟩ := ih h
    · obtain hbest | hdue := sooner_eq_some hfirst
      · exact .inl hbest
      · exact .inr ⟨e, List.mem_cons_self, hdue⟩
    · exact .inr ⟨e', List.mem_cons_of_mem e he', hdue⟩

/-- If no check is due, all jobs have ended. -/
theorem isIdle_of_nextCheck? (h : d.nextCheck? = none) :
  d.isIdle = true
  := by
  rw [nextCheck?_eq] at h
  obtain ⟨-, hnone⟩ := foldl_sooner_eq_none h
  rw [isIdle, List.all_eq_true]
  intro job hjob
  obtain ⟨i, hi⟩ := List.mem_iff_getElem?.mp hjob
  have htime := hnone (job, i) (List.mk_mem_zipIdx_iff_getElem?.mpr hi)
  cases hstatus : job.status with
  | waiting n => simp [nextTime?, hstatus] at htime
  | ended outcome n acted => rfl

/-- The job whose check is due waits for it. -/
theorem waiting_of_nextCheck? {t : Nat} (h : d.nextCheck? = some (t, i)) :
  ∃ job n, d.jobs[i]? = some job ∧ job.status = .waiting n
  := by
  rw [nextCheck?_eq] at h
  obtain h | ⟨⟨job, k⟩, hjob, rfl, htime⟩ := foldl_sooner_eq_some h
  · cases h
  · refine ⟨job, ?_⟩
    cases hstatus : job.status with
    | waiting n => exact ⟨n, List.mk_mem_zipIdx_iff_getElem?.mp hjob, rfl⟩
    | ended outcome n acted => simp [nextTime?, hstatus] at htime

/-! ### The clock -/

/-- How many jobs have not ended. -/
def unended (d : Dispatcher) : Nat :=
  d.jobs.countP fun job => !job.status.isEnded

/-- Where one entry is changed, the others are counted as before. -/
theorem countP_modify {α : Type} {p : α → Bool} {f : α → α} {l : List α} {x : α}
    (h : l[i]? = some x) :
  (l.modify i f).countP p + (if p x then 1 else 0) = l.countP p + (if p (f x) then 1 else 0)
  := by
  obtain ⟨hi, rfl⟩ := List.getElem?_eq_some_iff.mp h
  have hsplit : l = l.take i ++ l[i] :: l.drop (i + 1) := by
    rw [← List.drop_eq_getElem_cons hi, List.take_append_drop]
  have hcount : l.countP p = (l.take i ++ l[i] :: l.drop (i + 1)).countP p := by rw [← hsplit]
  rw [hcount, List.modify_eq_take_cons_drop hi]
  simp only [List.countP_append, List.countP_cons]
  omega

theorem countP_modify_le {α : Type} {p : α → Bool} {f : α → α} {l : List α}
    (h : ∀ x, p (f x) = true → p x = true) :
  (l.modify i f).countP p ≤ l.countP p
  := by
  cases hx : l[i]? with
  | none =>
    apply Nat.le_of_eq
    rw [List.modify_eq_self (List.getElem?_eq_none_iff.mp hx)]
  | some x =>
    have hcount := countP_modify (p := p) (f := f) hx
    by_cases hafter : p (f x) = true
    · rw [if_pos hafter, if_pos (h x hafter)] at hcount
      omega
    · rw [if_neg hafter] at hcount
      omega

/-- After the dispatcher was shut down the check of a job that waits ends it. -/
theorem unended_check (hd : d.isDown = true) {n : Nat} (hjob : d.jobs[i]? = some job)
    (hstatus : job.status = .waiting n) (finding : Finding) :
  (d.check i finding).unended + 1 = d.unended
  := by
  have hcount := countP_modify (p := fun job : Job => !job.status.isEnded)
    (f := fun job =>
      { job with
        status := d.poll.turn (d.horizonOf job) (job.cancelled || d.isDown) finding job.status })
    hjob
  rw [unended, unended, jobs_check]
  simpa [turn_of_isDown hd, hstatus, Poll.Status.isEnded] using hcount

/-- No action makes a job wait again, and it adds at most one. -/
theorem unended_apply_le (d : Dispatcher) (a : Action) :
  (d.apply a).unended ≤ d.unended + 1
  := by
  cases a with
  | schedule time r => simp [apply, unended, Poll.Status.isEnded]
  | shutDown => exact Nat.le_succ d.unended
  | closeQueue => exact Nat.le_succ d.unended
  | cancel i =>
    apply Nat.le_succ_of_le
    exact countP_modify_le fun job h => h
  | check i finding =>
    apply Nat.le_succ_of_le
    rw [apply, unended, jobs_check]
    apply countP_modify_le
    intro job h
    cases hstatus : job.status with
    | waiting n => rfl
    | ended outcome n acted =>
      rw [hstatus, Poll.turn_of_ended (by simp [Poll.Status.outcome?])] at h
      exact h

/-- What a clock does next: nothing, if all is over, or the first event or the next check. -/
theorem play_step (finding : Nat → Nat → Nat → Finding) (pending : List (Nat × Action))
    (d : Dispatcher) :
  (pending = [] ∧ d.nextCheck? = none ∧ ∀ fuel, play finding fuel pending d = d)
    ∨ ∃ a rest, (∀ fuel, play finding (fuel + 1) pending d = play finding fuel rest (d.apply a))
      ∧ ((∃ time, pending = (time, a) :: rest)
        ∨ (rest = pending ∧ ∃ t i f, d.nextCheck? = some (t, i) ∧ a = .check i f))
  := by
  cases pending with
  | nil =>
    cases hnext : d.nextCheck? with
    | none =>
      refine .inl ⟨rfl, rfl, ?_⟩
      intro fuel
      cases fuel <;> simp [play, hnext]
    | some c =>
      obtain ⟨t, i⟩ := c
      refine .inr ⟨.check i (finding i (d.checks i) t), [], ?_, .inr ⟨rfl, t, i, _, rfl, rfl⟩⟩
      intro fuel
      simp [play, hnext, apply]
      rfl
  | cons e rest =>
    obtain ⟨time, a⟩ := e
    cases hnext : d.nextCheck? with
    | none =>
      refine .inr ⟨a, rest, ?_, .inl ⟨time, rfl⟩⟩
      intro fuel
      simp [play, hnext]
    | some c =>
      obtain ⟨t, i⟩ := c
      by_cases hlt : t < time
      · refine .inr ⟨.check i (finding i (d.checks i) t), (time, a) :: rest, ?_,
          .inr ⟨rfl, t, i, _, rfl, rfl⟩⟩
        intro fuel
        simp [play, hnext, hlt, apply]
        rfl
      · refine .inr ⟨a, rest, ?_, .inl ⟨time, rfl⟩⟩
        intro fuel
        simp [play, hnext, hlt]

/-- When the clock of a dispatcher that was shut down goes on, everything that is to happen
happens, and all jobs end. -/
theorem play_of_isDown (finding : Nat → Nat → Nat → Finding) {bound : Nat}
    {pending : List (Nat × Action)} {d : Dispatcher} (hd : d.isDown = true)
    (hbound : 2 * pending.length + d.unended < bound) :
  ∃ actions, (pending.map Prod.snd).Sublist actions ∧ (d.run actions).isIdle = true
    ∧ ∀ fuel ≥ bound, play finding fuel pending d = d.run actions
  := by
  induction bound generalizing pending d with
  | zero => omega
  | succ bound ih =>
    obtain ⟨rfl, hnext, hplay⟩ | ⟨a, rest, hplay, hwhat⟩ := play_step finding pending d
    · exact ⟨[], .slnil, isIdle_of_nextCheck? hnext, fun fuel _ => hplay fuel⟩
    · have hrest : 2 * rest.length + (d.apply a).unended < bound := by
        obtain ⟨time, rfl⟩ | ⟨rfl, t, i, f, hnext, rfl⟩ := hwhat
        · have := unended_apply_le d a
          simp only [List.length_cons] at hbound
          omega
        · obtain ⟨job, n, hjob, hstatus⟩ := waiting_of_nextCheck? hnext
          have := unended_check hd hjob hstatus f
          rw [apply]
          omega
      obtain ⟨actions, hsub, hidle, hsame⟩ := ih (isDown_apply hd a) hrest
      refine ⟨a :: actions, ?_, hidle, ?_⟩
      · obtain ⟨time, rfl⟩ | ⟨rfl, -⟩ := hwhat
        · exact hsub.cons_cons a
        · exact hsub.cons a
      · intro fuel hfuel
        obtain ⟨less, rfl⟩ : ∃ less, fuel = less + 1 := ⟨fuel - 1, by omega⟩
        rw [hplay less, hsame less (by omega)]
        rfl

end TaskDesk.Dispatcher
