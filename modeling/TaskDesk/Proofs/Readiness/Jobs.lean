import TaskDesk.Readiness.Dispatcher
import Mathlib.Tactic.Common

/-!
# What an action does to the jobs of a dispatcher

An action does something to one job, or adds one: `getElem?_apply`.  The queue grows only when a
job runs while it is open, by the request of that job: `hands_apply`.
-/

namespace TaskDesk

/-- How a poll ended, if it has. -/
def Poll.Status.outcome? : Poll.Status → Option PollOutcome
  | .waiting _ => none
  | .ended outcome _ _ => some outcome

theorem Poll.turn_of_ended {p : Poll} {horizon : Nat} {cancelled : Bool} {finding : Finding}
    {s : Poll.Status} (h : s.outcome? ≠ none) :
  p.turn horizon cancelled finding s = s
  := by
  cases s with
  | waiting n => simp [Status.outcome?] at h
  | ended outcome n acted => rfl

/-- A round starts the action exactly if the poll runs in it, unless the action breaks down. -/
theorem Poll.acted_turn_iff {p : Poll} (hp : p.actionBreaks = false) {horizon : Nat}
    {cancelled : Bool} {finding : Finding} {n : Nat} :
  (p.turn horizon cancelled finding (.waiting n)).acted = true
    ↔ ∃ k, (p.turn horizon cancelled finding (.waiting n)).outcome? = some (.ran k)
  := by
  cases hstops : cancelled || !p.canStart horizon with
  | true => simp [turn, hstops, Status.acted, Status.outcome?]
  | false =>
    cases finding with
    | ready => simp [turn, hstops, Status.acted, Status.outcome?, hp]
    | broken => simp [turn, hstops, Status.acted, Status.outcome?]
    | notReady =>
      cases hlook : p.canLook horizon n <;> cases hlate : p.isLate n <;>
        simp [turn, hstops, hlook, hlate, Status.acted, Status.outcome?]

namespace Dispatcher

variable {d : Dispatcher} {a : Action} {i j : Nat} {job : Job}

/-- How a job ended, if it has. -/
def outcome? (d : Dispatcher) (i : Nat) : Option PollOutcome :=
  d.jobs[i]?.bind fun job => job.status.outcome?

/-- How many checks were made for a job. -/
def checks (d : Dispatcher) (i : Nat) : Nat :=
  (d.jobs[i]?.map fun job => job.status.checks).getD 0

/-- The request of a job. -/
def request? (d : Dispatcher) (i : Nat) : Option Request :=
  d.jobs[i]?.map Job.request

/-- Whether the outcome of a job is that it ran. -/
def HasRan (d : Dispatcher) (i : Nat) : Prop :=
  ∃ n, d.outcome? i = some (.ran n)

theorem outcome?_eq (h : d.jobs[i]? = some job) :
  d.outcome? i = job.status.outcome?
  := by
  rw [outcome?, h, Option.bind_some]

theorem lt_length_of_outcome? {outcome : PollOutcome} (h : d.outcome? i = some outcome) :
  i < d.jobs.length
  := by
  obtain ⟨job, hjob, -⟩ := Option.bind_eq_some_iff.mp h
  exact (List.getElem?_eq_some_iff.mp hjob).1

/-! ### One action -/

/-- What an action makes of the job at a place. -/
def treated (d : Dispatcher) (a : Action) (i : Nat) (job : Job) : Job :=
  match a with
  | .check k finding =>
    if k = i then
      { job with
        status := d.poll.turn (d.horizonOf job) (job.cancelled || d.isDown) finding job.status }
    else job
  | .cancel k => if k = i then { job with cancelled := true } else job
  | _ => job

/-- The job that an action adds. -/
def Action.job? : Action → Option Job
  | .schedule time r => some ⟨.ofRecord r, time, .waiting 0, false⟩
  | _ => none

theorem jobs_check (d : Dispatcher) (i : Nat) (finding : Finding) :
  (d.check i finding).jobs = d.jobs.modify i fun job =>
    { job with
      status := d.poll.turn (d.horizonOf job) (job.cancelled || d.isDown) finding job.status }
  := by
  rw [check]
  cases hjob : d.jobs[i]? with
  | none =>
    rw [List.modify_eq_self]
    exact List.getElem?_eq_none_iff.mp hjob
  | some job =>
    obtain ⟨hi, rfl⟩ := List.getElem?_eq_some_iff.mp hjob
    simp [List.modify_eq_take_cons_drop hi, List.set_eq_take_append_cons_drop, hi]

/-- The jobs after an action. -/
theorem getElem?_apply (d : Dispatcher) (a : Action) (i : Nat) :
  (d.apply a).jobs[i]?
    = if i = d.jobs.length then a.job? else d.jobs[i]?.map (d.treated a i)
  := by
  by_cases hi : i = d.jobs.length
  · have hout : d.jobs[i]? = none := by simp [hi]
    rw [if_pos hi]
    cases a with
    | schedule time r => simp [apply, Action.job?, hi]
    | check k finding => simp [apply, jobs_check, hi, Action.job?]
    | cancel k => simp [apply, hi, Action.job?]
    | shutDown => exact hout
    | closeQueue => exact hout
  · rw [if_neg hi]
    cases a with
    | schedule time r =>
      have hsame : d.treated (.schedule time r) i = id := rfl
      rw [hsame, Option.map_id, id, apply, List.getElem?_append]
      split
      · rfl
      · rw [List.getElem?_eq_none (by simp; omega), List.getElem?_eq_none (by omega)]
    | check k finding =>
      rw [apply, jobs_check, List.getElem?_modify]
      rfl
    | cancel k =>
      rw [apply, List.getElem?_modify]
      have hsame : d.treated (.cancel k) i
          = fun job => if k = i then { job with cancelled := true } else job := rfl
      rw [hsame]
      rfl
    | shutDown => exact (congrFun Option.map_id _).symm
    | closeQueue => exact (congrFun Option.map_id _).symm

theorem getElem?_apply_of_some (h : d.jobs[i]? = some job) (a : Action) :
  (d.apply a).jobs[i]? = some (d.treated a i job)
  := by
  have hi : i ≠ d.jobs.length := by
    have := (List.getElem?_eq_some_iff.mp h).1
    omega
  rw [getElem?_apply, if_neg hi, h, Option.map_some]

@[simp]
theorem request_treated (d : Dispatcher) (a : Action) (i : Nat) (job : Job) :
  (d.treated a i job).request = job.request
  := by
  unfold treated
  split
  · split <;> rfl
  · split <;> rfl
  · rfl

/-- A job that ended stays as it ended. -/
theorem status_treated_of_ended (h : job.status.outcome? ≠ none) :
  (d.treated a i job).status = job.status
  := by
  unfold treated
  split
  · split
    · exact Poll.turn_of_ended h
    · rfl
  · split <;> rfl
  · rfl

@[simp]
theorem poll_apply (d : Dispatcher) (a : Action) :
  (d.apply a).poll = d.poll
  := by
  cases a with
  | check i finding =>
    rw [apply, check]
    split <;> rfl
  | _ => rfl

@[simp]
theorem horizon_apply (d : Dispatcher) (a : Action) :
  (d.apply a).horizon = d.horizon
  := by
  cases a with
  | check i finding =>
    rw [apply, check]
    split <;> rfl
  | _ => rfl

theorem isDown_check (d : Dispatcher) (i : Nat) (finding : Finding) :
  (d.check i finding).isDown = d.isDown
  := by
  rw [check]
  split <;> rfl

theorem isDown_apply {d : Dispatcher} (h : d.isDown = true) (a : Action) :
  (d.apply a).isDown = true
  := by
  cases a with
  | check i finding => rw [apply, isDown_check, h]
  | shutDown => rfl
  | _ => exact h

theorem length_apply (d : Dispatcher) (a : Action) :
  (d.apply a).jobs.length = d.jobs.length + a.job?.toList.length
  := by
  cases a with
  | schedule time r => simp [apply, Action.job?]
  | check i finding => simp [apply, jobs_check, Action.job?]
  | cancel i => simp [apply, Action.job?]
  | shutDown => rfl
  | closeQueue => rfl

/-- An action leaves the request of a job alone. -/
theorem request?_apply (h : i < d.jobs.length) (a : Action) :
  (d.apply a).request? i = d.request? i
  := by
  have hjob : d.jobs[i]? = some d.jobs[i] := List.getElem?_eq_getElem h
  rw [request?, getElem?_apply_of_some hjob, request?, hjob]
  simp

theorem outcome?_apply_of_some {outcome : PollOutcome} (h : d.outcome? i = some outcome)
    (a : Action) :
  (d.apply a).outcome? i = some outcome
  := by
  obtain ⟨job, hjob, hended⟩ := Option.bind_eq_some_iff.mp h
  rw [outcome?_eq (getElem?_apply_of_some hjob a), status_treated_of_ended (by simp [hended])]
  exact hended

theorem HasRan.apply (h : d.HasRan i) (a : Action) :
  (d.apply a).HasRan i
  := h.imp fun _ hn => outcome?_apply_of_some hn a

/-! ### Handing on -/

theorem outcome?_apply_of_none (h : d.jobs[i]? = none) (a : Action) :
  (d.apply a).outcome? i = none
  := by
  rw [outcome?, getElem?_apply, h]
  split
  · cases a <;> rfl
  · rfl

/-- What is not checked does not end. -/
theorem outcome?_apply_of_ne (h : ∀ finding, a ≠ .check i finding) :
  (d.apply a).outcome? i = d.outcome? i
  := by
  cases hjob : d.jobs[i]? with
  | none =>
    rw [outcome?_apply_of_none hjob, outcome?, hjob]
    rfl
  | some job =>
    have hstatus : (d.treated a i job).status = job.status := by
      unfold treated
      split
      · next k finding =>
        have hk : k ≠ i := by
          rintro rfl
          exact h finding rfl
        rw [if_neg hk]
      · split <;> rfl
      · rfl
    rw [outcome?_eq (getElem?_apply_of_some hjob a), hstatus, outcome?_eq hjob]

/-- A check of a job that has ended, or is not there, does nothing. -/
theorem check_of_not_waiting (finding : Finding)
    (h : ∀ {job n}, d.jobs[i]? = some job → job.status ≠ .waiting n) :
  (d.check i finding).queue = d.queue ∧ ∀ j, (d.check i finding).outcome? j = d.outcome? j
  := by
  cases hjob : d.jobs[i]? with
  | none =>
    rw [check, hjob]
    exact ⟨rfl, fun _ => rfl⟩
  | some job =>
    cases hstatus : job.status with
    | waiting n => exact absurd hstatus (h hjob)
    | ended outcome n acted =>
      have hturn (horizon : Nat) (cancelled : Bool) :
          d.poll.turn horizon cancelled finding (.ended outcome n acted)
            = .ended outcome n acted := rfl
      refine ⟨by simp [check, hjob, hstatus, hturn, Poll.Status.acted], ?_⟩
      intro j
      by_cases hj : j = i
      · subst hj
        have hended : d.outcome? j = some outcome := by rw [outcome?_eq hjob, hstatus]; rfl
        rw [hended]
        exact outcome?_apply_of_some hended (.check j finding)
      · apply outcome?_apply_of_ne (a := .check i finding)
        rintro _ ⟨⟩
        exact hj rfl

/-- A check of a job that waits is a round of its poll; the request goes to the end of the queue if
the action is started while the queue is open. -/
theorem check_of_waiting (finding : Finding) {n : Nat} (hjob : d.jobs[i]? = some job)
    (hstatus : job.status = .waiting n) :
  let s := d.poll.turn (d.horizonOf job) (job.cancelled || d.isDown) finding (.waiting n)
  (d.check i finding).outcome? i = s.outcome?
    ∧ (d.check i finding).queue
      = if s.acted && !d.isClosed then d.queue ++ [job.request] else d.queue
  := by
  intro s
  have hafter : (d.apply (.check i finding)).jobs[i]? = some { job with status := s } := by
    rw [getElem?_apply_of_some hjob, treated, if_pos rfl, hstatus]
  refine ⟨outcome?_eq hafter, ?_⟩
  simp [check, hjob, hstatus, s, Poll.Status.acted]

theorem hasRan_congr {d' : Dispatcher} (h : d'.outcome? i = d.outcome? i) :
  d'.HasRan i ↔ d.HasRan i
  := by
  rw [HasRan, h, HasRan]

theorem isClosed_check (finding : Finding) :
  (d.check i finding).isClosed = d.isClosed
  := by
  rw [check]
  split <;> rfl

/-- A check of a job that waits makes the job run, and no other, if the action is started. -/
theorem hasRan_check_of_waiting (hp : d.poll.actionBreaks = false) (finding : Finding) {n : Nat}
    (hjob : d.jobs[i]? = some job) (hstatus : job.status = .waiting n) (j : Nat) :
  (d.check i finding).HasRan j
    ↔ d.HasRan j
      ∨ j = i ∧ (d.poll.turn (d.horizonOf job) (job.cancelled || d.isDown) finding
        (.waiting n)).acted = true
  := by
  by_cases hj : j = i
  · have hbefore : d.outcome? i = none := by rw [outcome?_eq hjob, hstatus]; rfl
    rw [hj, HasRan, (check_of_waiting finding hjob hstatus).1, ← Poll.acted_turn_iff hp, HasRan,
      hbefore]
    simp
  · have hother : (d.check i finding).outcome? j = d.outcome? j := by
      apply outcome?_apply_of_ne (a := .check i finding)
      rintro _ ⟨⟩
      exact hj rfl
    simpa [hj] using hasRan_congr hother

/-- An action hands the request of a job on that runs while the queue is open; or it hands nothing
on, and while the queue is open no job runs. -/
theorem hands_apply (hp : d.poll.actionBreaks = false) (a : Action) :
  (∃ i job, d.jobs[i]? = some job ∧ d.outcome? i = none ∧ d.isClosed = false
      ∧ (d.apply a).isClosed = false ∧ (d.apply a).queue = d.queue ++ [job.request]
      ∧ ∀ j, (d.apply a).HasRan j ↔ d.HasRan j ∨ j = i)
    ∨ ((d.apply a).queue = d.queue
      ∧ ((d.apply a).isClosed = false →
        d.isClosed = false ∧ ∀ j, (d.apply a).HasRan j ↔ d.HasRan j))
  := by
  have hquiet (h : ∀ i finding, a ≠ .check i finding) (j : Nat) :
      (d.apply a).HasRan j ↔ d.HasRan j := hasRan_congr (outcome?_apply_of_ne (h j))
  cases a with
  | schedule time r => exact .inr ⟨rfl, fun hopen => ⟨hopen, hquiet nofun⟩⟩
  | cancel i => exact .inr ⟨rfl, fun hopen => ⟨hopen, hquiet nofun⟩⟩
  | shutDown => exact .inr ⟨rfl, fun hopen => ⟨hopen, hquiet nofun⟩⟩
  | closeQueue => exact .inr ⟨rfl, nofun⟩
  | check i finding =>
    rw [apply, isClosed_check]
    by_cases hwaits : ∃ job n, d.jobs[i]? = some job ∧ job.status = .waiting n
    · obtain ⟨job, n, hjob, hstatus⟩ := hwaits
      have hbefore : d.outcome? i = none := by rw [outcome?_eq hjob, hstatus]; rfl
      have hran := hasRan_check_of_waiting hp finding hjob hstatus
      have hqueue := (check_of_waiting finding hjob hstatus).2
      generalize d.poll.turn (d.horizonOf job) (job.cancelled || d.isDown) finding (.waiting n) = s
        at hran hqueue
      cases hact : s.acted && !d.isClosed with
      | true =>
        simp only [Bool.and_eq_true, Bool.not_eq_true'] at hact
        refine .inl ⟨i, job, hjob, hbefore, hact.2, hact.2, ?_, ?_⟩
        · simp [hqueue, hact]
        · simpa [hact.1] using hran
      | false =>
        refine .inr ⟨by simp [hqueue, hact], ?_⟩
        intro hopen
        have hidle : s.acted = false := by simpa [hopen] using hact
        exact ⟨hopen, by simpa [hidle] using hran⟩
    · have hstill : ∀ {job n}, d.jobs[i]? = some job → job.status ≠ .waiting n :=
        fun hjob hstatus => hwaits ⟨_, _, hjob, hstatus⟩
      obtain ⟨hqueue, houtcome⟩ := check_of_not_waiting finding hstill
      exact .inr ⟨hqueue, fun hopen => ⟨hopen, fun j => hasRan_congr (houtcome j)⟩⟩

end Dispatcher

end TaskDesk
