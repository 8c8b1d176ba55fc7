import TaskDesk.Proofs.Readiness.Shutdown
import Mathlib.Data.List.Induction

/-!
# Records that are dispatched

A `Depot` is a dispatcher with the records that it can be asked to hand on, which others may edit
at any time.  Its events come in any order.  Whatever they are, the queue holds one request for
each job that ran while it was open and no others, a request is what the record was when the job
was scheduled, and what becomes of a job depends on no other job: `dispatched_once`.
-/

namespace TaskDesk

/-- Records, each under its number, and a dispatcher. -/
structure Depot where
  records : Nat → Record
  dispatcher : Dispatcher

namespace Depot

/-- A depot in which nothing was scheduled yet. -/
def start (records : Nat → Record) (interval : Nat) (deadline : Option Span) : Depot :=
  ⟨records, .new interval deadline⟩

/-- What can happen in a depot: a record is edited or scheduled as it is, a job is checked or
cancelled, the dispatcher is shut down, or the queue is closed. -/
inductive Event where
  | edit (k : Nat) (f : Record → Record)
  | schedule (k time : Nat)
  | check (job : Nat) (finding : Finding)
  | cancel (job : Nat)
  | shutDown
  | closeQueue

/-- The records after an event. -/
def Event.edited (records : Nat → Record) : Event → Nat → Record
  | .edit k f => fun j => if j = k then f (records k) else records j
  | _ => records

/-- What the dispatcher is asked for. -/
def Event.action? (records : Nat → Record) : Event → Option Dispatcher.Action
  | .edit _ _ => none
  | .schedule k time => some (.schedule time (records k))
  | .check i finding => some (.check i finding)
  | .cancel i => some (.cancel i)
  | .shutDown => some .shutDown
  | .closeQueue => some .closeQueue

/-- The depot after an event. -/
def after (s : Depot) (e : Event) : Depot :=
  ⟨e.edited s.records, (e.action? s.records).elim s.dispatcher s.dispatcher.apply⟩

/-- The depot after events, the first one first. -/
def run (s : Depot) (events : List Event) : Depot :=
  events.foldl after s

variable {s s' : Depot} {e : Event} {events : List Event} {i : Nat}

theorem run_append (s : Depot) (first second : List Event) :
  s.run (first ++ second) = (s.run first).run second
  := List.foldl_append

theorem run_concat (s : Depot) (events : List Event) (e : Event) :
  s.run (events ++ [e]) = (s.run events).after e
  := run_append s events [e]

/-- An event leaves the dispatcher alone, or is an action of it. -/
theorem dispatcher_after (s : Depot) (e : Event) :
  (s.after e).dispatcher = s.dispatcher
    ∨ ∃ a, (s.after e).dispatcher = s.dispatcher.apply a
  := by
  rw [after]
  cases e.action? s.records with
  | none => exact .inl rfl
  | some a => exact .inr ⟨a, rfl⟩

/-- What happens in a depot is a run of its dispatcher. -/
theorem dispatcher_run (s : Depot) (events : List Event) :
  ∃ actions, (s.run events).dispatcher = s.dispatcher.run actions
  := by
  induction events generalizing s with
  | nil => exact ⟨[], rfl⟩
  | cons e rest ih =>
    obtain ⟨actions, hrest⟩ := ih (s.after e)
    obtain hsame | ⟨a, ha⟩ := dispatcher_after s e
    · rw [hsame] at hrest
      exact ⟨actions, hrest⟩
    · rw [ha] at hrest
      exact ⟨a :: actions, hrest⟩

/-- What a dispatcher has and every action keeps, it has after events. -/
theorem dispatcher_induction {motive : Dispatcher → Prop}
    (happly : ∀ {d} a, motive d → motive (d.apply a)) (hs : motive s.dispatcher)
    (events : List Event) :
  motive (s.run events).dispatcher
  := by
  induction events generalizing s with
  | nil => exact hs
  | cons e rest ih =>
    apply ih
    obtain hsame | ⟨a, ha⟩ := dispatcher_after s e
    · rwa [hsame]
    · rw [ha]
      exact happly a hs

/-! ### Requests -/

theorem request?_run (h : i < s.dispatcher.jobs.length) (events : List Event) :
  (s.run events).dispatcher.request? i = s.dispatcher.request? i
  := by
  have hkept : i < (s.run events).dispatcher.jobs.length
      ∧ (s.run events).dispatcher.request? i = s.dispatcher.request? i := by
    apply dispatcher_induction (motive := fun d => i < d.jobs.length
      ∧ d.request? i = s.dispatcher.request? i) _ ⟨h, rfl⟩
    rintro d a ⟨hi, hrequest⟩
    refine ⟨?_, by rw [Dispatcher.request?_apply hi, hrequest]⟩
    rw [Dispatcher.length_apply]
    omega
  exact hkept.2

/-- A job has the request for the record as it was when the job was scheduled, for ever. -/
theorem request?_schedule (s : Depot) (k time : Nat) (rest : List Event) :
  (s.run (.schedule k time :: rest)).dispatcher.request? s.dispatcher.jobs.length
    = some (.ofRecord (s.records k))
  := by
  have hlast : s.dispatcher.jobs.length < (s.after (.schedule k time)).dispatcher.jobs.length := by
    simp [after, Event.action?, Dispatcher.apply]
  have hrun : s.run (.schedule k time :: rest) = (s.after (.schedule k time)).run rest := rfl
  rw [hrun, request?_run hlast]
  simp [after, Event.action?, Dispatcher.request?, Dispatcher.apply]

/-! ### Handing on -/

/-- A job ran in the course of events, and at a moment at which the queue was open. -/
def RanOpen (s : Depot) (events : List Event) (i : Nat) : Prop :=
  ∃ done, done <+: events ∧ (s.run done).dispatcher.HasRan i
    ∧ (s.run done).dispatcher.isClosed = false

theorem ranOpen_concat :
  s.RanOpen (events ++ [e]) i
    ↔ s.RanOpen events i ∨ ((s.run (events ++ [e])).dispatcher.HasRan i
      ∧ (s.run (events ++ [e])).dispatcher.isClosed = false)
  := by
  constructor
  · rintro ⟨done, hdone, hran⟩
    obtain rfl | hdone := List.prefix_concat_iff.mp hdone
    · exact .inr hran
    · exact .inl ⟨done, hdone, hran⟩
  · rintro (⟨done, hdone, hran⟩ | hran)
    · exact ⟨done, hdone.trans (List.prefix_append _ _), hran⟩
    · exact ⟨_, List.prefix_rfl, hran⟩

theorem RanOpen.hasRan (h : s.RanOpen events i) :
  (s.run events).dispatcher.HasRan i
  := by
  obtain ⟨done, ⟨rest, rfl⟩, hran, -⟩ := h
  rw [run_append]
  apply dispatcher_induction (motive := fun d => d.HasRan i) _ hran
  intro d a hd
  exact hd.apply a

theorem RanOpen.request?_concat (h : s.RanOpen events i) (e : Event) :
  (s.run (events ++ [e])).dispatcher.request? i = (s.run events).dispatcher.request? i
  := by
  obtain ⟨n, hn⟩ := h.hasRan
  rw [run_append]
  exact request?_run (Dispatcher.lt_length_of_outcome? hn) [e]

/-- The queue holds the requests of jobs that ran while it was open, one of each, in some order. -/
def Handed (s : Depot) (events : List Event) : Prop :=
  ∃ order : List Nat, order.Nodup ∧ (∀ i, i ∈ order ↔ s.RanOpen events i)
    ∧ (s.run events).dispatcher.queue.map some
      = order.map (s.run events).dispatcher.request?

section Concat

variable (h : s.Handed events)

include h

/-- An event that hands nothing on and lets no job run while the queue is open. -/
theorem handed_of_quiet
    (hqueue : (s.run (events ++ [e])).dispatcher.queue = (s.run events).dispatcher.queue)
    (hran : (s.run (events ++ [e])).dispatcher.isClosed = false →
      (s.run events).dispatcher.isClosed = false
        ∧ ∀ j, (s.run (events ++ [e])).dispatcher.HasRan j ↔ (s.run events).dispatcher.HasRan j) :
  s.Handed (events ++ [e])
  := by
  obtain ⟨order, hnodup, hmem, hrequests⟩ := h
  refine ⟨order, hnodup, ?_, ?_⟩
  · intro i
    rw [hmem, ranOpen_concat]
    constructor
    · exact .inl
    · rintro (hbefore | ⟨hi, hopen⟩)
      · exact hbefore
      · obtain ⟨hwas, hsame⟩ := hran hopen
        exact ⟨events, List.prefix_rfl, (hsame i).mp hi, hwas⟩
  · rw [hqueue, hrequests]
    apply List.map_congr_left
    intro i hi
    exact (((hmem i).mp hi).request?_concat e).symm

/-- An event that hands the request of a job on, which runs while the queue is open. -/
theorem handed_of_hand {job : Job} (hjob : (s.run events).dispatcher.jobs[i]? = some job)
    (hnone : (s.run events).dispatcher.outcome? i = none)
    (hwas : (s.run events).dispatcher.isClosed = false)
    (hopen : (s.run (events ++ [e])).dispatcher.isClosed = false)
    (hqueue : (s.run (events ++ [e])).dispatcher.queue
      = (s.run events).dispatcher.queue ++ [job.request])
    (hran : ∀ j, (s.run (events ++ [e])).dispatcher.HasRan j
      ↔ (s.run events).dispatcher.HasRan j ∨ j = i) :
  s.Handed (events ++ [e])
  := by
  obtain ⟨order, hnodup, hmem, hrequests⟩ := h
  have hnew : i ∉ order := by
    intro hi
    obtain ⟨n, hn⟩ := ((hmem i).mp hi).hasRan
    simp [hnone] at hn
  refine ⟨order ++ [i], ?_, ?_, ?_⟩
  · rw [List.nodup_append]
    refine ⟨hnodup, by simp, ?_⟩
    rintro j hj k hk rfl
    obtain rfl := List.mem_singleton.mp hk
    exact hnew hj
  · intro j
    rw [List.mem_append, List.mem_singleton, hmem, ranOpen_concat, hran]
    constructor
    · rintro (hj | rfl)
      · exact .inl hj
      · exact .inr ⟨.inr rfl, hopen⟩
    · rintro (hj | ⟨hj | rfl, -⟩)
      · exact .inl hj
      · exact .inl ⟨events, List.prefix_rfl, hj, hwas⟩
      · exact .inr rfl
  · have hthere : i < (s.run events).dispatcher.jobs.length :=
      (List.getElem?_eq_some_iff.mp hjob).1
    have hi : (s.run (events ++ [e])).dispatcher.request? i = some job.request := by
      rw [run_append, request?_run hthere, Dispatcher.request?, hjob, Option.map_some]
    have hbefore : order.map (s.run (events ++ [e])).dispatcher.request?
        = order.map (s.run events).dispatcher.request? := by
      apply List.map_congr_left
      intro j hj
      exact ((hmem j).mp hj).request?_concat e
    rw [hqueue, List.map_append, List.map_append, hrequests, hbefore, List.map_singleton,
      List.map_singleton, hi]

theorem handed_concat (hp : s.dispatcher.poll.actionBreaks = false) (e : Event) :
  s.Handed (events ++ [e])
  := by
  have hpoll : (s.run events).dispatcher.poll.actionBreaks = false := by
    apply dispatcher_induction (motive := fun d => d.poll.actionBreaks = false) _ hp
    intro d a hd
    rwa [Dispatcher.poll_apply]
  have hrun := run_concat s events e
  obtain hquiet | ⟨a, ha⟩ := dispatcher_after (s.run events) e
  · rw [← hrun] at hquiet
    apply handed_of_quiet h (by rw [hquiet])
    rw [hquiet]
    exact fun hopen => ⟨hopen, fun _ => .rfl⟩
  · rw [← hrun] at ha
    obtain ⟨i, job, hjob, hnone, hwas, hopen, hqueue, hran⟩ | ⟨hqueue, hran⟩ :=
      Dispatcher.hands_apply hpoll a
    · rw [← ha] at hopen hqueue hran
      exact handed_of_hand h hjob hnone hwas hopen hqueue hran
    · rw [← ha] at hqueue hran
      exact handed_of_quiet h hqueue hran

end Concat

theorem handed_run (records : Nat → Record) (interval : Nat) (deadline : Option Span)
    (events : List Event) :
  (start records interval deadline).Handed events
  := by
  induction events using List.reverseRecOn with
  | nil =>
    refine ⟨[], List.nodup_nil, ?_, rfl⟩
    intro i
    constructor
    · simp
    · rintro ⟨done, hdone, ⟨n, hn⟩, -⟩
      obtain rfl := List.prefix_nil.mp hdone
      cases hn
  | append_singleton events e ih => exact handed_concat ih rfl e

/-! ### One job among others -/

/-- Whether an event can matter to a job: any but a check or a cancellation of another job. -/
def Event.concerns (i : Nat) : Event → Bool
  | .check k _ => k = i
  | .cancel k => k = i
  | _ => true

/-- Whether two depots are the same as far as a job can see. -/
structure SameFor (i : Nat) (s s' : Depot) : Prop where
  records : s'.records = s.records
  poll : s'.dispatcher.poll = s.dispatcher.poll
  horizon : s'.dispatcher.horizon = s.dispatcher.horizon
  isDown : s'.dispatcher.isDown = s.dispatcher.isDown
  length : s'.dispatcher.jobs.length = s.dispatcher.jobs.length
  job : s'.dispatcher.jobs[i]? = s.dispatcher.jobs[i]?

theorem SameFor.refl (i : Nat) (s : Depot) :
  s.SameFor i s
  := ⟨rfl, rfl, rfl, rfl, rfl, rfl⟩

theorem SameFor.trans {s s' s'' : Depot} (h : s.SameFor i s') (h' : s'.SameFor i s'') :
  s.SameFor i s''
  where
  records := h'.records.trans h.records
  poll := h'.poll.trans h.poll
  horizon := h'.horizon.trans h.horizon
  isDown := h'.isDown.trans h.isDown
  length := h'.length.trans h.length
  job := h'.job.trans h.job

/-- An event that cannot matter to a job leaves everything as it was for the job. -/
theorem sameFor_after (h : e.concerns i = false) (s : Depot) :
  (s.after e).SameFor i s
  := by
  obtain ⟨a, ha, hadds, hrecords, htreated, hdown⟩ :
      ∃ a, e.action? s.records = some a ∧ a.job? = none ∧ e.edited s.records = s.records
        ∧ s.dispatcher.treated a i = id
        ∧ (s.dispatcher.apply a).isDown = s.dispatcher.isDown := by
    cases e with
    | check k finding =>
      have hk : k ≠ i := by simpa [Event.concerns] using h
      refine ⟨.check k finding, rfl, rfl, rfl, ?_, Dispatcher.isDown_check _ k finding⟩
      funext job
      simp [Dispatcher.treated, hk]
    | cancel k =>
      have hk : k ≠ i := by simpa [Event.concerns] using h
      refine ⟨.cancel k, rfl, rfl, rfl, ?_, rfl⟩
      funext job
      simp [Dispatcher.treated, hk]
    | _ => simp [Event.concerns] at h
  rw [after, ha, hrecords, Option.elim_some]
  constructor
  · rfl
  · exact (Dispatcher.poll_apply _ a).symm
  · exact (Dispatcher.horizon_apply _ a).symm
  · exact hdown.symm
  · simp [Dispatcher.length_apply, hadds]
  · rw [Dispatcher.getElem?_apply, hadds, htreated, Option.map_id]
    split
    · next hi => simp [hi]
    · rfl

/-- Depots that are the same for a job stay so when the same happens in both. -/
theorem SameFor.after (h : s.SameFor i s') (e : Event) :
  (s.after e).SameFor i (s'.after e)
  := by
  rw [Depot.after, Depot.after, h.records]
  cases e.action? s.records with
  | none => exact ⟨rfl, h.poll, h.horizon, h.isDown, h.length, h.job⟩
  | some a =>
    have htreated : s'.dispatcher.treated a i = s.dispatcher.treated a i := by
      funext job
      simp only [Dispatcher.treated, Dispatcher.horizonOf, h.poll, h.horizon, h.isDown]
    constructor
    · rfl
    · simp [h.poll]
    · simp [h.horizon]
    · cases a with
      | check k finding => simp [Dispatcher.apply, Dispatcher.isDown_check, h.isDown]
      | shutDown => rfl
      | _ => exact h.isDown
    · simp [Dispatcher.length_apply, h.length]
    · simp [Dispatcher.getElem?_apply, htreated, h.length, h.job]

/-- For a job it is as if nothing but the events that can matter to it had happened. -/
theorem SameFor.run_filter (h : s.SameFor i s') (events : List Event) :
  (s.run events).SameFor i (s'.run (events.filter (Event.concerns i)))
  := by
  induction events generalizing s s' with
  | nil => exact h
  | cons e rest ih =>
    cases hconcerns : e.concerns i with
    | true =>
      rw [List.filter_cons_of_pos hconcerns]
      exact ih (h.after e)
    | false =>
      rw [List.filter_cons_of_neg (by simp [hconcerns])]
      exact ih ((sameFor_after hconcerns s).trans h)

/-- What becomes of a job depends only on the events that can matter to it. -/
theorem job_congr {others : List Event}
    (h : others.filter (Event.concerns i) = events.filter (Event.concerns i)) (s : Depot) :
  (s.run others).dispatcher.jobs[i]? = (s.run events).dispatcher.jobs[i]?
  := by
  rw [← ((SameFor.refl i s).run_filter others).job, h]
  exact ((SameFor.refl i s).run_filter events).job

/-! ### All in all -/

/-- Whatever happens in a depot and in which order: a job has the request for the record as it was
when the job was scheduled; the queue holds one request for each job that ran while it was open,
and no other; whether another job is cancelled or checked changes neither the outcome nor the
checks of a job; and from a shutdown on nothing is checked or handed on any more, every job that
had not ended or is scheduled later is cancelled at its next turn, and all of them end when the
clock goes on, whatever else is still to come. -/
theorem dispatched_once (records : Nat → Record) (interval : Nat) (deadline : Option Span)
    (events : List Event) :
  let first := start records interval deadline
  let last := (first.run events).dispatcher
  (∀ done k time rest, events = done ++ .schedule k time :: rest →
      let moment := first.run done
      last.request? moment.dispatcher.jobs.length = some (.ofRecord (moment.records k)))
    ∧ first.Handed events
    ∧ (∀ i others, others.filter (Event.concerns i) = events.filter (Event.concerns i) →
      (first.run others).dispatcher.outcome? i = last.outcome? i
        ∧ (first.run others).dispatcher.checks i = last.checks i)
    ∧ (∀ done i rest j, events = done ++ .cancel i :: rest → i ≠ j →
      (first.run (done ++ rest)).dispatcher.outcome? j = last.outcome? j
        ∧ (first.run (done ++ rest)).dispatcher.checks j = last.checks j)
    ∧ ∀ done rest, events = done ++ .shutDown :: rest →
      let moment := (first.run done).dispatcher
      moment.Halted last
        ∧ (∀ i < last.jobs.length, ∀ finding, (last.check i finding).outcome? i ≠ none)
        ∧ ∀ finding pending, ∃ actions, (pending.map Prod.snd).Sublist actions
          ∧ moment.Halted (last.run actions) ∧ (last.run actions).isIdle = true
          ∧ ∃ bound, ∀ fuel ≥ bound, last.play finding fuel pending = last.run actions
  := by
  intro first last
  have hlone (i : Nat) (others : List Event)
      (h : others.filter (Event.concerns i) = events.filter (Event.concerns i)) :
      (first.run others).dispatcher.outcome? i = last.outcome? i
        ∧ (first.run others).dispatcher.checks i = last.checks i := by
    have hjob := job_congr h first
    exact ⟨by rw [Dispatcher.outcome?, hjob, Dispatcher.outcome?],
      by rw [Dispatcher.checks, hjob, Dispatcher.checks]⟩
  refine ⟨?scheduled, handed_run records interval deadline events, hlone, ?cancelled, ?down⟩
  case scheduled =>
    rintro done k time rest rfl moment
    have hlast : last = (moment.run (.schedule k time :: rest)).dispatcher := by
      rw [← run_append]
    rw [hlast]
    exact request?_schedule moment k time rest
  case cancelled =>
    rintro done i rest j rfl hne
    apply hlone
    simp [Event.concerns, hne]
  case down =>
    rintro done rest rfl moment
    obtain ⟨actions, hactions⟩ := dispatcher_run ((first.run done).after .shutDown) rest
    have hlast : last = (moment.apply .shutDown).run actions := by
      rw [show last = (first.run (done ++ .shutDown :: rest)).dispatcher from rfl, run_append]
      exact hactions
    have hhalted : moment.Halted last := by
      rw [hlast]
      exact (Dispatcher.halted_shutDown moment).run actions
    refine ⟨hhalted, ?_, ?_⟩
    · intro i hi finding
      exact Dispatcher.outcome?_check_of_isDown hhalted.isDown hi finding
    · intro finding pending
      obtain ⟨later, hsub, hidle, hplay⟩ := Dispatcher.play_of_isDown finding hhalted.isDown
        (Nat.lt_succ_self (2 * pending.length + last.unended))
      exact ⟨later, hsub, hhalted.run later, hidle, _, hplay⟩

/-- A record that is renamed while its job waits is handed on under its old name; the other job is
cancelled, and after the shutdown the record is scheduled once more, in vain. -/
theorem dispatched_once_instance :
  let day : Timestamp := ⟨2024, 2, 29, 23, 59, 60, 1⟩
  let backup : Record := { Record.new day "Backup" "shell" with id := "t1" }
  let restore : Record := { Record.new day "Restore" "shell" with id := "t2" }
  let done : List Event := [
    .schedule 0 0, .schedule 1 0, .check 0 .notReady, .edit 0 fun r => r.setName day "Dump",
    .cancel 1, .check 0 .ready]
  let events : List Event := done ++ [.shutDown, .schedule 0 200, .check 1 .ready, .check 2 .ready]
  let first := start (fun k => if k = 0 then backup else restore) 100 none
  let last := (first.run events).dispatcher
  first.Handed events ∧ last.queue = [.ofRecord backup]
    ∧ (last.request? 0 = some (.ofRecord backup) ∧ last.outcome? 0 = some (.ran 1))
    ∧ (last.outcome? 1 = some .cancelled ∧ last.outcome? 2 = some .cancelled)
    ∧ (first.run done).dispatcher.Halted last
    ∧ ∀ finding pending, ∃ actions, (pending.map Prod.snd).Sublist actions
      ∧ (first.run done).dispatcher.Halted (last.run actions) ∧ (last.run actions).isIdle = true
      ∧ ∃ bound, ∀ fuel ≥ bound, last.play finding fuel pending = last.run actions
  := by
  intro day backup restore done events first last
  obtain ⟨hscheduled, hhanded, -, -, hdown⟩ :=
    dispatched_once (fun k => if k = 0 then backup else restore) 100 none events
  obtain ⟨hhalted, -, hends⟩ := hdown done _ rfl
  exact ⟨hhanded, rfl, ⟨hscheduled [] 0 0 _ rfl, rfl⟩, ⟨rfl, rfl⟩, hhalted, hends⟩

end Depot

end TaskDesk
