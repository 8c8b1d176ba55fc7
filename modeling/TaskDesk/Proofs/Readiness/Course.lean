import TaskDesk.Readiness.Poll
import Mathlib.Tactic.Common
import Mathlib.Algebra.Order.Group.Nat

/-!
# Polls on a clock

A `Course` is a poll on a clock that advances only while the poll waits, with the times of what it
did so far; `Poll.pass` is one pass of its loop.  Courses are charted by the statuses of
`Poll.run`, whose checks are at the multiples of the wait: `charts_course`.  So it is enough to
find the status of a poll at the check that ends it, which gives the course in closed form, also
where the clock cannot show the deadline or a time that the poll looks ahead to: `course_outcome`.
-/

namespace TaskDesk

/-- A poll on a clock: the time, how often it waited, when it checked and acted, and how it
ended. -/
structure Course where
  now : Nat
  reschedules : Nat
  checks : List Nat
  runs : List Nat
  outcome : Option PollOutcome
deriving DecidableEq

namespace Poll

variable {p : Poll} {horizon : Nat} {cancelled : Nat → Bool} {finding : Nat → Finding} {n : Nat}

/-! ### Courses -/

/-- What a poll does after a check that found the resource not ready: it looks an interval ahead,
and ends or waits.  With a deadline the clock must be able to show the time ahead. -/
def look (p : Poll) (horizon : Nat) (c : Course) : Course :=
  let ahead := (c.now + p.interval) * 1000000
  if p.deadline.isSome && horizon < ahead then { c with outcome := some .cancelled }
  else if p.deadline.any fun d => d.total < ahead then
    { c with outcome := some (.expired c.reschedules) }
  else { c with now := c.now + p.wait, reschedules := c.reschedules + 1 }

/-- One pass of the loop of a poll.  The first one starts with the deadline, which the clock must be
able to show. -/
def pass (p : Poll) (horizon : Nat) (cancelled : Bool) (finding : Finding) (c : Course) : Course :=
  if c.outcome.isSome then c
  else if !p.canStart horizon then { c with outcome := some .cancelled }
  else if cancelled then { c with outcome := some .cancelled }
  else
    let c := { c with checks := c.checks ++ [c.now] }
    match finding with
    | .broken => { c with outcome := some .cancelled }
    | .ready =>
      { c with
        runs := c.runs ++ [c.now]
        outcome := some (if p.actionBreaks then .cancelled else .ran c.reschedules) }
    | .notReady => p.look horizon c

/-- The course of a poll that is scheduled at time zero, after a number of passes.  `cancelled n`
says whether the poll is cancelled before the check `n`, and `finding n` what that check finds. -/
def course (p : Poll) (horizon : Nat) (cancelled : Nat → Bool) (finding : Nat → Finding) :
    Nat → Course
  | 0 => ⟨0, 0, [], [], none⟩
  | n + 1 => p.pass horizon (cancelled n) (finding n) (p.course horizon cancelled finding n)

/-- A poll that ended with an outcome after checks at the first `n` multiples of the wait. -/
structure Ended (p : Poll) (outcome : PollOutcome) (n : Nat) (runs : List Nat) (c : Course) :
    Prop where
  outcome : c.outcome = some outcome
  checks : c.checks = (List.range n).map p.checkTime
  runs : c.runs = runs

/-- A poll that waits for its check `n`. -/
def waiting (p : Poll) (n : Nat) : Course :=
  ⟨p.checkTime n, n, (List.range n).map p.checkTime, [], none⟩

/-- What a status says about a course: an action that was started was so at the last check. -/
def Charts (p : Poll) (c : Course) : Status → Prop
  | .waiting n => c = p.waiting n
  | .ended outcome n acted => p.Ended outcome n (if acted then [p.checkTime (n - 1)] else []) c

theorem checkTime_succ (p : Poll) (n : Nat) :
  p.checkTime (n + 1) = p.checkTime n + p.wait
  := Nat.succ_mul n p.wait

theorem map_checkTime_succ (p : Poll) (n : Nat) :
  (List.range (n + 1)).map p.checkTime = (List.range n).map p.checkTime ++ [p.checkTime n]
  := by
  rw [List.range_succ, List.map_append, List.map_singleton]

theorem pass_of_ended {c : Course} (h : c.outcome ≠ none) (cancelled : Bool) (finding : Finding) :
  p.pass horizon cancelled finding c = c
  := by
  rw [pass, if_pos]
  rwa [Option.isSome_iff_ne_none]

theorem canStart_iff :
  p.canStart horizon = true ↔ ∀ d, p.deadline = some d → d.total ≤ horizon
  := by
  simp only [canStart, Option.all_eq_true, decide_eq_true_eq]

theorem canLook_iff :
  p.canLook horizon n = true
    ↔ ∀ d, p.deadline = some d → (p.checkTime n + p.interval) * 1000000 ≤ horizon
  := by
  rw [canLook]
  cases p.deadline with
  | none => simp only [Option.isNone_none, Bool.true_or, reduceCtorEq, false_implies,
      implies_true]
  | some d => simp only [Option.isNone_some, Bool.false_or, decide_eq_true_eq, forall_eq',
      Option.some.injEq]

/-- A poll that is cancelled, or that its clock does not let start, stops in a pass. -/
theorem pass_of_stops {cancelled : Bool} (h : (cancelled || !p.canStart horizon) = true)
    (finding : Finding) :
  p.pass horizon cancelled finding (p.waiting n)
    = { p.waiting n with outcome := some .cancelled }
  := by
  cases hstart : p.canStart horizon with
  | false => simp [pass, hstart, waiting]
  | true =>
    obtain rfl : cancelled = true := by simpa [hstart] using h
    simp [pass, hstart, waiting]

/-- A poll that looks ahead from the time of its check does what the round says. -/
theorem look_checked :
  p.look horizon { p.waiting n with checks := (List.range (n + 1)).map p.checkTime }
    = if !p.canLook horizon n then
        ⟨p.checkTime n, n, (List.range (n + 1)).map p.checkTime, [], some .cancelled⟩
      else if p.isLate n then
        ⟨p.checkTime n, n, (List.range (n + 1)).map p.checkTime, [], some (.expired n)⟩
      else p.waiting (n + 1)
  := by
  have hlook : (p.deadline.isSome
      && decide (horizon < (p.checkTime n + p.interval) * 1000000)) = !p.canLook horizon n := by
    rw [canLook, Bool.not_or, Option.not_isNone, ← decide_not]
    congr 2
    exact propext Nat.not_le.symm
  have hlate : (p.deadline.any fun d => d.total < (p.checkTime n + p.interval) * 1000000)
      = p.isLate n := rfl
  rw [look, waiting, hlook, hlate, waiting, checkTime_succ]

/-- Any other poll makes its check. -/
theorem pass_of_starts {cancelled : Bool} (h : (cancelled || !p.canStart horizon) = false)
    (finding : Finding) :
  p.pass horizon cancelled finding (p.waiting n)
    = let checked := { p.waiting n with checks := (List.range (n + 1)).map p.checkTime }
      match finding with
      | .ready =>
        { checked with
          runs := [p.checkTime n]
          outcome := some (if p.actionBreaks then .cancelled else .ran n) }
      | .broken => { checked with outcome := some .cancelled }
      | .notReady => p.look horizon checked
  := by
  obtain ⟨rfl, hstart⟩ : cancelled = false ∧ p.canStart horizon = true := by simpa using h
  rw [map_checkTime_succ, pass, if_neg (by simp [waiting]), if_neg (by simp [hstart])]
  cases finding <;> rfl

/-- A pass of the loop is a round of the poll. -/
theorem charts_pass {s : Status} {c : Course} (h : p.Charts c s) (cancelled : Bool)
    (finding : Finding) :
  p.Charts (p.pass horizon cancelled finding c) (p.turn horizon cancelled finding s)
  := by
  cases s with
  | ended outcome n acted =>
    have hended : c.outcome ≠ none := by simp [h.outcome]
    rw [pass_of_ended hended]
    exact h
  | waiting n =>
    obtain rfl : c = p.waiting n := h
    simp only [turn]
    cases hstops : cancelled || !p.canStart horizon with
    | true =>
      rw [pass_of_stops hstops]
      exact ⟨rfl, rfl, rfl⟩
    | false =>
      rw [pass_of_starts hstops]
      cases finding with
      | ready => exact ⟨rfl, rfl, rfl⟩
      | broken => exact ⟨rfl, rfl, rfl⟩
      | notReady =>
        simp only [look_checked]
        cases p.canLook horizon n with
        | false => exact ⟨rfl, rfl, rfl⟩
        | true =>
          cases p.isLate n with
          | true => exact ⟨rfl, rfl, rfl⟩
          | false => rfl

/-- A course is what the statuses of the poll say. -/
theorem charts_course (p : Poll) (horizon : Nat) (cancelled : Nat → Bool)
    (finding : Nat → Finding) (n : Nat) :
  p.Charts (p.course horizon cancelled finding n) (p.run horizon cancelled finding n)
  := by
  induction n with
  | zero => simp [Charts, course, run, waiting, checkTime]
  | succ n ih => exact charts_pass ih (cancelled n) (finding n)

/-- Nothing happens to a poll that ended. -/
theorem course_of_ended {m n : Nat} (h : m ≤ n)
    (hended : (p.course horizon cancelled finding m).outcome ≠ none) :
  p.course horizon cancelled finding n = p.course horizon cancelled finding m
  := by
  induction n, h using Nat.le_induction with
  | base => rfl
  | succ n _ ih => rw [course, ih, pass_of_ended hended]

/-! ### The last check -/

/-- The number of the last check that a deadline allows. -/
def lastCheck (p : Poll) (d : Span) : Nat :=
  if d.total < p.interval * 1000000 then 0
  else (d.total - p.interval * 1000000) / (p.wait * 1000000) + 1

theorem wait_pos (h : 0 < p.interval) :
  0 < p.wait
  := by
  rw [wait, waitTime, longestWait]
  omega

/-- A check is the last one, or later, if the deadline is over an interval after it. -/
theorem lastCheck_le_iff (h : 0 < p.interval) {d : Span} {n : Nat} :
  p.lastCheck d ≤ n ↔ d.total < (p.checkTime n + p.interval) * 1000000
  := by
  have hwait : 0 < p.wait * 1000000 := Nat.mul_pos (wait_pos h) (by decide)
  rw [lastCheck, checkTime, Nat.add_mul, Nat.mul_assoc]
  split
  · next hshort =>
    constructor
    · intro _
      omega
    · intro _
      apply Nat.zero_le
  · next hlong =>
    rw [Nat.add_one_le_iff, Nat.div_lt_iff_lt_mul hwait]
    omega

/-- If the interval is no longer than the longest wait, the last check is the deadline in
intervals. -/
theorem lastCheck_eq (hshort : p.interval ≤ longestWait) (h : 0 < p.interval) (d : Span) :
  p.lastCheck d = d.total / (p.interval * 1000000)
  := by
  have hpos : 0 < p.interval * 1000000 := Nat.mul_pos h (by decide)
  rw [lastCheck, wait, waitTime_of_le hshort]
  split
  · next hlt => rw [Nat.div_eq_of_lt hlt]
  · next hle => rw [Nat.div_eq_sub_div hpos (Nat.le_of_not_lt hle)]

theorem isLate_iff (h : 0 < p.interval) {n : Nat} :
  p.isLate n = true ↔ ∃ d, p.deadline = some d ∧ p.lastCheck d ≤ n
  := by
  simp only [lastCheck_le_iff h, isLate, Option.any_eq_true, decide_eq_true_eq]

/-- The last check is not later than an interval after the deadline. -/
theorem lookahead_le (d : Span) :
  (p.lastCheck d * p.wait + p.interval) * 1000000 ≤ d.total + p.interval * 1000000
  := by
  have hwait : p.wait ≤ p.interval := Nat.min_le_left _ _
  rw [lastCheck]
  split
  · rw [Nat.zero_mul, Nat.zero_add]
    exact Nat.le_add_left _ _
  · next hlong =>
    have hquot := Nat.add_le_of_le_sub (Nat.le_of_not_lt hlong)
      (Nat.div_mul_le_self (d.total - p.interval * 1000000) (p.wait * 1000000))
    rw [← Nat.mul_assoc] at hquot
    rw [Nat.add_mul _ 1, Nat.one_mul, Nat.add_right_comm, Nat.add_mul, Nat.add_mul]
    exact Nat.add_le_add hquot (Nat.mul_le_mul_right 1000000 hwait)

/-! ### How polls end -/

/-- Nothing ends a poll before a check: it is not cancelled, no check finds the resource ready or
breaks down, and the deadline is one that the clock can show and that allows for the check. -/
structure Reaches (p : Poll) (horizon : Nat) (cancelled : Nat → Bool) (finding : Nat → Finding)
    (n : Nat) : Prop where
  cancelled : ∀ j < n, cancelled j = false
  finding : ∀ j < n, finding j = .notReady
  deadline : ∀ d, p.deadline = some d → d.total ≤ horizon ∧ n ≤ p.lastCheck d

theorem Reaches.canStart (h : p.Reaches horizon cancelled finding n) :
  p.canStart horizon = true
  := canStart_iff.mpr fun d hd => (h.deadline d hd).1

/-- A poll that is not cancelled and not ready comes to the last check. -/
theorem reaches_lastCheck {d : Span} (hd : p.deadline = some d) (hshown : d.total ≤ horizon)
    (hidle : ∀ j ≤ p.lastCheck d, cancelled j = false ∧ finding j = .notReady) :
  p.Reaches horizon cancelled finding (p.lastCheck d)
  where
  cancelled j hj := (hidle j hj.le).1
  finding j hj := (hidle j hj.le).2
  deadline d' hd' := by
    rw [hd] at hd'
    obtain rfl := Option.some.inj hd'
    exact ⟨hshown, le_rfl⟩

theorem run_of_reaches (hinterval : 0 < p.interval) (h : p.Reaches horizon cancelled finding n) :
  p.run horizon cancelled finding n = .waiting n
  := by
  induction n with
  | zero => rfl
  | succ n ih =>
    have hbefore : p.Reaches horizon cancelled finding n :=
      ⟨fun j hj => h.cancelled j (by omega), fun j hj => h.finding j (by omega),
        fun d hd => by have := h.deadline d hd; omega⟩
    have hintime : p.isLate n = false := by
      rw [Bool.eq_false_iff]
      intro hlate
      obtain ⟨d, hd, hlast⟩ := (isLate_iff hinterval).mp hlate
      have hallows := (h.deadline d hd).2
      omega
    -- The deadline is not over an interval after the check, and the clock can show the deadline.
    have hlook : p.canLook horizon n = true := by
      rw [canLook_iff]
      intro d hd
      obtain ⟨hshown, hallows⟩ := h.deadline d hd
      have hlast := (lastCheck_le_iff hinterval (d := d) (n := n)).not.mp (by omega)
      exact (Nat.le_of_not_lt hlast).trans hshown
    rw [run, ih hbefore, h.cancelled n (by omega), h.finding n (by omega), turn]
    simp [hintime, hlook, h.canStart]

/-- A poll that has ended is ended from then on. -/
theorem ended_of_run {outcome : PollOutcome} {k : Nat} {acted : Bool}
    (hrun : p.run horizon cancelled finding n = .ended outcome k acted) {m : Nat} (hm : n ≤ m) :
  p.Ended outcome k (if acted then [p.checkTime (k - 1)] else [])
    (p.course horizon cancelled finding m)
  := by
  have hcharts := p.charts_course horizon cancelled finding n
  rw [hrun] at hcharts
  have hended : (p.course horizon cancelled finding n).outcome ≠ none := by
    rw [hcharts.outcome]
    exact Option.some_ne_none outcome
  rw [course_of_ended hm hended]
  exact hcharts

theorem ended_of_turn (hinterval : 0 < p.interval) (h : p.Reaches horizon cancelled finding n)
    {outcome : PollOutcome} {k : Nat} {acted : Bool}
    (hturn : p.turn horizon (cancelled n) (finding n) (.waiting n) = .ended outcome k acted)
    {m : Nat} (hm : n < m) :
  p.Ended outcome k (if acted then [p.checkTime (k - 1)] else [])
    (p.course horizon cancelled finding m)
  := by
  apply ended_of_run (n := n + 1) _ hm
  rw [run, run_of_reaches hinterval h, hturn]

section Exits

variable (hinterval : 0 < p.interval) (h : p.Reaches horizon cancelled finding n) {m : Nat}
  (hm : n < m)

include hinterval h hm

theorem ended_of_cancelled (hcancelled : cancelled n = true) :
  p.Ended .cancelled n [] (p.course horizon cancelled finding m)
  := by
  have hturn : p.turn horizon (cancelled n) (finding n) (.waiting n)
      = .ended .cancelled n false := by
    rw [hcancelled]
    rfl
  exact ended_of_turn hinterval h hturn hm

theorem ended_of_ready (hcancelled : cancelled n = false) (hfinding : finding n = .ready) :
  p.Ended (if p.actionBreaks then .cancelled else .ran n) (n + 1) [p.checkTime n]
    (p.course horizon cancelled finding m)
  := by
  have hturn : p.turn horizon (cancelled n) (finding n) (.waiting n)
      = .ended (if p.actionBreaks then .cancelled else .ran n) (n + 1) true := by
    rw [hcancelled, hfinding, turn, h.canStart]
    rfl
  exact ended_of_turn hinterval h hturn hm

theorem ended_of_broken (hcancelled : cancelled n = false) (hfinding : finding n = .broken) :
  p.Ended .cancelled (n + 1) [] (p.course horizon cancelled finding m)
  := by
  have hturn : p.turn horizon (cancelled n) (finding n) (.waiting n)
      = .ended .cancelled (n + 1) false := by
    rw [hcancelled, hfinding, turn, h.canStart]
    rfl
  exact ended_of_turn hinterval h hturn hm

/-- The look ahead from the last check ends the poll in any case. -/
theorem ended_of_late (hcancelled : cancelled n = false) (hfinding : finding n = .notReady)
    {d : Span} (hd : p.deadline = some d) (hlast : p.lastCheck d = n) :
  p.Ended (if (p.checkTime n + p.interval) * 1000000 ≤ horizon then .expired n else .cancelled)
    (n + 1) [] (p.course horizon cancelled finding m)
  := by
  have hlate : p.isLate n = true := (isLate_iff hinterval).mpr ⟨d, hd, hlast.le⟩
  have hlook : p.canLook horizon n = decide ((p.checkTime n + p.interval) * 1000000 ≤ horizon) := by
    rw [canLook, hd, Option.isNone_some, Bool.false_or]
  have hturn : p.turn horizon (cancelled n) (finding n) (.waiting n)
      = .ended (if (p.checkTime n + p.interval) * 1000000 ≤ horizon then .expired n
        else .cancelled) (n + 1) false := by
    rw [hcancelled, hfinding, turn, h.canStart, hlook, hlate]
    by_cases hshown : (p.checkTime n + p.interval) * 1000000 ≤ horizon
    · rw [if_pos hshown, decide_eq_true hshown]
      rfl
    · rw [if_neg hshown, decide_eq_false hshown]
      rfl
  exact ended_of_turn hinterval h hturn hm

end Exits

/-- A poll whose deadline its clock cannot show makes no check. -/
theorem ended_of_unshown {d : Span} (hd : p.deadline = some d) (hlong : horizon < d.total) {m : Nat}
    (hm : 0 < m) :
  p.Ended .cancelled 0 [] (p.course horizon cancelled finding m)
  := by
  have hstart : p.canStart horizon = false := by
    rw [Bool.eq_false_iff, ne_eq, canStart_iff]
    intro hshown
    exact absurd (hshown d hd) (Nat.not_le_of_lt hlong)
  have hrun : p.run horizon cancelled finding 1 = .ended .cancelled 0 false := by
    simp only [run, turn, hstart, Bool.not_false, Bool.or_true, if_true]
  exact ended_of_run hrun hm

/-- A poll can be cancelled by itself or by its parent.  As long as nothing ends it, its checks are
at the multiples of the wait.  It runs the action once, at the time of the first check that finds
the resource ready, if the deadline allows for that check; if no check up to the last one does, it
ends after the last one: it expires, unless the clock cannot show the time an interval later, at
which it breaks down.  If the clock cannot show the deadline itself, the poll breaks down before any
check.  Cancelled before a check, it does not make that check; a check that breaks down is its last;
and none of these runs the action.  The clock can show all that is needed if it can show the time an
interval after the deadline.  With an interval that is no longer than the longest wait, the wait is
the interval, and the last check is the deadline in intervals. -/
theorem course_outcome (p : Poll) (hinterval : 0 < p.interval) (horizon : Nat)
    (own parent : Nat → Bool) (finding : Nat → Finding) :
  let cancelled j := own j || parent j
  let after := p.course horizon cancelled finding
  (∀ n, p.Reaches horizon cancelled finding n →
      after n = ⟨n * p.wait, n, (List.range n).map fun k => k * p.wait, [], none⟩)
    ∧ (∀ n, p.Reaches horizon cancelled finding n → cancelled n = false → finding n = .ready →
      ∀ m > n, p.Ended (if p.actionBreaks then .cancelled else .ran n) (n + 1) [n * p.wait]
        (after m))
    ∧ (∀ d, p.deadline = some d → d.total ≤ horizon →
      let last := p.lastCheck d
      (∀ j ≤ last, cancelled j = false ∧ finding j = .notReady) →
      ∀ m > last,
        p.Ended (if (last * p.wait + p.interval) * 1000000 ≤ horizon then .expired last
          else .cancelled) (last + 1) [] (after m))
    ∧ (∀ d, p.deadline = some d → horizon < d.total → ∀ m > 0, p.Ended .cancelled 0 [] (after m))
    ∧ (∀ n, p.Reaches horizon cancelled finding n → own n = true ∨ parent n = true →
      ∀ m > n, p.Ended .cancelled n [] (after m))
    ∧ (∀ n, p.Reaches horizon cancelled finding n → cancelled n = false → finding n = .broken →
      ∀ m > n, p.Ended .cancelled (n + 1) [] (after m))
    ∧ (∀ d n, p.lastCheck d ≤ n ↔ d.total < (n * p.wait + p.interval) * 1000000)
    ∧ (∀ d, d.total + p.interval * 1000000 ≤ horizon →
      d.total ≤ horizon ∧ (p.lastCheck d * p.wait + p.interval) * 1000000 ≤ horizon)
    ∧ (p.interval ≤ longestWait → p.wait = p.interval
      ∧ ∀ d, p.lastCheck d = d.total / (p.interval * 1000000)
        ∧ ∀ n, n ≤ p.lastCheck d ↔ n * p.interval * 1000000 ≤ d.total)
  := by
  intro cancelled after
  refine ⟨?waits, ?ready, ?late, ?unshown, ?cancelled, ?broken, ?last, ?shown, ?short⟩
  case waits =>
    intro n h
    have hcharts := p.charts_course horizon cancelled finding n
    rw [run_of_reaches hinterval h] at hcharts
    exact hcharts
  case ready =>
    intro n h hcancelled hfinding m hm
    exact ended_of_ready hinterval h hm hcancelled hfinding
  case late =>
    intro d hd hshown last hidle m hm
    have h := reaches_lastCheck hd hshown hidle
    obtain ⟨hcancelled, hfinding⟩ := hidle last le_rfl
    exact ended_of_late hinterval h hm hcancelled hfinding hd rfl
  case unshown =>
    intro d hd hlong m hm
    exact ended_of_unshown hd hlong hm
  case cancelled =>
    intro n h hcancelled m hm
    apply ended_of_cancelled hinterval h hm
    simpa [cancelled] using hcancelled
  case broken =>
    intro n h hcancelled hfinding m hm
    exact ended_of_broken hinterval h hm hcancelled hfinding
  case last =>
    intro d n
    exact lastCheck_le_iff hinterval
  case shown =>
    intro d hd
    exact ⟨(Nat.le_add_right _ _).trans hd, (p.lookahead_le d).trans hd⟩
  case short =>
    intro hshort
    refine ⟨waitTime_of_le hshort, ?_⟩
    intro d
    have hpos : 0 < p.interval * 1000000 := Nat.mul_pos hinterval (by decide)
    rw [lastCheck_eq hshort hinterval]
    refine ⟨rfl, ?_⟩
    intro n
    rw [Nat.le_div_iff_mul_le hpos, Nat.mul_assoc]

/-- The resource is found ready at a deadline two intervals away, or it never is; or the clock
cannot show the time an interval after that deadline, or not even the deadline. -/
theorem course_outcome_instance :
  let p : Poll := ⟨10, some (Span.ofMillis 20), false⟩
  let never (_ : Nat) : Bool := false
  let third (n : Nat) : Finding := if n = 2 then .ready else .notReady
  let idle (_ : Nat) : Finding := .notReady
  0 < p.interval
    ∧ (∀ m > 2, p.Ended (.ran 2) 3 [20]
      (p.course clockRange (fun j => never j || never j) third m))
    ∧ (∀ m > 2, p.Ended (.expired 2) 3 []
      (p.course clockRange (fun j => never j || never j) idle m))
    ∧ (∀ m > 2, p.Ended .cancelled 3 [] (p.course 29999999 (fun j => never j || never j) idle m))
    ∧ (∀ m > 0, p.Ended .cancelled 0 [] (p.course 19999999 (fun j => never j || never j) third m))
  := by
  intro p never third idle
  have hinterval : 0 < p.interval := by decide
  obtain ⟨-, hready, -⟩ := course_outcome p hinterval clockRange never never third
  obtain ⟨-, -, hlate, -⟩ := course_outcome p hinterval clockRange never never idle
  obtain ⟨-, -, hblind, -⟩ := course_outcome p hinterval 29999999 never never idle
  obtain ⟨-, -, -, hunshown, -⟩ := course_outcome p hinterval 19999999 never never third
  have hthird : p.Reaches clockRange (fun j => never j || never j) third 2 := by
    refine ⟨by decide, by decide, ?_⟩
    rintro d ⟨⟩
    decide +kernel
  have hlast : p.lastCheck (Span.ofMillis 20) = 2 := by decide
  have hexpired := hlate (Span.ofMillis 20) rfl (by decide +kernel) fun j _ => ⟨rfl, rfl⟩
  have hbroken := hblind (Span.ofMillis 20) rfl (by decide +kernel) fun j _ => ⟨rfl, rfl⟩
  rw [hlast, if_pos (by decide +kernel)] at hexpired
  rw [hlast, if_neg (by decide +kernel)] at hbroken
  exact ⟨hinterval, hready 2 hthird rfl rfl, hexpired, hbroken,
    hunshown (Span.ofMillis 20) rfl (by decide +kernel)⟩

/-- A poll whose interval is longer than the longest wait checks before the interval is over; one
whose deadline the clock cannot show makes no check at all, and one that looks ahead to a time that
the clock cannot show does not expire. -/
theorem check_before_interval :
  let p : Poll := ⟨946080000001, none, false⟩
  let second (n : Nat) : Finding := if n = 1 then .ready else .notReady
  let c := p.course clockRange (fun _ => false) second 2
  let endless : Poll := ⟨1000, some ⟨9223372036854775808, 0⟩, false⟩
  let blind : Poll := ⟨9223372036854775808000, some (Span.ofMillis 1), false⟩
  (c.outcome = some (.ran 1) ∧ c.checks = [0, 946080000000] ∧ c.runs = [946080000000]
    ∧ c.checks ≠ [0 * p.interval, 1 * p.interval] ∧ c.runs ≠ [1 * p.interval])
    ∧ endless.course clockRange (fun _ => false) (fun _ => .ready) 1
      = ⟨0, 0, [], [], some .cancelled⟩
    ∧ blind.course clockRange (fun _ => false) (fun _ => .notReady) 1
      = ⟨0, 0, [0], [], some .cancelled⟩
  := by
  decide +kernel

end Poll

end TaskDesk
