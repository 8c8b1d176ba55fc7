import TaskDesk.Readiness.Poll
import TaskDesk.Task.Record

/-!
# Dispatching tasks

A `Dispatcher` hands a task on as soon as its execution context is ready.  Every scheduled
task is a `Job` with a poll of its own; when the poll succeeds, a `Request` with what the
record held when it was scheduled goes to the end of the queue, if the queue is still open.
Jobs can be cancelled one by one or all together by shutting down.  `Dispatcher.play` lets
time pass: among the events given in advance and the checks of the jobs what is earlier
comes first, and an event comes before a check at the same time.  Times are counted from when the
dispatcher was made, and its clock can show as many nanoseconds after that as its `horizon` says.
-/

namespace TaskDesk

/-- A task handed on for execution. -/
structure Request where
  taskId : String
  taskName : String
  taskType : String
  limit : Span
  properties : Properties
deriving Repr, Inhabited

/-- The request for a record as it is now. -/
def Request.ofRecord (r : Record) : Request :=
  ⟨r.id, r.name, r.taskType, r.limit, r.properties⟩

/-- A scheduled task: its request, the time of the first check, and where its poll stands. -/
structure Job where
  request : Request
  start : Nat
  status : Poll.Status
  cancelled : Bool
deriving Repr, Inhabited

/-- The jobs and the queue of handed on tasks. -/
structure Dispatcher where
  poll : Poll
  horizon : Nat
  jobs : List Job
  queue : List Request
  isClosed : Bool
  isDown : Bool
deriving Repr, Inhabited

namespace Dispatcher

/-- A dispatcher without jobs, made when the clock shows zero. -/
def new (interval : Nat) (deadline : Option Span) : Dispatcher :=
  ⟨{ interval, deadline }, clockRange, [], [], false, false⟩

/-- What happens to a dispatcher. -/
inductive Action where
  | schedule (time : Nat) (r : Record)
  | check (job : Nat) (finding : Finding)
  | cancel (job : Nat)
  | shutDown
  | closeQueue

/-- How many nanoseconds after the start of a job the clock can show. -/
def horizonOf (d : Dispatcher) (job : Job) : Nat :=
  d.horizon - job.start * 1000000

/-- The dispatcher after the round of a job. -/
def check (d : Dispatcher) (i : Nat) (finding : Finding) : Dispatcher :=
  match d.jobs[i]? with
  | none => d
  | some job =>
    let status := d.poll.turn (d.horizonOf job) (job.cancelled || d.isDown) finding job.status
    let hands := !job.status.acted && status.acted && !d.isClosed
    { d with
      jobs := d.jobs.set i { job with status }
      queue := if hands then d.queue ++ [job.request] else d.queue }

/-- The dispatcher after an action. -/
def apply (d : Dispatcher) : Action → Dispatcher
  | .schedule time r => { d with jobs := d.jobs ++ [⟨.ofRecord r, time, .waiting 0, false⟩] }
  | .check i finding => d.check i finding
  | .cancel i => { d with jobs := d.jobs.modify i fun job => { job with cancelled := true } }
  | .shutDown => { d with isDown := true }
  | .closeQueue => { d with isClosed := true }

/-- The dispatcher after actions, the first one first. -/
def run (d : Dispatcher) (actions : List Action) : Dispatcher :=
  actions.foldl apply d

/-- The time of the next check of a job that has not ended. -/
def nextTime? (d : Dispatcher) (job : Job) : Option Nat :=
  match job.status with
  | .waiting n => some (job.start + d.poll.checkTime n)
  | .ended _ _ _ => none

/-- The earliest check that is due, as its time and the place of its job; of several at the
same time the first. -/
def nextCheck? (d : Dispatcher) : Option (Nat × Nat) :=
  d.jobs.zipIdx.foldl (fun best (job, i) =>
    match d.nextTime? job, best with
    | none, best => best
    | some t, none => some (t, i)
    | some t, some (t', i') => if t < t' then some (t, i) else some (t', i')) none

/-- Lets time pass, with at most `fuel` events and checks.  `finding job n time` is what the
check `n` of a job at a time finds. -/
def play (finding : Nat → Nat → Nat → Finding) :
    Nat → List (Nat × Action) → Dispatcher → Dispatcher
  | 0, _, d => d
  | fuel + 1, events, d =>
    let look (t i : Nat) : Dispatcher :=
      let n := (d.jobs[i]?.map fun job => job.status.checks).getD 0
      d.check i (finding i n t)
    match events, d.nextCheck? with
    | [], none => d
    | [], some (t, i) => play finding fuel [] (look t i)
    | (_, action) :: rest, none => play finding fuel rest (d.apply action)
    | (time, action) :: rest, some (t, i) =>
      if t < time then play finding fuel ((time, action) :: rest) (look t i)
      else play finding fuel rest (d.apply action)

/-- Whether all jobs have ended. -/
def isIdle (d : Dispatcher) : Bool :=
  d.jobs.all fun job => job.status.isEnded

end Dispatcher

end TaskDesk
