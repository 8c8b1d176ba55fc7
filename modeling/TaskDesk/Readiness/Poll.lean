import TaskDesk.Time.Span
import TaskDesk.Time.Wait

/-!
# Readiness polls

A `Poll` asks at once and then again after every interval whether a resource is ready, and
runs an action as soon as it is.  Times are in milliseconds; a deadline may be any span.
`Poll.turn` is one round: a poll that was cancelled in the meantime ends, any other makes a
check; a check that finds the resource not ready ends the poll if an interval after it the
deadline would be over.  `Poll.run` is the status after a number of rounds.

A poll with a deadline works with times that may be later than any its clock can show, and breaks
down when it comes to one: at the start, where the deadline is too long, or after a check, where
the interval is.  The `horizon` is how many nanoseconds after the start the clock can show.
-/

namespace TaskDesk

/-- What a check finds: the resource is ready, it is not, or the check breaks down. -/
inductive Finding where
  | ready
  | notReady
  | broken
deriving DecidableEq, Repr

/-- How a poll ended. -/
inductive PollOutcome where
  | ran (reschedules : Nat)
  | cancelled
  | expired (reschedules : Nat)
deriving DecidableEq, Repr

/-- How often a poll checks and how long it waits; `actionBreaks` if the action breaks down. -/
structure Poll where
  interval : Nat
  deadline : Option Span
  actionBreaks : Bool := false
deriving DecidableEq, Repr, Inhabited

namespace Poll

/-- The interval of a poll for which none is given. -/
def defaultInterval : Nat := 100

/-- Where a poll stands: how many checks it has made, and how it ended and whether the action
was started. -/
inductive Status where
  | waiting (checks : Nat)
  | ended (outcome : PollOutcome) (checks : Nat) (acted : Bool)
deriving DecidableEq, Repr, Inhabited

namespace Status

/-- How many checks were made. -/
def checks : Status → Nat
  | .waiting n => n
  | .ended _ n _ => n

/-- Whether the poll has ended. -/
def isEnded : Status → Bool
  | .waiting _ => false
  | .ended _ _ _ => true

/-- Whether the action was started. -/
def acted : Status → Bool
  | .waiting _ => false
  | .ended _ _ acted => acted

end Status

/-- The time between two checks. -/
def wait (p : Poll) : Nat := waitTime p.interval

/-- The time of a check, counted from the first. -/
def checkTime (p : Poll) (n : Nat) : Nat := n * p.wait

/-- Whether the deadline is over an interval after a check. -/
def isLate (p : Poll) (n : Nat) : Bool :=
  p.deadline.any fun d => d.total < (p.checkTime n + p.interval) * 1000000

/-- Whether the clock can show the deadline. -/
def canStart (p : Poll) (horizon : Nat) : Bool :=
  p.deadline.all fun d => d.total ≤ horizon

/-- Whether the clock can show the time an interval after a check.  Only a poll with a deadline
asks. -/
def canLook (p : Poll) (horizon n : Nat) : Bool :=
  p.deadline.isNone || (p.checkTime n + p.interval) * 1000000 ≤ horizon

/-- The status after a round.  A poll that breaks down is as good as cancelled. -/
def turn (p : Poll) (horizon : Nat) (cancelled : Bool) (finding : Finding) : Status → Status
  | .ended outcome n acted => .ended outcome n acted
  | .waiting n =>
    if cancelled || !p.canStart horizon then .ended .cancelled n false
    else
      match finding with
      | .ready => .ended (if p.actionBreaks then .cancelled else .ran n) (n + 1) true
      | .broken => .ended .cancelled (n + 1) false
      | .notReady =>
        if !p.canLook horizon n then .ended .cancelled (n + 1) false
        else if p.isLate n then .ended (.expired n) (n + 1) false
        else .waiting (n + 1)

/-- The status after a number of rounds, where `cancelled n` says whether the poll is cancelled
before the check `n`, and `finding n` what that check finds. -/
def run (p : Poll) (horizon : Nat) (cancelled : Nat → Bool) (finding : Nat → Finding) :
    Nat → Status
  | 0 => .waiting 0
  | n + 1 => p.turn horizon (cancelled n) (finding n) (p.run horizon cancelled finding n)

/-- Whether a poll cancelled at a time is cancelled before a check.  What happens at the time
of a check comes before the check. -/
def cancelledBefore (p : Poll) (at? : Option Nat) (n : Nat) : Bool :=
  at?.any fun t => t ≤ p.checkTime n

/-- What a check finds if the resource is ready from a time on. -/
def readyFrom (p : Poll) (time n : Nat) : Finding :=
  if time ≤ p.checkTime n then .ready else .notReady

/-- The number of checks before a time, of a poll that makes at most `most`. -/
def checksBefore (p : Poll) (most time : Nat) : Nat :=
  if time = 0 then 0
  else if p.wait = 0 then most
  else min most ((time + p.wait - 1) / p.wait)

end Poll

end TaskDesk
