import TaskDesk.Readiness.Poll

/-!
# Polls that can be cancelled

A `Watch` is a poll that was started when the clock showed zero, with what its checks find and the
time at which it is cancelled.  `Watch.stopTime` is that time among events: a watch can be
cancelled by itself, or together with all that have the shared parent.
-/

namespace TaskDesk

/-- A poll with the time of its cancellation, if there is one, and what its checks find. -/
structure Watch where
  poll : Poll
  stop : Option Nat
  finding : Nat → Finding

namespace Watch

/-- What happens while watches run: one is cancelled, the parent is, or nothing. -/
inductive Event where
  | cancel (watch : Nat)
  | cancelParent
  | probe
deriving DecidableEq, Repr

/-- Whether an event cancels a watch. -/
def Event.stops (watch : Nat) (hasParent : Bool) : Event → Bool
  | .cancel i => i = watch
  | .cancelParent => hasParent
  | .probe => false

/-- The time of the first event that satisfies a test. -/
def firstTime (test : Event → Bool) (events : List (Nat × Event)) : Option Nat :=
  (events.find? fun e => test e.2).map Prod.fst

/-- The time at which events, sorted by time, cancel a watch. -/
def stopTime (watch : Nat) (hasParent : Bool) (events : List (Nat × Event)) : Option Nat :=
  firstTime (Event.stops watch hasParent) events

/-- The status of the poll after a number of rounds. -/
def status (w : Watch) (n : Nat) : Poll.Status :=
  w.poll.run clockRange (w.poll.cancelledBefore w.stop) w.finding n

/-- Whether the poll has ended before a time, if it makes at most `most` checks. -/
def endedBefore (w : Watch) (most time : Nat) : Bool :=
  w.stop.any (· < time) || (!w.poll.canStart clockRange && 0 < time)
    || (w.status (w.poll.checksBefore most time)).isEnded

end Watch

end TaskDesk
