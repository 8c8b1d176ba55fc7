/-!
# Waiting and the clock

No single wait lasts longer than thirty years; one that is asked to goes on after that time.
Waits are in milliseconds.  A clock counts nanoseconds, and cannot show any time from 2 ^ 63
seconds on.
-/

namespace TaskDesk

/-- The longest wait: thirty years of 365 days. -/
def longestWait : Nat := 30 * 365 * 24 * 60 * 60 * 1000

/-- How long a wait lasts that is asked to last for a time. -/
def waitTime (asked : Nat) : Nat := min asked longestWait

/-- The last time that a clock can show, in nanoseconds. -/
def clockRange : Nat := 9223372036854775807999999999

theorem waitTime_of_le {asked : Nat} (h : asked ≤ longestWait) :
  waitTime asked = asked
  := Nat.min_eq_left h

end TaskDesk
