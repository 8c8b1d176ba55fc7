/-!
# Spans of time

A `Span` is a length of time in seconds and nanoseconds.  A time limit is a span; the span
of no length stands for no limit.
-/

namespace TaskDesk

/-- A length of time, in seconds and nanoseconds. -/
structure Span where
  seconds : Nat
  nanos : Nat
deriving DecidableEq, Repr, Inhabited

namespace Span

/-- No time. -/
def zero : Span := ⟨0, 0⟩

/-- A whole number of seconds. -/
def ofSeconds (n : Nat) : Span := ⟨n, 0⟩

/-- A whole number of milliseconds. -/
def ofMillis (n : Nat) : Span := ⟨n / 1000, n % 1000 * 1000000⟩

/-- Where a span is asked for, a number stands for milliseconds. -/
instance : Coe Nat Span := ⟨ofMillis⟩

/-- The length in nanoseconds. -/
def total (s : Span) : Nat := s.seconds * 1000000000 + s.nanos

/-- Whether a span has no length. -/
def isZero (s : Span) : Bool := s.seconds == 0 && s.nanos == 0

theorem isZero_iff {s : Span} :
  s.isZero = true ↔ s = zero
  := by
  cases s
  simp [isZero, zero]

end Span

end TaskDesk
