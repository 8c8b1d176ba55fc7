import TaskDesk.Time.Timestamp

/-!
# Time since 1970

`Timestamp.ofUnixNanos` is the point in time a number of nanoseconds after the start of the
year 1970 in UTC.
-/

namespace TaskDesk.Timestamp

/-- The date a number of days after the first of March of the year 0, as year, month and day.
Years are counted from March here, so that the leap day is the last day of a year. -/
def dateOfDays (days : Nat) : Nat × Nat × Nat :=
  let era := days / 146097
  let dayOfEra := days % 146097
  let yearOfEra := (dayOfEra - dayOfEra / 1460 + dayOfEra / 36524 - dayOfEra / 146096) / 365
  let dayOfYear := dayOfEra - (365 * yearOfEra + yearOfEra / 4 - yearOfEra / 100)
  let month := (5 * dayOfYear + 2) / 153
  let day := dayOfYear - (153 * month + 2) / 5 + 1
  let year := 400 * era + yearOfEra
  if month < 10 then (year, month + 3, day) else (year + 1, month - 9, day)

/-- The point in time a number of nanoseconds after the start of 1970. -/
def ofUnixNanos (n : Nat) : Timestamp :=
  let seconds := n / 1000000000
  let (year, month, day) := dateOfDays (seconds / 86400 + 719468)
  let second := seconds % 86400
  ⟨year, month, day, second / 3600, second / 60 % 60, second % 60, n % 1000000000⟩

end TaskDesk.Timestamp
