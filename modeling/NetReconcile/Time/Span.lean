/-!
# Spans of time and the calendar's range

A span is a signed count of nanoseconds, bounded by what a signed 64-bit count of
milliseconds can hold. An instant is a count of nanoseconds since 1970-01-01T00:00:00Z
within the calendar's range, from the first day of year -262143 to the last nanosecond
of year 262142; moving an instant by a span is refused when the result leaves that range.
-/

namespace NetReconcile.Time

/-- Nanoseconds in a second. -/
def nanosPerSecond : Int := 1000000000

/-- A signed span of time in nanoseconds. -/
structure Span where
  nanos : Int
  deriving DecidableEq, Repr

/-- The largest magnitude of a span: `2 ^ 63 - 1` milliseconds. -/
def Span.bound : Int := 9223372036854775807 * 1000000

/-- The longest span. -/
def Span.max : Span := ⟨Span.bound⟩

/-- The most negative span. -/
def Span.min : Span := ⟨-Span.bound⟩

/-- A span of whole seconds. -/
def Span.ofSeconds (s : Int) : Span := ⟨s * nanosPerSecond⟩

/-- A span of whole seconds, or none when it is longer, either way, than the longest span. -/
def Span.trySeconds (s : Int) : Option Span :=
  if -Span.bound ≤ s * nanosPerSecond ∧ s * nanosPerSecond ≤ Span.bound then some (Span.ofSeconds s)
  else none

/-- The whole seconds of a span, rounded toward zero. -/
def Span.wholeSeconds (d : Span) : Int := d.nanos.tdiv nanosPerSecond

/-- The seconds part of a span, rounded down, so that the nanosecond part is never negative. -/
def Span.secondsPart (d : Span) : Int := d.nanos.fdiv nanosPerSecond

/-- The nanosecond part of a span, from 0 below one second. -/
def Span.nanosPart (d : Span) : Int := d.nanos.fmod nanosPerSecond

/-- Days from 1970-01-01 to a date of the proleptic Gregorian calendar. -/
def daysFromCivil (y : Int) (m d : Nat) : Int :=
  let y := if m ≤ 2 then y - 1 else y
  let era := y.fdiv 400
  let yoe := y - era * 400
  let mp : Int := if m > 2 then (m : Int) - 3 else (m : Int) + 9
  let doy := (153 * mp + 2) / 5 + (d : Int) - 1
  let doe := yoe * 365 + yoe / 4 - yoe / 100 + doy
  era * 146097 + doe - 719468

/-- The date of a day counted from 1970-01-01: year, month and day of month. -/
def civilFromDays (z : Int) : Int × Nat × Nat :=
  let z := z + 719468
  let era := z.fdiv 146097
  let doe := z - era * 146097
  let yoe := (doe - doe / 1460 + doe / 36524 - doe / 146096) / 365
  let y := yoe + era * 400
  let doy := doe - (365 * yoe + yoe / 4 - yoe / 100)
  let mp := (5 * doy + 2) / 153
  let d := doy - (153 * mp + 2) / 5 + 1
  let m := if mp < 10 then mp + 3 else mp - 9
  (if m ≤ 2 then y + 1 else y, m.toNat, d.toNat)

/-- Whether a year is a leap year. -/
def isLeapYear (y : Int) : Bool := (y % 4 == 0 && y % 100 != 0) || y % 400 == 0

/-- Days in a month of a year. -/
def daysInMonth (y : Int) (m : Nat) : Nat :=
  if m = 2 then (if isLeapYear y then 29 else 28)
  else if m = 4 ∨ m = 6 ∨ m = 9 ∨ m = 11 then 30 else 31

/-- Seconds in a day. -/
def secondsPerDay : Int := 86400

/-- The first year of the calendar. -/
def calendarFirstYear : Int := -262143

/-- The last year of the calendar. -/
def calendarLastYear : Int := 262142

/-- The first instant of the calendar: its first year, January 1st, midnight. -/
def Instant.first : Int := daysFromCivil calendarFirstYear 1 1 * secondsPerDay * nanosPerSecond

/-- The last instant of the calendar: its last year, December 31st, one nanosecond before
midnight. -/
def Instant.last : Int :=
  (daysFromCivil calendarLastYear 12 31 + 1) * secondsPerDay * nanosPerSecond - 1

/-- An instant moved by a span, when the result stays within the calendar. -/
def Instant.shift? (t : Int) (d : Span) : Option Int :=
  let r := t + d.nanos
  if Instant.first ≤ r ∧ r ≤ Instant.last then some r else none

end NetReconcile.Time
