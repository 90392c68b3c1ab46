/-!
Instants: points of time on the UTC scale, to the nanosecond. A leap second has the number of the
second before it and a fraction of a second or more, so it comes after that second and before the
next one. Instants are ordered by the second and then by the fraction, whatever offset they were
written with.
-/

set_option autoImplicit false

namespace Gatehouse

/-- A point of time: whole seconds since the start of 1970, and nanoseconds after them. -/
structure Instant where
  second : Int
  nano : Nat
  deriving DecidableEq, Repr, Inhabited

namespace Instant

/-- The first instant is earlier than the second. -/
def before (a b : Instant) : Bool :=
  decide (a.second < b.second) || decide (a.second = b.second) && decide (a.nano < b.nano)

theorem before_iff {a b : Instant} :
    a.before b = true ↔ a.second < b.second ∨ a.second = b.second ∧ a.nano < b.nano := by
  simp [before]

/-! ## The calendar -/

/-- The year has a 29th of February. -/
def isLeapYear (year : Int) : Bool :=
  decide (year % 4 = 0) && (decide (year % 100 ≠ 0) || decide (year % 400 = 0))

/-- The lengths of the months of a year. -/
def monthLengths (year : Int) : List Nat :=
  [31, if isLeapYear year then 29 else 28, 31, 30, 31, 30, 31, 31, 30, 31, 30, 31]

/-- A calendar date exists: the month is one of twelve and has the day. -/
def isDate (year : Int) (month day : Nat) : Bool :=
  decide (1 ≤ month) && decide (month ≤ 12) && decide (1 ≤ day) &&
    decide (day ≤ (monthLengths year).getD (month - 1) 0)

/-- Days from the first day of year 1 to the first day of a year. -/
def daysBeforeYear (year : Int) : Int :=
  365 * (year - 1) + (year - 1) / 4 - (year - 1) / 100 + (year - 1) / 400

/-- Days from the first day of a year to the first day of a month of it. -/
def daysBeforeMonth (year : Int) (month : Nat) : Nat :=
  ((monthLengths year).take (month - 1)).foldl (fun days length => days + length) 0

/-- Days from the start of 1970 to a date. -/
def dayNumber (year : Int) (month day : Nat) : Int :=
  daysBeforeYear year - daysBeforeYear 1970 + daysBeforeMonth year month + day - 1

/-- A date and a time of day, read on a clock that is `offset` seconds ahead of UTC. The second 60
is a leap second. -/
def ofClock (year : Int) (month day hour minute second nano : Nat) (offset : Int) : Instant :=
  let leap := second = 60
  { second := dayNumber year month day * 86400 + hour * 3600 + minute * 60 +
      (if leap then 59 else second : Nat) - offset
    nano := if leap then nano + 1000000000 else nano }

end Instant

end Gatehouse
