/-!
# The civil calendar

Dates of the Gregorian calendar, carried on without end in both directions; there is a year zero.
A date is a number of days from the first of January 1970 (`Date.toDays`, `Date.ofDays`).
-/

namespace MotionTutor

structure Date where
  year : Int
  month : Nat
  day : Nat
deriving DecidableEq, Repr

namespace Date

/-! ## 1. Years -/

/-- Every fourth year, but of the full centuries only every fourth. -/
def isLeap (year : Int) : Bool := year % 4 = 0 && (year % 100 ≠ 0 || year % 400 = 0)

/-- The days from the beginning of year zero to the beginning of a year: 365 for each year between
and one more for each leap year. -/
def daysBeforeYear (year : Int) : Int :=
  let past := year - 1
  365 * year + past / 4 - past / 100 + past / 400 + 1

/-- The year of a day counted from the beginning of year zero. Four centuries have 146097 days, so
the quotient of the two is the year or the one before it. -/
def yearOf (day : Int) : Int :=
  let year := (day - 2) * 400 / 146097
  if daysBeforeYear (year + 1) ≤ day then year + 1 else year

/-! ## 2. Months -/

def monthLengths (leap : Bool) : List Nat :=
  [31, if leap then 29 else 28, 31, 30, 31, 30, 31, 31, 30, 31, 30, 31]

/-- How many of the lengths fit into a number of days, and the days left over. -/
def passed : List Nat → Nat → Nat × Nat
  | [], days => (0, days)
  | length :: lengths, days =>
    if days < length then (0, days)
    else
      let (count, left) := passed lengths (days - length)
      (count + 1, left)

/-- The days in the first lengths, `count` of them. -/
def daysIn : List Nat → Nat → Nat
  | length :: lengths, count + 1 => length + daysIn lengths count
  | _, _ => 0

/-! ## 3. Dates -/

/-- Whether the calendar has the date. -/
def isReal (d : Date) : Bool :=
  1 ≤ d.month && 1 ≤ d.day && (monthLengths (isLeap d.year))[d.month - 1]?.any (d.day ≤ ·)

/-- The first of January 1970, counted from the beginning of year zero. -/
def epoch : Int := 719528

/-- The days from the first of January 1970 to a date. -/
def toDays (d : Date) : Int :=
  let inMonths := daysIn (monthLengths (isLeap d.year)) (d.month - 1)
  daysBeforeYear d.year + inMonths + (d.day - 1) - epoch

/-- The date that many days from the first of January 1970. -/
def ofDays (days : Int) : Date :=
  let day := days + epoch
  let year := yearOf day
  let (months, left) := passed (monthLengths (isLeap year)) (day - daysBeforeYear year).toNat
  ⟨year, months + 1, left + 1⟩

end Date

end MotionTutor
