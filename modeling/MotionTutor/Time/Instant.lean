import MotionTutor.Decimal.Digits
import MotionTutor.Time.Calendar
import MotionTutor.Time.Duration

/-!
# Points in time and their texts

A point in time is a number of seconds from the beginning of 1970 and nanoseconds on top of it. Its
text is a date and a time of day, `2024-03-09T18:30:15Z`, in universal time and to the second.

Texts are read as RFC 3339 has them:

* the year has four digits, the other numbers two, and the date must exist;
* between date and time stands `T`, `t` or a blank;
* the seconds may have decimals, of which nine count;
* at the end stands `Z` or `z`, or the distance from universal time, less than a day, with a sign;
* a second numbered 60 is a leap second. It is counted as the second before it with one more second
  of nanoseconds, so that it keeps a text of its own.
-/

namespace MotionTutor

/-- A point in time. From `10 ^ 9` on, the nanoseconds are those of a leap second. -/
structure Instant where
  seconds : Int
  nanos : Nat
deriving DecidableEq, Repr

namespace Instant

def secondsPerDay : Nat := 86400

/-! ## 1. Writing -/

/-- The year with four digits; a year that has no such form with its sign before it. -/
def yearText (year : Int) : List Char :=
  let digits := Decimal.padded 4 year.natAbs
  if year < 0 then '-' :: digits else if 9999 < year then '+' :: digits else digits

/-- The time of day in universal time, in seconds. -/
def timeOfDay (t : Instant) : Nat := (t.seconds % secondsPerDay).toNat

def date (t : Instant) : Date := .ofDays (t.seconds / secondsPerDay)

def isLeapSecond (t : Instant) : Bool := nanosPerSecond ≤ t.nanos

def chars (t : Instant) : List Char :=
  let two := Decimal.padded 2
  let second := t.timeOfDay % 60 + if t.isLeapSecond then 1 else 0
  yearText t.date.year ++ '-' :: two t.date.month ++ '-' :: two t.date.day ++
    'T' :: two (t.timeOfDay / 3600) ++ ':' :: two (t.timeOfDay / 60 % 60) ++ ':' :: two second ++
    ['Z']

/-- The point in time as a text, to the second. -/
def text (t : Instant) : String := String.ofList t.chars

/-- What the text of a point in time keeps of it. -/
def truncated (t : Instant) : Instant :=
  ⟨t.seconds, if t.isLeapSecond then nanosPerSecond else 0⟩

/-! ## 2. Reading -/

/-- A number of exactly `count` digits at the front. -/
def takeNumber (count : Nat) (cs : List Char) : Option (Nat × List Char) :=
  let digits := cs.take count
  if digits.length = count ∧ digits.all Char.isDigit then
    some (Decimal.valueOf digits, cs.drop count)
  else none

/-- One of the given characters at the front. -/
def expect (allowed : List Char) : List Char → Option (List Char)
  | c :: cs => if c ∈ allowed then some cs else none
  | [] => none

/-- The decimals of a second as nanoseconds, if a point is at the front. -/
def takeDecimals : List Char → Option (Nat × List Char)
  | '.' :: cs =>
    let digits := cs.takeWhile Char.isDigit
    if digits = [] then none
    else some (Decimal.valueOf ((digits.take 9).rightpad 9 '0'), cs.dropWhile Char.isDigit)
  | cs => some (0, cs)

/-- The distance from universal time in seconds, at the end of a text. -/
def readOffset : List Char → Option Int
  | ['Z'] | ['z'] => some 0
  | sign :: cs => do
    let (hours, cs) ← takeNumber 2 cs
    let cs ← expect [':'] cs
    let (minutes, cs) ← takeNumber 2 cs
    guard (hours ≤ 23 ∧ minutes ≤ 59 ∧ cs = [])
    let size : Int := hours * 3600 + minutes * 60
    if sign = '+' then return size
    else if sign = '-' ∨ sign = '\u2212' then return -size
    else none
  | [] => none

def ofChars? (cs : List Char) : Option Instant := do
  let (year, cs) ← takeNumber 4 cs
  let cs ← expect ['-'] cs
  let (month, cs) ← takeNumber 2 cs
  let cs ← expect ['-'] cs
  let (day, cs) ← takeNumber 2 cs
  let cs ← expect ['T', 't', ' '] cs
  let (hour, cs) ← takeNumber 2 cs
  let cs ← expect [':'] cs
  let (minute, cs) ← takeNumber 2 cs
  let cs ← expect [':'] cs
  let (second, cs) ← takeNumber 2 cs
  let (nanos, cs) ← takeDecimals cs
  let offset ← readOffset cs
  let date : Date := ⟨year, month, day⟩
  guard (date.isReal ∧ hour ≤ 23 ∧ minute ≤ 59 ∧ second ≤ 60)
  let time := hour * 3600 + minute * 60 + min second 59
  let leap := if second = 60 then nanosPerSecond else 0
  return ⟨date.toDays * secondsPerDay + time - offset, nanos + leap⟩

/-- The point in time of a text. -/
def parse? (s : String) : Option Instant := ofChars? s.toList

end Instant

end MotionTutor
