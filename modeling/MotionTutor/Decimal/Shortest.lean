import MotionTutor.Decimal.Binary
import MotionTutor.Decimal.Digits

/-!
# The shortest decimal that reads back

Every binary64 number is the nearest one to all reals of an interval around it; the ends belong to
the interval if its mantissa is even. Of the decimals in the interval those with the fewest digits
are wanted, and of these the one nearest to the number. For a given number of digits only the two
neighbours of the number on the decimal grid can be nearest, so `shortest` tries these two on ever
finer grids, up to 17 digits, which always suffice. All comparisons are between natural numbers.
-/

namespace MotionTutor.Decimal

/-- Digits `d₀d₁…` and an exponent, read as `d₀.d₁… · 10 ^ exponent`. -/
structure Scientific where
  digits : List Char
  exponent : Int
deriving DecidableEq, Repr

/-- A number `mantissa · 2 ^ exponent` and the ends of its interval, in quarters of the last place:
`lower / 4` and `upper / 4` times `2 ^ exponent`. -/
structure Interval where
  mantissa : Nat
  exponent : Int
  lower : Nat
  upper : Nat
  closed : Bool

/-- The reals nearest to a number. Below a power of two the next number is only half as far. -/
def Interval.around (mantissa : Nat) (exponent : Int) : Interval :=
  { mantissa, exponent
    lower := 4 * mantissa - (if mantissa = hiddenBit ∧ -1074 < exponent then 1 else 2)
    upper := 4 * mantissa + 2
    closed := mantissa % 2 = 0 }

namespace Interval

variable (i : Interval)

/-- Quarters of the last place times this are units of the grid `10 ^ place`, over `unit`. -/
def scale (place : Int) : Nat := Nat.pow 2 (i.exponent - 2).toNat * Nat.pow 10 (-place).toNat

/-- What one unit of the grid `10 ^ place` weighs after scaling. -/
def unit (place : Int) : Nat := Nat.pow 2 (2 - i.exponent).toNat * Nat.pow 10 place.toNat

/-- Whether `n` units of the grid lie in the interval. -/
def contains (place : Int) (n : Nat) : Bool :=
  let lower := i.lower * i.scale place
  let upper := i.upper * i.scale place
  let value := n * i.unit place
  if i.closed then lower ≤ value && value ≤ upper else lower < value && value < upper

/-- The grid point for `place` in the interval that is nearest to the number, if there is one; of
two equally near the even one. -/
def nearest? (place : Int) : Option Nat :=
  let value := 4 * i.mantissa * i.scale place
  let below := value / i.unit place
  let rest := value % i.unit place
  match i.contains place below, i.contains place (below + 1) with
  | false, false => none
  | true, false => some below
  | false, true => some (below + 1)
  | true, true =>
    if 2 * rest < i.unit place ∨ (2 * rest = i.unit place ∧ below % 2 = 0) then some below
    else some (below + 1)

/-- The place of the leading digit: the exponent of the greatest power of ten up to the number. -/
def leadingPlace : Int :=
  let value := 4 * i.mantissa * i.scale 0
  let one := i.unit 0
  if one ≤ value then ((digits (value / one)).length : Int) - 1
  else -((digits ((one - 1) / value)).length : Int)

/-- The first hit on the grids with `n`, `n + 1`, … digits, `tries` of them. -/
def firstHit (n : Nat) : Nat → Option (Nat × Int)
  | 0 => none
  | tries + 1 =>
    let place := i.leadingPlace - (n : Int) + 1
    match i.nearest? place with
    | some hit => some (hit, place)
    | none => firstHit (n + 1) tries

end Interval

/-- The digits of a positive number and its exponent: `n · 10 ^ place` without the zeros at the end
of `n`. -/
def Scientific.ofGrid (n : Nat) (place : Int) : Scientific :=
  let written := Decimal.digits n
  let kept := (written.reverse.dropWhile (· == '0')).reverse
  ⟨kept, place + (written.length : Int) - 1⟩

/-- The shortest decimal for `mantissa · 2 ^ exponent`, which is not zero. -/
def shortest (mantissa : Nat) (exponent : Int) : Scientific :=
  match (Interval.around mantissa exponent).firstHit 1 17 with
  | some (n, place) => .ofGrid n place
  | none => ⟨['0'], 0⟩

end MotionTutor.Decimal
