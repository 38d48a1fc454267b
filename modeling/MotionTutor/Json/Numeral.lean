import MotionTutor.Decimal.Digits
import MotionTutor.Json.Value
import MotionTutor.Limits

/-!
# Numerals of JSON documents

A numeral without a point and an exponent is whole if it fits 64 bits: from `-2 ^ 63` to
`2 ^ 64 - 1`, but minus zero is a fraction. Any other numeral is a fraction, computed as follows.

* Its digits, the point left out, make up a significand of at most `2 ^ 64 - 1`. Digits that would
  make it larger are dropped; those before the point still count as places.
* The significand is rounded to binary64 and then multiplied or divided by a power of ten, each
  operation rounding once more. So the result can miss the nearest number by a little.
* A result beyond the largest number is out of range.
-/

namespace MotionTutor.Json

/-- A numeral by its parts. -/
structure Numeral where
  negative : Bool
  whole : List Char
  /-- The digits after the point, if there is one. -/
  decimals : Option (List Char)
  /-- The sign and the digits of the exponent, if there is one. -/
  exponent : Option (Bool × List Char)
deriving DecidableEq, Repr

/-! ## 1. Reading -/

/-- The digits at the front; there must be one at least. -/
def readDigits (cs : List Char) : Option (List Char × List Char) :=
  match cs.takeWhile Char.isDigit with
  | [] => none
  | digits => some (digits, cs.dropWhile Char.isDigit)

/-- The digits before the point: a zero stands alone. -/
def readWhole : List Char → Option (List Char × List Char)
  | '0' :: cs => if (cs.head?.any Char.isDigit) then none else some (['0'], cs)
  | cs => readDigits cs

/-- The point and its decimals, if a point comes first. -/
def readDecimals : List Char → Option (Option (List Char) × List Char)
  | '.' :: cs => (readDigits cs).map fun (digits, rest) => (some digits, rest)
  | cs => some (none, cs)

/-- The sign of an exponent; true for a minus. -/
def readSign : List Char → Bool × List Char
  | '+' :: cs => (false, cs)
  | '-' :: cs => (true, cs)
  | cs => (false, cs)

/-- The exponent, if its letter comes first. -/
def readExponent : List Char → Option (Option (Bool × List Char) × List Char)
  | c :: cs =>
    if c = 'e' ∨ c = 'E' then
      (readDigits (readSign cs).2).map fun (digits, rest) =>
        (some ((readSign cs).1, digits), rest)
    else some (none, c :: cs)
  | [] => some (none, [])

/-- The numeral at the front, as far as it goes. -/
def Numeral.read (cs : List Char) : Option (Numeral × List Char) := do
  let negative := cs.head? == some '-'
  let (whole, cs) ← readWhole (if negative then cs.drop 1 else cs)
  let (decimals, cs) ← readDecimals cs
  let (exponent, cs) ← readExponent cs
  return (⟨negative, whole, decimals, exponent⟩, cs)

/-! ## 2. Value -/

/-- The largest significand. -/
def maxSignificand : Nat := wordLimit - 1

/-- Appends digits to a significand while it stays in range, and returns the digits dropped. -/
def extendSignificand : Nat → List Char → Nat × List Char
  | n, [] => (n, [])
  | n, d :: ds =>
    let longer := n * 10 + Decimal.valueOf [d]
    if longer ≤ maxSignificand then extendSignificand longer ds else (n, d :: ds)

/-- A power of ten, rounded. -/
def powerOfTen (n : Nat) : Float := Float.ofScientific 1 false n

/-- `significand · 10 ^ exponent`, rounded after each operation; none if it is too large. A division
by more than `10 ^ 308` is done in two steps, the first of which is by `10 ^ 308`. -/
def scaled (significand : Nat) (exponent : Int) : Option Float :=
  let f := (UInt64.ofNat significand).toFloat
  if 0 ≤ exponent then
    if significand = 0 then some f
    else if 308 < exponent then none
    else
      let product := f * powerOfTen exponent.toNat
      if product.isInf then none else some product
  else
    let n := (-exponent).toNat
    if n ≤ 308 then some (f / powerOfTen n)
    else if n ≤ 616 then some (f / powerOfTen 308 / powerOfTen (n - 308))
    else some 0

namespace Numeral

/-- The exponent a numeral spells out; an unwritten one is zero. -/
def writtenExponent (n : Numeral) : Int :=
  match n.exponent with
  | none => 0
  | some (negative, digits) =>
    if negative then -(Decimal.valueOf digits) else Decimal.valueOf digits

/-- The size of a numeral as a fraction, without its sign; none if it is out of range. -/
def magnitude (n : Numeral) : Option Float :=
  let (head, dropped) := extendSignificand 0 n.whole
  let decimals := n.decimals.getD []
  let (significand, unused) := extendSignificand head decimals
  scaled significand (dropped.length - (decimals.length - unused.length : Nat) + n.writtenExponent)

/-- The number of a numeral; none if it is out of range. -/
def value (n : Numeral) : Option Number :=
  let natural := Decimal.valueOf n.whole
  if n.decimals.isNone && n.exponent.isNone && !n.negative && natural < wordLimit then
    some (.whole natural)
  else if n.decimals.isNone && n.exponent.isNone && n.negative && 0 < natural &&
      natural ≤ integerLimit then
    some (.whole (-natural))
  else n.magnitude.map fun x => .fraction (if n.negative then -x else x)

end Numeral

end MotionTutor.Json
