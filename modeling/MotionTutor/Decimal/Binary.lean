import MotionTutor.Limits

/-!
# Binary fractions

A finite binary64 number is a sign and an exact value `mantissa · 2 ^ exponent`, with the mantissa a
natural number. Texts of numbers are computed from this value in exact arithmetic.
-/

namespace MotionTutor.Decimal

/-- The exact value of a binary64 number. -/
inductive Binary
  | finite (negative : Bool) (mantissa : Nat) (exponent : Int)
  | infinite (negative : Bool)
  | notANumber
deriving DecidableEq, Repr

/-- The leading bit of a mantissa, which is not written unless the exponent is the least:
`2 ^ 52`. -/
def hiddenBit : Nat := 4503599627370496

/-- Written exponents lie below this, `2 ^ 11`. -/
def exponentLimit : Nat := 2048

/-- The value that the 64 bits stand for: a sign bit, 11 bits of exponent, 52 bits of fraction. -/
def Binary.ofBits (bits : Nat) : Binary :=
  let negative := decide (integerLimit ≤ bits)
  let biased : Nat := bits / hiddenBit % exponentLimit
  let fraction : Nat := bits % hiddenBit
  if biased = 2047 then if fraction = 0 then .infinite negative else .notANumber
  else if biased = 0 then .finite negative fraction (-1074)
  else .finite negative (hiddenBit + fraction) ((biased : Int) - 1075)

def Binary.ofFloat (x : Float) : Binary := .ofBits x.toBits.toNat

end MotionTutor.Decimal
