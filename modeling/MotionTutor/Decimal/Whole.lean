import MotionTutor.Decimal.Binary

/-!
# Rounding to a whole number

A number is shown without decimals by rounding its exact value, a half to the even neighbour. The
sign is kept even if the number rounds to zero.
-/

namespace MotionTutor.Decimal

/-- The quotient rounded to the nearest whole number, a half to the even one. -/
def roundDiv (num den : Nat) : Nat :=
  let q := num / den
  let rest := num % den
  if 2 * rest < den ∨ (2 * rest = den ∧ q % 2 = 0) then q else q + 1

/-- The whole number nearest to a binary fraction, as text. -/
def wholeText : Binary → String
  | .finite negative mantissa exponent =>
    let n := roundDiv (mantissa * Nat.pow 2 exponent.toNat) (Nat.pow 2 (-exponent).toNat)
    (if negative then "-" else "") ++ toString n
  | .infinite negative => if negative then "-inf" else "inf"
  | .notANumber => "NaN"

end MotionTutor.Decimal
