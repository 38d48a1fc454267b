/-!
# Tables of ranges

A set of numbers is written as its maximal intervals in increasing order. The look-up stops at the
first interval that begins past the number.
-/

namespace MotionTutor.Text

/-- Whether `n` lies in one of the closed intervals, which are given in increasing order. -/
def withinRanges (n : Nat) : List (Nat × Nat) → Bool
  | [] => false
  | (lo, hi) :: rest => if n < lo then false else n ≤ hi || withinRanges n rest

end MotionTutor.Text
