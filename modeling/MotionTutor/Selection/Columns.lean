/-!
# Regions within a line

A region within a line is its first and last column. A delimited object is the region from its
opening to its closing delimiter; its inside leaves both out and may be empty.
-/

namespace MotionTutor

/-- The columns from `first` to `last`, both included. -/
structure Columns where
  first : Nat
  last : Nat
deriving DecidableEq, Repr

/-- What lies strictly between `afterFirst` (the last column of the opening delimiter) and
`beforeLast` (the first column of the closing one), if anything does. -/
def Columns.between? (afterFirst beforeLast : Nat) : Option Columns :=
  if afterFirst + 1 < beforeLast then some ⟨afterFirst + 1, beforeLast - 1⟩ else none

end MotionTutor
