/-!
# The history of one exercise

What practice has recorded about an exercise. Three right answers in a row master it; a wrong answer
always takes that back.
-/

namespace MotionTutor

structure History where
  attempts : Nat
  right : Nat
  wrong : Nat
  /-- The right answers since the last wrong one. -/
  rightInARow : Nat
  mastered : Bool
  /-- In seconds from the beginning of 1970; zero if there was no attempt. -/
  lastAttempted : Int
deriving DecidableEq, Repr

namespace History

/-- Nothing was tried yet. -/
def fresh : History := ⟨0, 0, 0, 0, false, 0⟩

/-- The right answers in a row that master an exercise. -/
def masteryStreak : Nat := 3

/-- Records one answer, given at a time in seconds. -/
def record (h : History) (correct : Bool) (time : Int) : History :=
  if correct then
    { h with
      attempts := h.attempts + 1
      right := h.right + 1
      rightInARow := h.rightInARow + 1
      mastered := h.mastered || masteryStreak ≤ h.rightInARow + 1
      lastAttempted := time }
  else
    { h with
      attempts := h.attempts + 1
      wrong := h.wrong + 1
      rightInARow := 0
      mastered := false
      lastAttempted := time }

end History

end MotionTutor
