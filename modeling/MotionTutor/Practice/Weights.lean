import MotionTutor.Limits
import MotionTutor.Stats.Progress

/-!
# What is worth practising

A weight for every history: the greater, the more often the exercise is drawn, and never at zero.
Practice can go by any such rule; by default mastered exercises are left out, new ones come up
often, and of the others those that went wrong often and not lately right.
-/

namespace MotionTutor

/-- A rule that weighs an exercise by its history. -/
abbrev Weights := History → Nat

namespace Weights

/-- The largest weight. -/
def maxWeight : Nat := counterLimit - 1

/-- The default rule. An exercise that was tried and is not mastered weighs ten, five more for every
wrong answer and two less for every right one in a row, but at least one. -/
def byMastery : Weights := fun h =>
  if h.mastered then 0
  else if h.attempts = 0 then 15
  else min maxWeight (max 1 (10 + 5 * h.wrong - 2 * h.rightInARow))

/-- The weight of an exercise in view of the progress made; no history counts as a fresh one. -/
def of (weights : Weights) (p : Progress) (id : String) : Nat :=
  weights ((p.history? id).getD .fresh)

end Weights

end MotionTutor
