import MotionTutor.Exercise
import MotionTutor.Stats.Progress

/-!
# How practice stands

Practice in a module is complete when all its lessons are mastered, and there is at least one.
-/

namespace MotionTutor.Practice

structure Summary where
  total : Nat
  mastered : Nat
  remaining : Nat
  accuracy : Float
  /-- The ids of the most missed lessons. -/
  weakest : List String
  complete : Bool

def isComplete (p : Progress) (lessons : List Exercise) : Bool :=
  !lessons.isEmpty && lessons.all fun e => p.isMastered e.id

def summary (p : Progress) (lessons : List Exercise) : Summary :=
  let mastered := lessons.countP fun e => p.isMastered e.id
  { total := lessons.length
    mastered
    remaining := lessons.length - mastered
    accuracy := p.accuracy
    weakest := Progress.mostMissed
      (lessons.filterMap fun e => (p.history? e.id).map fun h => (e.id, h.wrong))
    complete := !lessons.isEmpty && mastered = lessons.length }

end MotionTutor.Practice
