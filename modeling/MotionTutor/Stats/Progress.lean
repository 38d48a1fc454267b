import MotionTutor.SortedMap
import MotionTutor.Stats.History
import MotionTutor.Time.Duration
import MotionTutor.Time.Instant

/-!
# Progress in one module

Lessons, practice and boss fights of a module, over all sittings. The accuracy is the share of right
answers over all of practice, and the weakest exercises are the few that were missed most often;
both are kept with the progress, and brought up to date by every answer.
-/

namespace MotionTutor

structure Progress where
  lessonsCompleted : Nat
  lessonsTotal : Nat
  /-- The share of right answers in practice. -/
  accuracy : Float
  attempts : Nat
  right : Nat
  bossDefeated : Bool
  /-- The shortest winning fight; zero if none was won. -/
  bossBestTime : Duration
  bossAttempts : Nat
  bossLivesLeft : Nat
  /-- By the id of the exercise. -/
  histories : SortedMap History
  weakest : List String
  lastPracticed : Option Instant
deriving BEq

namespace Progress

def fresh : Progress := ⟨0, 0, 0.0, 0, 0, false, .zero, 0, 0, .empty, [], none⟩

instance : Inhabited Progress := ⟨fresh⟩

/-! ## 1. Lessons -/

/-- Whether all lessons were done; without lessons there is nothing to complete. -/
def lessonsComplete (p : Progress) : Bool :=
  0 < p.lessonsTotal && p.lessonsTotal ≤ p.lessonsCompleted

/-- Sets how many lessons were done, never more than there are. -/
def completeLessons (p : Progress) (count : Nat) : Progress :=
  { p with lessonsCompleted := min count p.lessonsTotal }

/-! ## 2. Practice -/

/-- The history of an exercise, if it has one. -/
def history? (p : Progress) (id : String) : Option History := p.histories.find? id

def isMastered (p : Progress) (id : String) : Bool := (p.history? id).any (·.mastered)

/-- How many of the most missed exercises count as the weakest. -/
def weakestCount : Nat := 3

/-- The ids of the most missed exercises among some with their numbers of wrong answers: by
decreasing number, in the order given where two are equal, and none that was never missed. -/
def mostMissed (misses : List (String × Nat)) : List String :=
  let missed := misses.filter fun m => 0 < m.2
  ((missed.mergeSort fun a b => b.2 ≤ a.2).take weakestCount).map (·.1)

/-- Records one answer in practice. -/
def recordPractice (p : Progress) (id : String) (correct : Bool) (time : Instant) : Progress :=
  let histories := p.histories.modify id fun h => (h.getD .fresh).record correct time.seconds
  let attempts := p.attempts + 1
  let right := if correct then p.right + 1 else p.right
  { p with
    histories
    attempts
    right
    accuracy := right.toFloat / attempts.toFloat
    lastPracticed := some time
    weakest := mostMissed (histories.entries.map fun e => (e.1, e.2.wrong)) }

/-- Forgets all practice. -/
def resetPractice (p : Progress) : Progress :=
  { p with
    histories := .empty
    attempts := 0
    right := 0
    accuracy := 0.0
    weakest := []
    lastPracticed := none }

/-! ## 3. Boss fights -/

/-- Records a won fight. The best time only improves, but the first one counts whatever it is. -/
def recordBossWin (p : Progress) (elapsed : Duration) (livesLeft : Nat) : Progress :=
  { p with
    bossDefeated := true
    bossBestTime := if p.bossDefeated then elapsed.shorter p.bossBestTime else elapsed
    bossLivesLeft := livesLeft }

end Progress

end MotionTutor
