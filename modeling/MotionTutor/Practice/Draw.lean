import MotionTutor.Exercise
import MotionTutor.Practice.Weights
import MotionTutor.Random.Words

/-!
# Drawing the next exercise

The lessons of positive weight form the pool. A number below the total weight picks one of them: the
weights are laid end to end, and the number falls into one. Exercises are served as practice.

Numbers are drawn from words (`Words.below`); what is done with them does not depend on how
(`selectBy`).
-/

namespace MotionTutor.Practice

/-- The lessons that can be drawn, with their weights. -/
def pool (weights : Weights) (p : Progress) (lessons : List Exercise) : List (Exercise × Nat) :=
  (lessons.map fun e => (e, weights.of p e.id)).filter fun e => 0 < e.2

def totalWeight : List (Exercise × Nat) → Nat
  | [] => 0
  | (_, weight) :: rest => weight + totalWeight rest

/-- The first entry at which the sum of the weights is beyond the number. -/
def pickBeyond {α : Type} (number : Nat) : Nat → List (α × Nat) → Option α
  | _, [] => none
  | sum, (a, weight) :: rest =>
    if number < sum + weight then some a else pickBeyond number (sum + weight) rest

/-- The entry into whose weight a number falls. A number beyond all weights picks the first one. -/
def pick {α : Type} (l : List (α × Nat)) (number : Nat) : Option α :=
  (pickBeyond number 0 l).or (l.head?.map (·.1))

/-- Draws a lesson with a number that is drawn in this way; none if the pool is empty. -/
def selectBy (draw : Words → Nat → Nat × Words) (weights : Weights) (p : Progress)
    (lessons : List Exercise) (words : Words) : Option Exercise × Words :=
  let pool := pool weights p lessons
  if totalWeight pool = 0 then (none, words)
  else
    let (n, words) := draw words (totalWeight pool)
    ((pick pool n).map (·.servedAs .practice), words)

/-- Draws a lesson. -/
def select (weights : Weights) (p : Progress) (lessons : List Exercise) (words : Words) :
    Option Exercise × Words :=
  selectBy Words.below weights p lessons words

/-- The lessons that can be drawn, heaviest first; equal ones in the order of the lessons. -/
def byWeight (weights : Weights) (p : Progress) (lessons : List Exercise) : List Exercise :=
  ((pool weights p lessons).mergeSort fun a b => b.2 ≤ a.2).map fun e => e.1.servedAs .practice

/-- Some draws in a row. -/
def selectMany (weights : Weights) (p : Progress) (lessons : List Exercise) :
    Nat → Words → List (Option Exercise) × Words
  | 0, words => ([], words)
  | count + 1, words =>
    let (drawn, words) := select weights p lessons words
    let (more, words) := selectMany weights p lessons count words
    (drawn :: more, words)

end MotionTutor.Practice
