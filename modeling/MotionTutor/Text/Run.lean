/-!
# Runs

Words and paragraphs are runs of one kind. A run is measured on a list: how many elements before
and after a place satisfy a test.
-/

namespace MotionTutor

variable {α : Type} (test : α → Bool) (xs : List α) (i : Nat)

/-- How many elements just before place `i` satisfy `test`. -/
def runBefore : Nat := ((xs.take i).reverse.takeWhile test).length

/-- How many elements from place `i` on satisfy `test`. -/
def runFrom : Nat := ((xs.drop i).takeWhile test).length

end MotionTutor
