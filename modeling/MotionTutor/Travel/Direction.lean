import MotionTutor.Buffer

/-!
# Reading in a direction

Whatever goes forwards through a text can go backwards through it as well. Lines, and the
characters of a line, are read in a direction (`Direction.order`), and what stands at an index then
has a place, counted from the end at which the reading begins (`Direction.place`). Rules stated on
places serve both directions; the same function leads back from places to indices.
-/

namespace MotionTutor

namespace Direction

variable {α : Type} (d : Direction)

/-- The elements in the order in which a reader meets them. -/
def order (xs : List α) : List α :=
  match d with
  | forward => xs
  | backward => xs.reverse

/-- The place of an index among `size` elements, and likewise the index of a place. -/
def place (size i : Nat) : Nat :=
  match d with
  | forward => i
  | backward => size - 1 - i

theorem place_place {size i : Nat} (h : i < size) : d.place size (d.place size i) = i := by
  cases d with
  | forward => rfl
  | backward => exact Nat.sub_sub_self (Nat.le_sub_one_of_lt h)

/-- What stands at an index stands at its place for the reader. -/
theorem getElem?_order (xs : List α) {i : Nat} (h : i < xs.length) :
    (d.order xs)[d.place xs.length i]? = xs[i]? := by
  cases d with
  | forward => rfl
  | backward =>
    have hp : xs.length - 1 - i < xs.length := by omega
    rw [order, place, List.getElem?_reverse hp]
    congr 1
    omega

end Direction

namespace Buffer

/-- The cell at which a reader comes to the end of the text. -/
def farthestCell (b : Buffer) : Direction → Position
  | .forward => ⟨b.lastLine, b.lastCol b.lastLine⟩
  | .backward => .origin

end Buffer

end MotionTutor
