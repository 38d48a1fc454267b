import MotionTutor.Travel.Direction

/-!
# Searches for a character

A search looks at the cells of the cursor's line only, beyond the cursor in its direction. It lands
on the first cell that holds its target or, if told so, on the cell just short of it.
-/

namespace MotionTutor

/-- Where a search from place `i` of a line lands, if it finds its target. -/
def Search.landingAfter? (s : Search) (cells : List Char) (i : Nat) : Option Nat :=
  ((cells.drop (i + 1)).findIdx? (· == s.target)).map fun between =>
    if s.landing = .onTarget then i + between + 1 else i + between

namespace Buffer

variable (b : Buffer)

/-- Where one search from `p` lands, if it finds its target. -/
def searchOnce (s : Search) (p : Position) : Option Position :=
  let cells := b.line p.line
  let place := s.direction.place cells.length
  (s.landingAfter? (s.direction.order cells) (place p.col)).map fun i => ⟨p.line, place i⟩

/-- Where a search repeated `n` times lands; none if one of the searches fails. A search that does
not leave its cell would not leave it later either, so it ends the repetition. -/
def searchTimes (s : Search) : Nat → Position → Option Position
  | 0, p => some p
  | n + 1, p =>
    match b.searchOnce s p with
    | none => none
    | some q => if q = p then some p else searchTimes s n q

end Buffer

end MotionTutor
