import MotionTutor.Selection.Run

/-!
# Sentences

A sentence ends at a full stop, an exclamation mark or a question mark that is last on its line or
has a blank after it. The sentence of a column begins after the end before it, blanks skipped, and
goes to the next end or the end of the line.
-/

namespace MotionTutor

def isTerminator (c : Char) : Bool := c == '.' || c == '!' || c == '?'

/-- For every column of a line, whether a sentence ends there. -/
def sentenceEnds (cells : List Char) : List Bool :=
  let next := (cells.drop 1).map some ++ [none]
  cells.zipWith (fun c after => isTerminator c && after.all isBlank) next

/-- The sentence of a column on the line; the outer form takes the blanks after it. -/
def sentenceObject (around : Bool) (cells : List Char) (col : Nat) : Columns :=
  let ends := sentenceEnds cells
  let start := col - runBefore (!·) ends col
  let first := min col (start + runFrom isBlank cells start)
  let last := min (col + runFrom (!·) ends col) (cells.length - 1)
  ⟨first, if around then last + runFrom isBlank cells (last + 1) else last⟩

end MotionTutor
