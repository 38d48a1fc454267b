import MotionTutor.Buffer
import MotionTutor.Selection.Columns
import MotionTutor.Text.Run

/-!
# Words and paragraphs

A word is the maximal run of one class of character around the cursor, a paragraph the maximal run
of lines that are all blank or all not. The outer forms take the run that follows: blanks after a
word, or else before it; the word after blanks; the lines of the other kind after a paragraph.
-/

namespace MotionTutor

/-! ## 1. Words -/

/-- The maximal run of the class of the character at `col`, which lies on the line. -/
def innerWord (classOf : Char → CharClass) (cells : List Char) (col : Nat) : Columns :=
  let run := classAt classOf cells col
  let inRun := fun c => decide (classOf c = run)
  ⟨col - runBefore inRun cells col, col + runFrom inRun cells (col + 1)⟩

/-- On blanks, the blanks and the run after them; else the word and the blanks after it, or those
before it if none follow. -/
def aroundWord (classOf : Char → CharClass) (cells : List Char) (col : Nat) : Columns :=
  let inner := innerWord classOf cells col
  if classAt classOf cells col = .blank then
    match cells[inner.last + 1]? with
    | none => inner
    | some c =>
      let inRun := fun d => decide (classOf d = classOf c)
      ⟨inner.first, inner.last + runFrom inRun cells (inner.last + 1)⟩
  else
    let after := runFrom isBlank cells (inner.last + 1)
    if 0 < after then ⟨inner.first, inner.last + after⟩
    else ⟨inner.first - runBefore isBlank cells inner.first, inner.last⟩

def wordObject (size : WordSize) (around : Bool) (cells : List Char) (col : Nat) : Columns :=
  if around then aroundWord size.classOf cells col else innerWord size.classOf cells col

/-! ## 2. Paragraphs -/

namespace Buffer

variable (b : Buffer)

/-- The first and last line of the paragraph around a line. -/
def paragraph (around : Bool) (n : Nat) : Nat × Nat :=
  let kind := isBlankText (b.line n)
  let same := fun cells => isBlankText cells == kind
  let first := n - runBefore same b.lines n
  let last := n + runFrom same b.lines (n + 1)
  (first, if around then last + runFrom (!same ·) b.lines (last + 1) else last)

end Buffer

end MotionTutor
