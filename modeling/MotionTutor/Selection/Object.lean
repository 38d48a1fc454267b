import MotionTutor.Selection
import MotionTutor.Selection.Bracket
import MotionTutor.Selection.Quoted
import MotionTutor.Selection.Run
import MotionTutor.Selection.Sentence
import MotionTutor.Selection.Tag

/-!
# The region of a text object

A paragraph is a range of lines; every other object lies on the line of the cursor, and an empty
line has none. Angle brackets that do not pair up around the cursor are read as tags.
-/

namespace MotionTutor

/-- The columns of an object on a line; a paragraph is not on one line. -/
def ObjectKind.columns? (kind : ObjectKind) (around : Bool) (cells : List Char) (col : Nat) :
    Option Columns :=
  match kind with
  | .word size => some (wordObject size around cells col)
  | .sentence => some (sentenceObject around cells col)
  | .quote mark => quoteObject mark around cells col
  | .pair opening closing =>
    match bracketObject opening closing around cells col with
    | some columns => some columns
    | none => if opening = '<' ∧ closing = '>' then tagObject around cells col else none
  | .tag => tagObject around cells col
  | .paragraph => none

/-- The region of an object at `p`. -/
def Buffer.selectObject (b : Buffer) (operator : Operator) (o : TextObject) (p : Position) :
    Option Selection :=
  match o.kind with
  | .paragraph =>
    let (first, last) := b.paragraph o.around p.line
    some (.ofLines b operator first last)
  | kind =>
    if b.lineLength p.line = 0 then none
    else
      (kind.columns? o.around (b.line p.line) (min p.col (b.lastCol p.line))).map fun columns =>
        .ofColumns operator p.line columns.first columns.last

end MotionTutor
