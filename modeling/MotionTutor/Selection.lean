import MotionTutor.Travel

/-!
# Regions chosen by operators

A selection is the region an operator would act on, both ends included. This file gives the regions
of whole lines, of the rest of a line, and of an operator followed by a motion:

* a linewise motion selects the lines between the two ends;
* a motion that ends on the last character meant is inclusive, any other leaves out the cell at its
  far end (`Motion.isInclusive`); the visual operator includes it always;
* `w` under an operator stops at the end of the line it starts on;
* change on a word reaches to the end of the word (`Motion.underOperator`).
-/

namespace MotionTutor

structure Selection where
  operator : Operator
  first : Position
  last : Position
  linewise : Bool
deriving DecidableEq, Repr

namespace Selection

/-- Columns `first` to `last` of one line. -/
def ofColumns (operator : Operator) (line : Nat) (first last : Nat) : Selection :=
  ⟨operator, ⟨line, first⟩, ⟨line, last⟩, false⟩

/-- Lines `first` to `last`, whole. -/
def ofLines (b : Buffer) (operator : Operator) (first last : Nat) : Selection :=
  ⟨operator, ⟨first, 0⟩, ⟨last, b.lastCol last⟩, true⟩

end Selection

namespace Operator

/-- The operator's name in a selection's text. -/
def name : Operator → String
  | visual => "Visual"
  | delete => "Delete"
  | change => "Change"
  | yank => "Yank"
  | lowercase => "Lowercase"
  | uppercase => "Uppercase"

end Operator

/-- The selection as `operator line:col-line:col`, with a word for whole lines. -/
def Selection.text (s : Selection) : String :=
  s.operator.name ++ " " ++ s.first.text ++ "-" ++ s.last.text ++
    (if s.linewise then " (linewise)" else "")

namespace Motion

/-- Changing a word does not take the blanks after it. -/
def underOperator (m : Motion) (operator : Operator) (underCursor : Option Char) : Motion :=
  match m with
  | .word .nextStart size =>
    if operator = .change ∧ underCursor.any (fun c => !isBlank c) then .word .nextEnd size else m
  | _ => m

/-- Whether the cell a motion lands on belongs to the region. -/
def isInclusive (m : Motion) (last : Option Search) : Bool :=
  match m with
  | .word .nextEnd _ | .word .prevEnd _ | .lineEnd => true
  | _ => (m.searchOf? last).any Search.isForward

end Motion

namespace Buffer

variable (b : Buffer)

/-- The last cell of an exclusive region from `first` to before `last`. -/
def exclusiveEnd (m : Motion) (first last : Position) : Position :=
  match m with
  | .word .nextStart _ =>
    if first.line < last.line then ⟨first.line, b.lastCol first.line⟩ else stepBack last
  | _ => stepBack last
where
  /-- The cell before one that is not the first. -/
  stepBack (p : Position) : Position :=
    if p.col = 0 then ⟨p.line - 1, b.lastCol (p.line - 1)⟩ else ⟨p.line, p.col - 1⟩

/-- The region from `p` to the end of its line. -/
def selectToLineEnd (operator : Operator) (p : Position) : Option Selection :=
  if b.lineLength p.line = 0 then none
  else some (.ofColumns operator p.line (min p.col (b.lastCol p.line)) (b.lastCol p.line))

/-- The lines from `p` on, as many as the count says and the buffer has. -/
def selectWholeLines (operator : Operator) (count : Option Nat) (p : Position) : Selection :=
  .ofLines b operator p.line (min (p.line + (timesOf count - 1)) b.lastLine)

/-- The region of an operator and a motion from `p`; `last` is the search that the motion repeats,
if it repeats one. -/
def selectMotion (last : Option Search) (operator : Operator) (motion : Motion)
    (count : Option Nat) (p : Position) : Option Selection :=
  let m := motion.underOperator operator (b.charAt p)
  match (b.destination last m count p).map b.clamp with
  | none => none
  | some q =>
    if m.isLinewise then
      some (.ofLines b operator (min p.line q.line) (max p.line q.line))
    else
      let (first, end_) := if q < p then (q, p) else (p, q)
      if operator = .visual ∨ m.isInclusive last then some ⟨operator, first, end_, false⟩
      else if first = end_ then none
      else some ⟨operator, first, b.exclusiveEnd m first end_, false⟩

end Buffer

end MotionTutor
