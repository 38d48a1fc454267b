import MotionTutor.Text.Run
import MotionTutor.Travel.Direction

/-!
# Motions by words

A motion by words looks for the next word in its direction, first on the rest of the cursor's line,
then on the lines beyond. It comes to a word at its near end and leaves it at its far end:

* to the start of the next word and to the end of the word before, it leaves the run under the
  cursor and stops at the near end of a word;
* to the end of a word and back to its start, it stops at the far end, at least one cell on.

A word never continues on another line. An empty line is a stop of its own, except on the way to
the end of a word. Where nothing is left to stop at, the motion to the end of a word stays where it
began and the others go to the last cell in their direction.
-/

namespace MotionTutor

/-! ## 1. Stops on a line -/

namespace WordTravel

def direction : WordTravel → Direction
  | nextStart | nextEnd => .forward
  | prevStart | prevEnd => .backward

/-- Whether the motion stops at the end of a word that it comes to first. -/
def stopsNear : WordTravel → Bool
  | nextStart | prevEnd => true
  | nextEnd | prevStart => false

variable (travel : WordTravel) (classOf : Char → CharClass) (cells : List Char)

/-- How many characters from place `i` on are of one class. -/
def runOf (run : CharClass) (i : Nat) : Nat := runFrom (fun c => classOf c = run) cells i

/-- Where the motion stops on a line, looking from place `i` on: at an end of the first word. -/
def stopFrom? (i : Nat) : Option Nat :=
  let near := i + runOf classOf cells .blank i
  cells[near]?.map fun c =>
    if travel.stopsNear then near else near + runOf classOf cells (classOf c) (near + 1)

/-- Where the motion stops on a line that it reaches. -/
def stopOn? : Option Nat :=
  if cells.isEmpty && travel != .nextEnd then some 0 else travel.stopFrom? classOf cells 0

/-- Where the motion stops on the line that it starts on, at place `i`. -/
def stopAfter? (i : Nat) : Option Nat :=
  let run := classAt classOf cells i
  let left := if travel.stopsNear then runOf classOf cells run (i + 1) else 0
  travel.stopFrom? classOf cells (i + 1 + left)

end WordTravel

/-! ## 2. Stops in the text -/

namespace Buffer

variable (b : Buffer) (classOf : Char → CharClass) (travel : WordTravel)

/-- The first stop on the lines beyond line `n`. -/
def stopBeyond? (n : Nat) : Option Position :=
  let d := travel.direction
  let size := b.lines.length
  ((d.order b.lines).zipIdx.drop (d.place size n + 1)).findSome? fun (cells, k) =>
    (travel.stopOn? classOf (d.order cells)).map fun i =>
      ⟨d.place size k, d.place cells.length i⟩

/-- The motion by words from `p` to where `travel` says. -/
def wordStep (p : Position) : Position :=
  let d := travel.direction
  let cells := b.line p.line
  match travel.stopAfter? classOf (d.order cells) (d.place cells.length p.col) with
  | some i => ⟨p.line, d.place cells.length i⟩
  | none =>
    (b.stopBeyond? classOf travel p.line).getD (if travel = .nextEnd then p else b.farthestCell d)

end Buffer

end MotionTutor
