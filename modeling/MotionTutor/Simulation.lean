import MotionTutor.Command.Scanner
import MotionTutor.Selection.Object

/-!
# Running commands against a text

A simulation carries the cursor, the search that `;` repeats, and the region that the last operator
or object chose. Selecting never moves the cursor; what was not understood has no effect.
`simulate` runs a sequence of keys from a start position, which may lie outside the text.
-/

namespace MotionTutor

/-- The state between two commands. -/
structure Simulation where
  cursor : Position
  lastSearch : Option Search
  selection : Option Selection
deriving DecidableEq, Repr

namespace Simulation

/-- Nothing was pressed yet; the cursor stands on the cell nearest to `p`. -/
def start (b : Buffer) (p : Position) : Simulation := ⟨b.clamp p, none, none⟩

/-- Runs one command. -/
def run (b : Buffer) (s : Simulation) (t : Token) : Simulation :=
  match t.command with
  | .motion m =>
    { s with
      cursor := ((b.destination s.lastSearch m t.count s.cursor).map b.clamp).getD s.cursor
      lastSearch := m.remembered s.lastSearch }
  | .object operator o =>
    { s with selection := b.selectObject (operator.getD .visual) o s.cursor }
  | .operate operator m =>
    { s with
      selection := b.selectMotion s.lastSearch operator m t.count s.cursor
      lastSearch := m.remembered s.lastSearch }
  | .wholeLines operator =>
    { s with selection := some (b.selectWholeLines operator t.count s.cursor) }
  | .toLineEnd operator => { s with selection := b.selectToLineEnd operator s.cursor }
  | .incomplete _ | .unknown _ => s

/-- Runs commands in order. -/
def runAll (b : Buffer) (s : Simulation) (tokens : List Token) : Simulation :=
  tokens.foldl (run b) s

end Simulation

/-- What a sequence of keys comes to. -/
structure Effect where
  position : Position
  selection : Option Selection
deriving DecidableEq, Repr

/-- Runs keys from a start position. -/
def Buffer.simulate (b : Buffer) (start : Position) (keys : Keys) : Effect :=
  let s := Simulation.runAll b (.start b start) (Token.ofKeys keys)
  ⟨b.clamp s.cursor, s.selection⟩

end MotionTutor
