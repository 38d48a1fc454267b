import MotionTutor.Travel.Search
import MotionTutor.Travel.Words

/-!
# Where a motion goes

`Buffer.destination` is where a counted motion leads from a position, given the search that `;` and
`,` repeat; only a search can lead nowhere. Most motions are one step (`Buffer.step`) done as often
as the count says, ending early once a step does not move; the motions to a numbered line, and
those with a count of lines, compute their line at once.
-/

namespace MotionTutor.Buffer

variable (b : Buffer)

/-! ## 1. One step -/

/-- The first blank line after line `n`, else the last line. -/
def blankLineAfter (n : Nat) : Nat :=
  min (n + 1 + runFrom (!isBlankText ·) b.lines (n + 1)) b.lastLine

/-- The last blank line before line `n`, else the first line. -/
def blankLineBefore (n : Nat) : Nat := n - 1 - runBefore (!isBlankText ·) b.lines n

/-- A motion without its count. The motions that have no step stay. -/
def step (m : Motion) (p : Position) : Position :=
  match m with
  | .word travel size => b.wordStep size.classOf travel p
  | .lineStart => ⟨p.line, 0⟩
  | .firstNonBlank => b.firstNonBlank p.line
  | .lineEnd => ⟨p.line, b.lastCol p.line⟩
  | .left => ⟨p.line, p.col - 1⟩
  | .right => ⟨p.line, min (p.col + 1) (b.lastCol p.line)⟩
  | .down => if p.line < b.lastLine then b.clamp ⟨p.line + 1, p.col⟩ else p
  | .up => if 0 < p.line then b.clamp ⟨p.line - 1, p.col⟩ else p
  | .nextLine => if p.line < b.lastLine then b.firstNonBlank (p.line + 1) else p
  | .prevLine => if 0 < p.line then b.firstNonBlank (p.line - 1) else p
  | .paragraphForward => ⟨b.blankLineAfter p.line, 0⟩
  | .paragraphBackward => ⟨b.blankLineBefore p.line, 0⟩
  | _ => p

/-- A step done `n` times, or until it does not move. -/
def stepTimes (m : Motion) : Nat → Position → Position
  | 0, p => p
  | n + 1, p => let q := b.step m p; if q = p then p else stepTimes m n q

/-! ## 2. Counted motions -/

/-- The line that a count names, counting from one; `line` without a count. -/
def countedLine (count : Option Nat) (line : Nat) : Nat :=
  min (count.elim line (· - 1)) b.lastLine

/-- Where a counted motion leads from `p`; none if a search fails. `last` is the search before. -/
def destination (last : Option Search) (m : Motion) (count : Option Nat) (p : Position) :
    Option Position :=
  let times := timesOf count
  match m with
  | .firstLine => some (b.firstNonBlank (b.countedLine count 0))
  | .lastLine => some (b.firstNonBlank (b.countedLine count b.lastLine))
  | .currentLine => some (b.firstNonBlank (min (p.line + (times - 1)) b.lastLine))
  | .search s => b.searchTimes s times p
  | .repeatSearch => last.bind fun s => b.searchTimes s times p
  | .repeatSearchReversed => last.bind fun s => b.searchTimes s.reversed times p
  | m => some (b.stepTimes m times p)

end MotionTutor.Buffer

namespace MotionTutor.Motion

/-- The search that `;` repeats after a motion: a search is remembered even if it fails. -/
def remembered (m : Motion) (last : Option Search) : Option Search :=
  match m with
  | .search s => some s
  | _ => last

/-- The search that a motion performs, if it is one. -/
def searchOf? (m : Motion) (last : Option Search) : Option Search :=
  match m with
  | .search s => some s
  | .repeatSearch => last
  | .repeatSearchReversed => last.map Search.reversed
  | _ => none

end MotionTutor.Motion
