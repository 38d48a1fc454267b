import MotionTutor.Exercise
import MotionTutor.Limits
import MotionTutor.Simulation
import MotionTutor.Text.Blank

/-!
# Judging answers

An answer is right if it is listed, or if it has the effect of the optimal answer: the same place
for the cursor and the same region. Effects are compared only where they are known, that is, where
the module is judged by motions and the optimal answer is made of commands that are understood
(`Exercise.isJudgedByEffect`). White space around answers and solutions does not count, and a blank
answer is never right.

Points are computed in eighths, so that the bonuses of a half and a quarter are exact.
-/

namespace MotionTutor

/-! ## 1. Verdicts -/

structure Verdict where
  correct : Bool
  inSolutions : Bool
  optimal : Bool
  target : Position
  actual : Position
  targetSelection : Option Selection
  actualSelection : Option Selection
  optimalSolution : String
  allSolutions : List String
deriving DecidableEq, Repr

/-- A text without the white space around it. -/
def trimmed (s : String) : Keys := Text.trim s.toList

namespace Verdict

/-- Not right, with both positions where the exercise puts the cursor. -/
def neutral : Option Exercise → Verdict
  | none => ⟨false, false, false, .origin, .origin, none, none, "", []⟩
  | some e => ⟨false, false, false, e.cursor, e.cursor, none, none, e.optimal, e.solutions⟩

end Verdict

namespace Exercise

variable (e : Exercise)

/-- Keys that begin a command of another kind: of the command line, or a search by pattern. -/
def startsPrompt : Keys → Bool
  | c :: _ => c == ':' || c == '/' || c == '?'
  | [] => false

/-- Whether answers can be judged by their effect. -/
def isJudgedByEffect : Bool :=
  let optimal := trimmed e.optimal
  let tokens := Token.ofKeys optimal
  !optimal.isEmpty && !startsPrompt optimal && e.judging = .motion && !tokens.isEmpty &&
    tokens.all Token.isRecognized

/-- What an answer does in the exercise. -/
def effectOf (answer : String) : Effect :=
  (Buffer.ofTexts e.code).simulate e.cursor (trimmed answer)

def isOptimalAnswer (answer : String) : Bool := trimmed answer = trimmed e.optimal

def isListed (answer : String) : Bool := e.solutions.any fun s => trimmed s = trimmed answer

/-- Judges an answer. -/
def judge (answer : String) : Verdict :=
  let neutral := Verdict.neutral (some e)
  if (trimmed answer).isEmpty then neutral
  else
    let listed := e.isListed answer
    let verdict := { neutral with inSolutions := listed, optimal := e.isOptimalAnswer answer }
    if e.isJudgedByEffect then
      let target := e.effectOf e.optimal
      let actual := e.effectOf answer
      { verdict with
        correct := listed || target = actual
        target := target.position
        actual := actual.position
        targetSelection := target.selection
        actualSelection := actual.selection }
    else { verdict with correct := listed }

/-- The listed solutions other than the one used. -/
def alternatives (used : String) : List String :=
  e.solutions.filter fun s => trimmed s ≠ trimmed used

/-- The optimal solution with the others in brackets; a single solution alone. -/
def solutionsHint : String :=
  match e.solutions with
  | [] => ""
  | [only] => only
  | solutions =>
    let others := ", ".intercalate (solutions.filter (· ≠ e.optimal))
    if others.isEmpty then e.optimal else e.optimal ++ " (or " ++ others ++ ")"

end Exercise

/-! ## 2. Points -/

/-- The most points that one answer can bring. -/
def maxPoints : Nat := counterLimit - 1

/-- An answer in less than two seconds is fast. -/
def isFast (elapsed : Float) : Bool := elapsed < 2.0

/-- The points of a right answer: those of the exercise, half as many again if it is optimal, a
quarter more if the exercise is timed and the answer fast, all times the combo. -/
def Exercise.pointsFor (e : Exercise) (elapsed : Float) (optimal : Bool) (combo : Nat) : Nat :=
  let halves := if optimal then 3 else 2
  let quarters := if 0 < e.timeoutSecs && isFast elapsed then 5 else 4
  min maxPoints (e.points * halves * quarters * max combo 1 / 8)

end MotionTutor
