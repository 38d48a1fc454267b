import MotionTutor.Catalog
import MotionTutor.Command.Scanner
import MotionTutor.Command.Text
import MotionTutor.Decimal.Whole
import MotionTutor.Judge
import MotionTutor.Practice.Draw
import MotionTutor.Practice.Summary
import MotionTutor.Simulation
import MotionTutor.Stats.Profile

/-!
# What the command line prints

Each report is a list of lines.
-/

namespace MotionTutor.Cli

/-! ## 1. Pieces -/

def yesNo (b : Bool) : String := if b then "yes" else "no"

/-- A share of one as a percentage without decimals. -/
def percent (share : Float) : String := Decimal.wholeText (.ofFloat (share * 100.0)) ++ "%"

/-- A text with blanks behind it, up to a width. -/
def padRight (width : Nat) (s : String) : String := String.ofList (s.toList.rightpad width ' ')

/-- A text with blanks before it, up to a width. -/
def padLeft (width : Nat) (s : String) : String := String.ofList (s.toList.leftpad width ' ')

/-- The items between commas; a word where there are none. -/
def listed (none_ : String) (items : List String) : String :=
  if items.isEmpty then none_ else ", ".intercalate items

def optionalLine (label : String) (selection : Option Selection) : List String :=
  selection.toList.map fun s => label ++ s.text

/-! ## 2. Reports -/

/-- A command with its count, or the keys that were skipped. -/
def tokenLine (t : Token) : String :=
  match t.command with
  | .incomplete keys | .unknown keys => "skipped: " ++ String.ofList keys
  | command =>
    "token: " ++ (t.count.elim "" fun n => toString n ++ " x ") ++ command.shown

def simulationReport (start : Position) (code : List String) (keys : String)
    (showTokens : Bool) : List String :=
  let effect := (Buffer.ofTexts code).simulate start keys.toList
  effect.position.text :: optionalLine "selection: " effect.selection ++
    if showTokens then (Token.ofKeys keys.toList).map tokenLine else []

def verdictReport (e : Exercise) (v : Verdict) : List String :=
  let effects :=
    ["target: " ++ v.target.text, "actual: " ++ v.actual.text] ++
      optionalLine "target selection: " v.targetSelection ++
      optionalLine "actual selection: " v.actualSelection
  [if v.correct then "correct" else "incorrect", "in solutions: " ++ yesNo v.inSolutions,
    "optimal: " ++ yesNo v.optimal] ++
    (if e.isJudgedByEffect then effects else []) ++ ["solutions: " ++ e.solutionsHint]

/-- Drawn exercises with their missions, until there is none left to draw. -/
def drawLines (p : Progress) (lessons : List Exercise) : Nat → Words → List String
  | 0, _ => []
  | count + 1, words =>
    match Practice.select .byMastery p lessons words with
    | (some e, words) => (e.id ++ "\t" ++ e.mission) :: drawLines p lessons count words
    | (none, _) => ["practice complete: every lesson is mastered"]

def practiceReport (module : String) (p : Progress) (lessons : List Exercise) (count : Nat)
    (words : Words) : List String :=
  let summary := Practice.summary p lessons
  (module ++ ": " ++ toString summary.mastered ++ " of " ++ toString summary.total ++
    " mastered, accuracy " ++ percent summary.accuracy) :: drawLines p lessons count words

def recordReport (id : String) (correct : Bool) (h : History) : List String :=
  [(if correct then "correct " else "wrong ") ++ id ++ ": " ++ toString h.rightInARow ++
    " in a row, mastered: " ++ yesNo h.mastered]

def bossText (p : Progress) : String :=
  (if p.bossDefeated then "conquered" else "unbeaten") ++
    if p.bossBestTime = .zero then "" else " in " ++ toString p.bossBestTime.seconds ++ "s"

def progressLines (id : String) (p : Progress) : List String :=
  (id ++ ": lessons " ++ toString p.lessonsCompleted ++ "/" ++ toString p.lessonsTotal ++
    ", practice " ++ toString p.right ++ "/" ++ toString p.attempts ++ " (" ++
    percent p.accuracy ++ "), boss " ++ bossText p) ::
    if p.weakest.isEmpty then [] else ["  weakest: " ++ listed "" p.weakest]

def statsReport (p : Profile) : List String :=
  ["score: " ++ toString p.totalScore,
    "streak: " ++ toString p.currentStreak ++ " (best " ++ toString p.bestStreak ++ ")",
    "time played: " ++ toString p.totalTime.seconds ++ "s",
    "last played: " ++ p.lastPlayed.elim "never" Instant.text,
    "bosses defeated: " ++ listed "none" p.bossesDefeated] ++
    p.modules.entries.flatMap fun e => progressLines e.1 e.2

/-- What a module is ready for. -/
def readiness (p : Profile) (order : List String) (module : String) : String :=
  if !p.isUnlocked order module then "locked"
  else if p.isBossReady order module then "boss ready"
  else if p.isPracticeReady order module then "practice ready"
  else "lessons"

def modulesReport (c : Catalog) (p : Profile) : List String :=
  c.chapters.map fun chapter =>
    padRight 14 chapter.id ++ padRight 22 chapter.info.name ++
      padLeft 3 (toString chapter.lessons.length) ++ " lessons  " ++
      readiness p c.order chapter.id

end MotionTutor.Cli
