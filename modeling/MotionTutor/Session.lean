import MotionTutor.Catalog
import MotionTutor.Judge
import MotionTutor.Practice.Draw
import MotionTutor.Refusal
import MotionTutor.Stats.Profile

/-!
# Sessions

A session leads a player through lessons, practice and boss fights, and writes the results to the
player's profile at once. What is fixed here:

* A start of lessons, practice or a boss fight begins a new sitting; one that is refused changes
  nothing.
* Where a sitting stands follows from what goes on in it (`Activity.outcome`, `Activity.current`);
  nothing of it is kept twice. Only practice says itself whether it is complete, since it can be
  taken up again.
* Answers count only while the sitting is in progress. A right one makes the streak longer and
  brings points; a wrong one ends streak and combo and costs a life in a boss fight.
* A won fight is credited once, when asked for (`recordVictory`).
-/

namespace MotionTutor

/-! ## 1. Sittings -/

inductive Outcome
  | inProgress
  | complete
  | playerDefeated
  | victory
deriving DecidableEq, Repr

/-- A run at a boss. -/
structure Fight where
  boss : Boss
  step : Nat
  lives : Nat
  /-- The win was recorded. -/
  credited : Bool
deriving DecidableEq, Repr

/-- What goes on in a sitting. -/
inductive Activity
  | idle
  | lesson (chapter : Chapter) (index : Nat)
  | practice (chapter : Chapter) (current : Option Exercise) (complete : Bool)
  | boss (chapter : Chapter) (fight : Fight)
deriving DecidableEq, Repr

namespace Fight

/-- A fight at its first step, with all lives. -/
def start (boss : Boss) : Fight := ⟨boss, 0, boss.lives, false⟩

def outcome (f : Fight) : Outcome :=
  if f.boss.steps.length ≤ f.step then .victory
  else if f.lives = 0 then .playerDefeated
  else .inProgress

/-- The step to be done; none after the last. -/
def currentStep (f : Fight) : Option BossStep := f.boss.steps[f.step]?

end Fight

namespace Activity

def outcome : Activity → Outcome
  | idle => .inProgress
  | lesson chapter index => if index < chapter.lessons.length then .inProgress else .complete
  | practice _ _ complete => if complete then .complete else .inProgress
  | boss _ fight => fight.outcome

/-- The exercise in front of the player. -/
def current : Activity → Option Exercise
  | idle => none
  | lesson chapter index => chapter.lessons[index]?
  | practice _ current _ => current
  | boss _ fight => fight.currentStep.map (·.exercise)

/-- The module it takes place in. -/
def chapter? : Activity → Option Chapter
  | idle => none
  | lesson chapter _ | practice chapter _ _ | boss chapter _ => some chapter

/-- How many lessons were moved past. -/
def lessonIndex : Activity → Nat
  | lesson _ index => index
  | _ => 0

def fight? : Activity → Option Fight
  | boss _ fight => some fight
  | _ => none

end Activity

/-- All that ends with the sitting. -/
structure Sitting where
  activity : Activity
  /-- The right answers since the last wrong one. -/
  streak : Nat
  /-- What the points of the next right answer are multiplied by. -/
  combo : Nat
  score : Nat
  elapsed : Duration
deriving DecidableEq, Repr

namespace Sitting

/-- A sitting in which nothing happened yet. -/
def start (activity : Activity) : Sitting := ⟨activity, 0, 1, 0, .zero⟩

def isInProgress (s : Sitting) : Bool := s.activity.outcome = .inProgress

end Sitting

structure Session where
  catalog : Catalog
  profile : Profile
  weights : Weights
  words : Words
  sitting : Sitting

namespace Session

/-- The largest combo. -/
def maxCombo : Nat := 4

/-- The score for a defeated boss. -/
def victoryBonus : Nat := 500

/-- An idle session. -/
def start (catalog : Catalog) (profile : Profile) (words : Words) : Session :=
  ⟨catalog, profile, .byMastery, words, .start .idle⟩

variable (s : Session)

def outcome : Outcome := s.sitting.activity.outcome

def current : Option Exercise := s.sitting.activity.current

/-! ## 2. Parts of the operations -/

def setActivity (activity : Activity) : Session :=
  { s with sitting := { s.sitting with activity } }

/-- Changes the progress in a module. -/
def modifyProgress (module : String) (f : Progress → Progress) : Session :=
  { s with profile := s.profile.modifyProgress module f }

/-- Adds to the score of the sitting and to the score of all time. -/
def addScore (points : Nat) : Session :=
  { s with
    sitting := { s.sitting with score := s.sitting.score + points }
    profile := { s.profile with totalScore := s.profile.totalScore + points } }

/-- Sets the running streak. -/
def setStreak (streak : Nat) : Session :=
  { s with
    sitting := { s.sitting with streak }
    profile := s.profile.recordStreak streak }

def setCombo (combo : Nat) : Session := { s with sitting := { s.sitting with combo } }

/-- The chapter of a module that may be started. -/
def openChapter (module : String) : Except Refusal Chapter :=
  match s.catalog.chapter? module with
  | none => .error (.unknownModule module)
  | some chapter =>
    if s.profile.isUnlocked s.catalog.order module then .ok chapter else .error (.locked module)

/-- A new sitting. -/
def begin (now : Instant) (activity : Activity) : Session :=
  { s with
    sitting := .start activity
    profile := { s.profile with lastPlayed := some now } }

/-! ## 3. Starting -/

/-- Starts the lessons of a module at the first one. -/
def startLesson (now : Instant) (module : String) : Except Refusal Session :=
  (s.openChapter module).map fun chapter =>
    (s.begin now (.lesson chapter 0)).modifyProgress module fun p =>
      { p with lessonsTotal := chapter.lessons.length }.completeLessons p.lessonsCompleted

/-- Puts a drawn exercise in front of the player, in practice. Without one to draw practice is
complete. Says whether there was one. -/
def nextPractice : Bool × Session :=
  match s.sitting.activity with
  | .practice chapter _ complete =>
    match Practice.select s.weights (s.profile.progress chapter.id) chapter.lessons s.words with
    | (some e, words) =>
      (true, { s with words }.setActivity (.practice chapter (some e) complete))
    | (none, words) => (false, { s with words }.setActivity (.practice chapter none true))
  | _ => (false, s)

/-- Starts practice in a module. -/
def startPractice (now : Instant) (module : String) : Except Refusal Session :=
  (s.openChapter module).map fun chapter =>
    (s.begin now (.practice chapter none false)).nextPractice.2

/-- Starts a fight with the boss of a module. -/
def startBoss (now : Instant) (module : String) : Except Refusal Session :=
  match s.catalog.boss? module with
  | none => .error (.noBoss module)
  | some boss =>
    (s.openChapter module).map fun chapter =>
      (s.begin now (.boss chapter (.start boss))).modifyProgress module fun p =>
        { p with bossAttempts := p.bossAttempts + 1 }

/-! ## 4. Answers -/

/-- Judges an answer to the current exercise. -/
def judge (answer : String) : Verdict :=
  match s.current with
  | some e => e.judge answer
  | none => .neutral none

/-- Records a practised answer to the current exercise, if there is one. -/
def recordPractice (now : Instant) (module : String) (current : Option Exercise)
    (correct : Bool) : Session :=
  match current with
  | some e => s.modifyProgress module fun p => p.recordPractice e.id correct now
  | none => s

/-- The points of a right answer to the current exercise. -/
def pointsFor (elapsed : Float) (optimal : Bool) : Nat :=
  s.current.elim 0 fun e => e.pointsFor elapsed optimal s.sitting.combo

/-- Records a right answer and says what it brings. -/
def recordCorrect (now : Instant) (elapsed : Float) (optimal : Bool) : Nat × Session :=
  if s.sitting.isInProgress then
    let points := s.pointsFor elapsed optimal
    let t := (s.setStreak (s.sitting.streak + 1)).addScore points
    (points,
      match s.sitting.activity with
      | .idle => t
      | .lesson chapter index =>
        t.modifyProgress chapter.id fun p =>
          if p.lessonsCompleted < index + 1 then p.completeLessons (index + 1) else p
      | .practice chapter current _ => t.recordPractice now chapter.id current true
      | .boss _ _ => t.setCombo (min maxCombo (s.sitting.combo + 1)))
  else (0, s)

/-- Records a wrong answer. -/
def recordIncorrect (now : Instant) : Session :=
  if s.sitting.isInProgress then
    let t := (s.setStreak 0).setCombo 1
    match s.sitting.activity with
    | .idle | .lesson _ _ => t
    | .practice chapter current _ => t.recordPractice now chapter.id current false
    | .boss chapter fight => t.setActivity (.boss chapter { fight with lives := fight.lives - 1 })
  else s

/-- Judges an answer and records it; also says what it brings. -/
def submit (now : Instant) (answer : String) (elapsed : Float) : (Verdict × Nat) × Session :=
  let verdict := s.judge answer
  if verdict.correct then
    let (points, t) := s.recordCorrect now elapsed verdict.optimal
    ((verdict, points), t)
  else ((verdict, 0), s.recordIncorrect now)

/-! ## 5. Going on -/

/-- Moves on to the next exercise; says whether there is one. -/
def advance : Bool × Session :=
  if s.sitting.isInProgress then
    match s.sitting.activity with
    | .idle => (false, s)
    | .practice _ _ _ => s.nextPractice
    | .lesson chapter index =>
      let t := s.setActivity (.lesson chapter (index + 1))
      if index + 1 < chapter.lessons.length then (true, t)
      else (false, t.modifyProgress chapter.id fun p => p.completeLessons p.lessonsTotal)
    | .boss chapter fight =>
      let fight := { fight with step := fight.step + 1 }
      (fight.step < fight.boss.steps.length, s.setActivity (.boss chapter fight))
  else (false, s)

/-- Puts an exercise of the player's choice in front of the player, in practice. -/
def setPractice (e : Exercise) : Session :=
  match s.sitting.activity with
  | .practice chapter _ _ => s.setActivity (.practice chapter (some e) false)
  | _ => s

/-- Credits a won fight, once; says whether it did. -/
def recordVictory : Bool × Session :=
  match s.sitting.activity with
  | .boss chapter fight =>
    if fight.outcome = .victory && !fight.credited then
      let t := s.setActivity (.boss chapter { fight with credited := true })
      let t := { t with profile := t.profile.markBossDefeated chapter.id }
      let t := t.modifyProgress chapter.id fun p => p.recordBossWin s.sitting.elapsed fight.lives
      (true, t.addScore victoryBonus)
    else (false, s)
  | _ => (false, s)

/-! ## 6. Time, rules and the end of a sitting -/

/-- Adds time spent, to the sitting and to all time. -/
def addElapsed (spent : Duration) : Session :=
  { s with
    sitting := { s.sitting with elapsed := s.sitting.elapsed + spent }
    profile := { s.profile with totalTime := s.profile.totalTime + spent } }

/-- Changes the rule by which practice is drawn. -/
def setWeights (weights : Weights) : Session := { s with weights }

/-- Ends the sitting. The profile keeps what was recorded. -/
def reset : Session := { s with sitting := .start .idle }

end Session

end MotionTutor
