import MotionTutor.Proofs.Fields.Counters
import MotionTutor.Proofs.Session.Turn

/-!
# A session field by field

`Session` keeps what goes on in a sitting in one place, so that where it stands follows from it.
Here a session is a flat record: its mode, its outcome, its module, the exercise at hand and the
state of a fight are fields of their own (`Fields`), and nothing but the operations keeps them in
step. Each operation writes one field after the other, looks modules up by their names, and goes by
no more than the fields it reads; counters have a width (`Overflow`), so an operation may stop the
program, which is a result of none.

`Session.fields` are the fields that a session shows.
-/

namespace MotionTutor

/-! ## 1. Fields -/

/-- What goes on in a sitting. -/
inductive Mode
  | idle
  | lesson
  | practice
  | boss
deriving DecidableEq, Repr

/-- The fields of a session. -/
@[ext]
structure Fields where
  catalog : Catalog
  profile : Profile
  weights : Weights
  words : Words
  mode : Mode
  outcome : Outcome
  /-- The name of the module; empty if there is none. -/
  module : String
  current : Option Exercise
  lessonIndex : Nat
  boss : Option Boss
  bossStep : Nat
  bossLives : Nat
  victoryRecorded : Bool
  streak : Nat
  combo : Nat
  score : Nat
  elapsed : Duration

namespace Fields

/-- An idle session. -/
def start (catalog : Catalog) (profile : Profile) (words : Words) : Fields where
  catalog
  profile
  weights := .byMastery
  words
  mode := .idle
  outcome := .inProgress
  module := ""
  current := none
  lessonIndex := 0
  boss := none
  bossStep := 0
  bossLives := 0
  victoryRecorded := false
  streak := 0
  combo := 1
  score := 0
  elapsed := .zero

variable (o : Overflow) (s : Fields)

/-- The progress in the module; fresh if there is none yet. -/
def progress : Progress := s.profile.progress s.module

def setProgress (p : Progress) : Fields :=
  { s with profile := s.profile.modifyProgress s.module fun _ => p }

/-- Puts an exercise in front of the player. -/
def present (e : Exercise) : Fields := { s with current := some e }

/-- No exercise is left. -/
def finish (outcome : Outcome) : Fields :=
  let s := { s with current := none }
  { s with outcome }

/-- One right answer more in a row. -/
def lengthenStreak : Option Fields := do
  let s := { s with streak := ← o.add counterLimit s.streak 1 }
  return { s with profile := s.profile.recordStreak s.streak }

/-- The end of streak and combo. -/
def breakStreak : Fields :=
  let s := { s with streak := 0 }
  let s := { s with profile := { s.profile with currentStreak := 0 } }
  { s with combo := 1 }

/-- One life less; without a life the player is defeated. -/
def loseLife : Fields :=
  let s := { s with bossLives := s.bossLives - 1 }
  { s with outcome := if s.bossLives = 0 then .playerDefeated else s.outcome }

/-- Adds to the score of the sitting and to the score of all time. -/
def addScore (points : Nat) : Option Fields := do
  let s := { s with score := ← o.add wordLimit s.score points }
  let total ← o.add wordLimit s.profile.totalScore points
  return { s with profile := { s.profile with totalScore := total } }

/-! ## 2. Starting -/

def reset : Fields :=
  let s := { s with mode := .idle }
  let s := { s with outcome := .inProgress }
  let s := { s with module := "" }
  let s := { s with current := none }
  let s := { s with lessonIndex := 0 }
  let s := { s with boss := none }
  let s := { s with bossStep := 0 }
  let s := { s with bossLives := 0 }
  let s := { s with victoryRecorded := false }
  let s := { s with streak := 0 }
  let s := { s with combo := 1 }
  let s := { s with score := 0 }
  { s with elapsed := .zero }

/-- A new sitting. -/
def enter (now : Instant) (module : String) (mode : Mode) : Fields :=
  let s := s.reset
  let s := { s with module }
  let s := { s with mode }
  { s with profile := { s.profile with lastPlayed := some now } }

/-- Begins a sitting, or refuses to. -/
def begin (now : Instant) (module : String) (mode : Mode) : Option Refusal × Fields :=
  if (s.catalog.chapter? module).isNone then (some (.unknownModule module), s)
  else if s.profile.isUnlocked s.catalog.order module = false then (some (.locked module), s)
  else (none, s.enter now module mode)

def startLesson (now : Instant) (module : String) : Reply × Fields :=
  match s.begin now module .lesson with
  | (some refusal, s) => (.refused refusal, s)
  | (none, s) =>
    let lessons := s.catalog.lessons module
    let total := o.clamp counterLimit lessons.length
    let s := s.setProgress { s.progress with lessonsTotal := total }
    let s := s.setProgress (s.progress.completeLessons s.progress.lessonsCompleted)
    let s := { s with current := lessons.head? }
    (.done, { s with outcome := if s.current.isNone then .complete else s.outcome })

/-- Draws the next exercise in practice, or completes practice. -/
def nextPractice : Bool × Fields :=
  if s.mode = .practice then
    match Practice.select s.weights s.progress (s.catalog.lessons s.module) s.words with
    | (some e, words) => (true, { s with words }.present e)
    | (none, words) => (false, { s with words }.finish .complete)
  else (false, s)

def startPractice (now : Instant) (module : String) : Reply × Fields :=
  match s.begin now module .practice with
  | (some refusal, s) => (.refused refusal, s)
  | (none, s) => (.done, s.nextPractice.2)

def startBoss (now : Instant) (module : String) : Option (Reply × Fields) :=
  match s.catalog.boss? module with
  | none => some (.refused (.noBoss module), s)
  | some boss =>
    match s.begin now module .boss with
    | (some refusal, s) => some (.refused refusal, s)
    | (none, s) => do
      let s := { s with boss := some boss }
      let s := { s with bossLives := boss.lives }
      let s := { s with current := boss.steps.head?.map BossStep.exercise }
      let attempts ← o.add counterLimit s.progress.bossAttempts 1
      return (.done, s.setProgress { s.progress with bossAttempts := attempts })

/-! ## 3. Answers -/

def judge (answer : String) : Verdict :=
  match s.current with
  | some e => e.judge answer
  | none => .neutral none

def recordPractice (now : Instant) (correct : Bool) : Option Fields :=
  match s.current with
  | none => some s
  | some e => do
    let p ← s.progress.recordPracticeWith o e.id correct now
    return s.setProgress p

/-- What a right answer means to what goes on. -/
def countRight (now : Instant) : Option Fields :=
  match s.mode with
  | .lesson =>
    let done := o.clamp counterLimit (s.lessonIndex + 1)
    let p := s.progress
    some (s.setProgress (if p.lessonsCompleted < done then p.completeLessons done else p))
  | .practice => s.recordPractice o now true
  | .boss => some { s with combo := min Session.maxCombo (s.combo + 1) }
  | .idle => some s

/-- Records a right answer and says what it brings. -/
def recordCorrect (now : Instant) (elapsed : Float) (optimal : Bool) : Option (Nat × Fields) :=
  if s.outcome = .inProgress then do
    let s ← s.lengthenStreak o
    let points := s.current.elim 0 fun e => e.pointsFor elapsed optimal s.combo
    let s ← s.addScore o points
    return (points, ← s.countRight o now)
  else some (0, s)

/-- Records a wrong answer. -/
def recordIncorrect (now : Instant) : Option Fields :=
  if s.outcome = .inProgress then
    let s := s.breakStreak
    match s.mode with
    | .practice => s.recordPractice o now false
    | .boss => some s.loseLife
    | .lesson | .idle => some s
  else some s

/-- Judges an answer and records it; also says what it brings. -/
def submit (now : Instant) (answer : String) (elapsed : Float) :
    Option ((Verdict × Nat) × Fields) := do
  let verdict := s.judge answer
  if verdict.correct then
    let (points, s) ← s.recordCorrect o now elapsed verdict.optimal
    return ((verdict, points), s)
  else
    let s ← s.recordIncorrect o now
    return ((verdict, 0), s)

/-! ## 4. Going on -/

/-- Moves on to the next exercise; says whether there is one. -/
def advance : Bool × Fields :=
  if s.outcome = .inProgress then
    match s.mode with
    | .idle => (false, s)
    | .practice => s.nextPractice
    | .lesson =>
      let s := { s with lessonIndex := s.lessonIndex + 1 }
      match (s.catalog.lessons s.module)[s.lessonIndex]? with
      | some next => (true, s.present next)
      | none =>
        let s := s.setProgress (s.progress.completeLessons s.progress.lessonsTotal)
        (false, s.finish .complete)
    | .boss =>
      let s := { s with bossStep := s.bossStep + 1 }
      match s.boss.bind fun boss => boss.steps[s.bossStep]? with
      | some step => (true, s.present step.exercise)
      | none => (false, s.finish .victory)
  else (false, s)

/-- Puts an exercise of the player's choice in front of the player, in practice. -/
def setPractice (e : Exercise) : Fields :=
  if s.mode = .practice then
    let s := s.present e
    { s with outcome := .inProgress }
  else s

/-- Credits a won fight, once; says whether it did. -/
def recordVictory : Option (Bool × Fields) :=
  if s.mode ≠ .boss ∨ s.outcome ≠ .victory ∨ s.victoryRecorded = true then some (false, s)
  else do
    let s := { s with victoryRecorded := true }
    let s := { s with profile := s.profile.markBossDefeated s.module }
    let s := s.setProgress (s.progress.recordBossWin s.elapsed s.bossLives)
    return (true, ← s.addScore o Session.victoryBonus)

/-- Adds time spent, to the sitting and to all time. -/
def addElapsed (spent : Duration) : Option Fields := do
  let s := { s with elapsed := ← o.addTime s.elapsed spent }
  let total ← o.addTime s.profile.totalTime spent
  return { s with profile := { s.profile with totalTime := total } }

def setWeights (weights : Weights) : Fields := { s with weights }

/-! ## 5. Requests -/

/-- Serves a request; none if the program stops. -/
def serve : Request → Option (Reply × Fields)
  | .startLesson now module => some (s.startLesson o now module)
  | .startPractice now module => some (s.startPractice now module)
  | .startBoss now module => s.startBoss o now module
  | .submit now answer elapsed =>
    (s.submit o now answer elapsed).map fun ((verdict, points), t) => (.judged verdict points, t)
  | .recordCorrect now elapsed optimal =>
    (s.recordCorrect o now elapsed optimal).map fun (points, t) => (.brought points, t)
  | .recordIncorrect now => (s.recordIncorrect o now).map fun t => (.done, t)
  | .advance => some (.told s.advance.1, s.advance.2)
  | .nextPractice => some (.told s.nextPractice.1, s.nextPractice.2)
  | .setPractice e => some (.done, s.setPractice e)
  | .recordVictory => (s.recordVictory o).map fun (won, t) => (.told won, t)
  | .addElapsed time => (s.addElapsed o time).map fun t => (.done, t)
  | .setWeights weights => some (.done, s.setWeights weights)
  | .reset => some (.done, s.reset)

/-- The fields after some requests; none if the program has stopped. -/
def run (s : Fields) : List Request → Option Fields
  | [] => some s
  | r :: requests => (s.serve o r).bind fun (_, t) => t.run requests

variable {o s} {now : Instant} {module : String} {mode : Mode}

/-! ## 6. Parts of the operations -/

/-- Fields with the same outcome and the same exercise, and otherwise alike, are the same. -/
theorem eq_of_outcome_current {t : Fields}
    (h : { s with outcome := t.outcome, current := t.current } = t)
    (houtcome : s.outcome = t.outcome) (hcurrent : s.current = t.current) : s = t := by
  rw [← houtcome, ← hcurrent] at h
  exact h

@[simp] theorem progress_setProgress (s : Fields) (p : Progress) :
    (s.setProgress p).progress = p := by
  have hfind := SortedMap.find?_modify s.profile.modules s.module (fun _ => p) s.module
  rw [if_pos rfl] at hfind
  exact congrArg (fun found => found.getD .fresh) hfind

@[simp] theorem setProgress_setProgress (s : Fields) (p q : Progress) :
    (s.setProgress p).setProgress q = s.setProgress q := by
  have hmodules : ((s.profile.modules.modify s.module fun _ => p).modify s.module fun _ => q) =
      s.profile.modules.modify s.module fun _ => q :=
    SortedMap.ext_find? fun k => by
      simp only [SortedMap.find?_modify]
      split <;> rfl
  exact congrArg (fun modules => { s with profile := { s.profile with modules } }) hmodules

theorem begin_of_unknown (h : s.catalog.chapter? module = none) :
    s.begin now module mode = (some (.unknownModule module), s) := by
  rw [begin, h]
  rfl

theorem begin_of_locked {c : Chapter} (h : s.catalog.chapter? module = some c)
    (hlocked : s.profile.isUnlocked s.catalog.order module = false) :
    s.begin now module mode = (some (.locked module), s) := by
  rw [begin, h, hlocked]
  rfl

theorem begin_of_open {c : Chapter} (h : s.catalog.chapter? module = some c)
    (hopen : s.profile.isUnlocked s.catalog.order module = true) :
    s.begin now module mode = (none, s.enter now module mode) := by
  rw [begin, h, hopen]
  rfl

section Draws

variable {words : Words}

theorem nextPractice_of_some (hmode : s.mode = .practice) {e : Exercise}
    (hdrawn : Practice.select s.weights s.progress (s.catalog.lessons s.module) s.words =
      (some e, words)) :
    s.nextPractice = (true, { s with words }.present e) := by
  rw [nextPractice, if_pos hmode, hdrawn]

theorem nextPractice_of_none (hmode : s.mode = .practice)
    (hdrawn : Practice.select s.weights s.progress (s.catalog.lessons s.module) s.words =
      (none, words)) :
    s.nextPractice = (false, { s with words }.finish .complete) := by
  rw [nextPractice, if_pos hmode, hdrawn]

end Draws

theorem advance_of_nextLesson (hin : s.outcome = .inProgress) (hmode : s.mode = .lesson)
    {next : Exercise}
    (hnext : (s.catalog.lessons s.module)[s.lessonIndex + 1]? = some next) :
    s.advance = (true, { s with lessonIndex := s.lessonIndex + 1 }.present next) := by
  rw [advance, if_pos hin, hmode]
  dsimp only
  rw [hnext, ← hmode]

theorem advance_of_lastLesson (hin : s.outcome = .inProgress) (hmode : s.mode = .lesson)
    (hnext : (s.catalog.lessons s.module)[s.lessonIndex + 1]? = none) :
    s.advance = (false, ({ s with lessonIndex := s.lessonIndex + 1 }.setProgress
      (s.progress.completeLessons s.progress.lessonsTotal)).finish .complete) := by
  rw [advance, if_pos hin, hmode]
  dsimp only
  rw [hnext, ← hmode]
  rfl

theorem advance_of_nextStep (hin : s.outcome = .inProgress) (hmode : s.mode = .boss)
    {step : BossStep}
    (hnext : (s.boss.bind fun boss => boss.steps[s.bossStep + 1]?) = some step) :
    s.advance = (true, { s with bossStep := s.bossStep + 1 }.present step.exercise) := by
  rw [advance, if_pos hin, hmode]
  dsimp only
  rw [hnext, ← hmode]

theorem advance_of_lastStep (hin : s.outcome = .inProgress) (hmode : s.mode = .boss)
    (hnext : (s.boss.bind fun boss => boss.steps[s.bossStep + 1]?) = none) :
    s.advance = (false, { s with bossStep := s.bossStep + 1 }.finish .victory) := by
  rw [advance, if_pos hin, hmode]
  dsimp only
  rw [hnext, ← hmode]

/-! ## 7. Runs -/

/-- **What holds at the start, and is kept by every request that is served, holds after any
requests.** -/
theorem run_induction {P : Fields → Prop} {t : Fields} {requests : List Request}
    (h : s.run o requests = some t) (start : P s)
    (serve : ∀ s r reply t, P s → s.serve o r = some (reply, t) → P t) : P t := by
  induction requests generalizing s with
  | nil =>
    cases h
    exact start
  | cons r requests ih =>
    obtain ⟨⟨reply, s'⟩, hserve, hrun⟩ := Option.bind_eq_some_iff.1 h
    exact ih hrun (serve s r reply s' start hserve)

end Fields

/-! ## 8. The fields of a session -/

def Activity.mode : Activity → Mode
  | idle => .idle
  | lesson _ _ => .lesson
  | practice _ _ _ => .practice
  | boss _ _ => .boss

/-- The fields that a session shows. -/
def Session.fields (s : Session) : Fields where
  catalog := s.catalog
  profile := s.profile
  weights := s.weights
  words := s.words
  mode := s.sitting.activity.mode
  outcome := s.outcome
  module := s.sitting.activity.chapter?.elim "" Chapter.id
  current := s.current
  lessonIndex := s.sitting.activity.lessonIndex
  boss := s.sitting.activity.fight?.map Fight.boss
  bossStep := s.sitting.activity.fight?.elim 0 Fight.step
  bossLives := s.sitting.activity.fight?.elim 0 Fight.lives
  victoryRecorded := s.sitting.activity.fight?.any Fight.credited
  streak := s.sitting.streak
  combo := s.sitting.combo
  score := s.sitting.score
  elapsed := s.sitting.elapsed

theorem Session.fields_start (catalog : Catalog) (profile : Profile) (words : Words) :
    (Session.start catalog profile words).fields = Fields.start catalog profile words := rfl

end MotionTutor
