import MotionTutor.Exercise
import MotionTutor.Json.Record
import MotionTutor.Limits

/-!
# Exercises as records

The fields of exercises, bosses and module headings in the documents of a corpus, and their
defaults.
-/

namespace MotionTutor

open Json (Value required optional)

/-! ## 1. Positions -/

def Position.read? (v : Value) : Option Position := do
  let [line, col] ← v.fields? ["line", "col"] | none
  let line ← required (Value.natural? wordLimit) line
  let col ← required (Value.natural? wordLimit) col
  return ⟨line, col⟩

def Position.write (p : Position) : Value :=
  .object [("line", .ofNat p.line), ("col", .ofNat p.col)]

/-! ## 2. Exercises -/

namespace Exercise

def fieldNames : List String :=
  ["id", "module", "level", "kind", "code", "cursor", "mission", "solutions", "optimal", "hint",
    "explanation", "timeoutSecs", "points", "validation"]

/-- The exercise of a record; what is left out is as in an exercise without further ado. -/
def read? (v : Value) : Option Exercise := do
  let [id, moduleId, level, kind, code, cursor, mission, solutions, optimal, hint, explanation,
    timeoutSecs, points, judging] ← v.fields? fieldNames | none
  let id ← required Value.text? id
  let moduleId ← optional "" Value.text? moduleId
  let level ← optional 1 (Value.natural? byteLimit) level
  let kind ← optional .lesson (Value.name? ExerciseKind.ofName?) kind
  let code ← required (Value.list? Value.text?) code
  let cursor ← required Position.read? cursor
  let mission ← required Value.text? mission
  let solutions ← required (Value.list? Value.text?) solutions
  let optimal ← required Value.text? optimal
  let hint ← optional "" Value.text? hint
  let explanation ← optional "" Value.text? explanation
  let timeoutSecs ← optional 30 (Value.natural? counterLimit) timeoutSecs
  let points ← optional 10 (Value.natural? counterLimit) points
  let judging ← optional .motion (Value.name? Judging.ofName?) judging
  return ⟨id, moduleId, level, kind, code, cursor, mission, solutions, optimal, hint, explanation,
    timeoutSecs, points, judging⟩

def write (e : Exercise) : Value :=
  .object [("id", .text e.id), ("module", .text e.moduleId), ("level", .ofNat e.level),
    ("kind", .text e.kind.name), ("code", .ofTexts e.code), ("cursor", e.cursor.write),
    ("mission", .text e.mission), ("solutions", .ofTexts e.solutions), ("optimal", .text e.optimal),
    ("hint", .text e.hint), ("explanation", .text e.explanation),
    ("timeoutSecs", .ofNat e.timeoutSecs), ("points", .ofNat e.points),
    ("validation", .text e.judging.name)]

end Exercise

/-! ## 3. Bosses -/

def BossStep.read? (v : Value) : Option BossStep := do
  let [timeLimit, exercise] ← v.fields? ["timeLimit", "exercise"] | none
  let timeLimit ← required (Value.natural? counterLimit) timeLimit
  let exercise ← required Exercise.read? exercise
  return ⟨timeLimit, exercise⟩

def BossStep.write (s : BossStep) : Value :=
  .object [("timeLimit", .ofNat s.timeLimit), ("exercise", s.exercise.write)]

def Boss.read? (v : Value) : Option Boss := do
  let [id, moduleId, name, lives, steps, bonusTime] ←
    v.fields? ["id", "module", "name", "lives", "steps", "bonusTime"] | none
  let id ← required Value.text? id
  let moduleId ← optional "" Value.text? moduleId
  let name ← required Value.text? name
  let lives ← required (Value.natural? counterLimit) lives
  let steps ← required (Value.list? BossStep.read?) steps
  let bonusTime ← optional 0 (Value.natural? counterLimit) bonusTime
  return ⟨id, moduleId, name, lives, steps, bonusTime⟩

def Boss.write (b : Boss) : Value :=
  .object [("id", .text b.id), ("module", .text b.moduleId), ("name", .text b.name),
    ("lives", .ofNat b.lives), ("steps", .array (b.steps.map BossStep.write)),
    ("bonusTime", .ofNat b.bonusTime)]

/-! ## 4. Module headings -/

def ModuleInfo.read? (v : Value) : Option ModuleInfo := do
  let [id, name, description, bossName, judging] ←
    v.fields? ["id", "name", "description", "bossName", "validation"] | none
  let id ← required Value.text? id
  let name ← required Value.text? name
  let description ← optional "" Value.text? description
  let bossName ← required Value.text? bossName
  let judging ← optional .motion (Value.name? Judging.ofName?) judging
  return ⟨id, name, description, bossName, judging⟩

def ModuleInfo.write (m : ModuleInfo) : Value :=
  .object [("id", .text m.id), ("name", .text m.name), ("description", .text m.description),
    ("bossName", .text m.bossName), ("validation", .text m.judging.name)]

end MotionTutor
