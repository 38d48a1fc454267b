import MotionTutor.Json.Printer
import MotionTutor.Json.Reader
import MotionTutor.Json.Record
import MotionTutor.Limits
import MotionTutor.Stats.Profile

/-!
# Profiles as records

The fields of profiles, progresses and histories in a saved document. Every field has a default, so
an older document reads too.

* A span of time is its whole seconds, at most `2 ^ 63 - 1`; a negative number reads as zero.
* A point in time is its text, or the empty text for none.
-/

namespace MotionTutor

open Json (Value optional)

/-! ## 1. Times -/

/-- The largest number of seconds that is written. -/
def Duration.maxWritten : Nat := integerLimit - 1

def Duration.read? (v : Value) : Option Duration := v.integer?.map fun n => .ofSeconds n.toNat

def Duration.write (d : Duration) : Value := .ofNat (min d.seconds maxWritten)

/-- A point in time or none. -/
def Instant.readOptional? (v : Value) : Option (Option Instant) :=
  v.text?.bind fun s => if s.isEmpty then some none else (Instant.parse? s).map some

def Instant.writeOptional (t : Option Instant) : Value := .text (t.elim "" Instant.text)

/-- A counter of 32 bits that may be missing. -/
def readCounter : Option Value → Option Nat := optional 0 (Value.natural? counterLimit)

/-! ## 2. Histories -/

namespace History

def read? (v : Value) : Option History := do
  let [attempts, right, wrong, rightInARow, mastered, lastAttempted] ← v.fields?
    ["totalAttempts", "totalCorrect", "totalWrong", "consecutiveRight", "mastered", "lastAttempted"]
    | none
  let attempts ← readCounter attempts
  let right ← readCounter right
  let wrong ← readCounter wrong
  let rightInARow ← readCounter rightInARow
  let mastered ← optional false Value.bool? mastered
  let lastAttempted ← optional 0 Value.integer? lastAttempted
  return ⟨attempts, right, wrong, rightInARow, mastered, lastAttempted⟩

def write (h : History) : Value :=
  .object [("totalAttempts", .ofNat h.attempts), ("totalCorrect", .ofNat h.right),
    ("totalWrong", .ofNat h.wrong), ("consecutiveRight", .ofNat h.rightInARow),
    ("mastered", .bool h.mastered), ("lastAttempted", .ofInt h.lastAttempted)]

end History

/-! ## 3. Progress -/

namespace Progress

def fieldNames : List String :=
  ["lessonsCompleted", "lessonsTotal", "practiceAccuracy", "practiceAttempts", "practiceCorrect",
    "bossDefeated", "bossBestTimeSeconds", "bossAttempts", "bossLivesLeft", "exerciseStats",
    "weakExercises", "lastPracticed"]

def read? (v : Value) : Option Progress := do
  let [lessonsCompleted, lessonsTotal, accuracy, attempts, right, bossDefeated, bossBestTime,
    bossAttempts, bossLivesLeft, histories, weakest, lastPracticed] ← v.fields? fieldNames | none
  let lessonsCompleted ← readCounter lessonsCompleted
  let lessonsTotal ← readCounter lessonsTotal
  let accuracy ← optional 0.0 Value.float? accuracy
  let attempts ← readCounter attempts
  let right ← readCounter right
  let bossDefeated ← optional false Value.bool? bossDefeated
  let bossBestTime ← optional .zero Duration.read? bossBestTime
  let bossAttempts ← readCounter bossAttempts
  let bossLivesLeft ← readCounter bossLivesLeft
  let histories ← optional .empty (Value.map? History.read?) histories
  let weakest ← optional [] (Value.list? Value.text?) weakest
  let lastPracticed ← optional none Instant.readOptional? lastPracticed
  return ⟨lessonsCompleted, lessonsTotal, accuracy, attempts, right, bossDefeated, bossBestTime,
    bossAttempts, bossLivesLeft, histories, weakest, lastPracticed⟩

def write (p : Progress) : Value :=
  .object [("lessonsCompleted", .ofNat p.lessonsCompleted),
    ("lessonsTotal", .ofNat p.lessonsTotal), ("practiceAccuracy", .ofFloat p.accuracy),
    ("practiceAttempts", .ofNat p.attempts), ("practiceCorrect", .ofNat p.right),
    ("bossDefeated", .bool p.bossDefeated), ("bossBestTimeSeconds", p.bossBestTime.write),
    ("bossAttempts", .ofNat p.bossAttempts), ("bossLivesLeft", .ofNat p.bossLivesLeft),
    ("exerciseStats", .ofMap History.write p.histories), ("weakExercises", .ofTexts p.weakest),
    ("lastPracticed", Instant.writeOptional p.lastPracticed)]

end Progress

/-! ## 4. Profiles -/

namespace Profile

def fieldNames : List String :=
  ["totalScore", "currentStreak", "bestStreak", "totalTimeSeconds", "lastPlayed", "bossesDefeated",
    "modules"]

def read? (v : Value) : Option Profile := do
  let [totalScore, currentStreak, bestStreak, totalTime, lastPlayed, bossesDefeated, modules] ←
    v.fields? fieldNames | none
  let totalScore ← optional 0 (Value.natural? wordLimit) totalScore
  let currentStreak ← readCounter currentStreak
  let bestStreak ← readCounter bestStreak
  let totalTime ← optional .zero Duration.read? totalTime
  let lastPlayed ← optional none Instant.readOptional? lastPlayed
  let bossesDefeated ← optional [] (Value.list? Value.text?) bossesDefeated
  let modules ← optional .empty (Value.map? Progress.read?) modules
  return ⟨totalScore, currentStreak, bestStreak, totalTime, lastPlayed, bossesDefeated, modules⟩

def write (p : Profile) : Value :=
  .object [("totalScore", .ofNat p.totalScore), ("currentStreak", .ofNat p.currentStreak),
    ("bestStreak", .ofNat p.bestStreak), ("totalTimeSeconds", p.totalTime.write),
    ("lastPlayed", Instant.writeOptional p.lastPlayed),
    ("bossesDefeated", .ofTexts p.bossesDefeated), ("modules", .ofMap Progress.write p.modules)]

/-- The profile of a document. -/
def parse? (document : String) : Option Profile := (Value.parse? document).bind read?

/-- The document of a profile. -/
def render (p : Profile) : String := p.write.render

end Profile

end MotionTutor
