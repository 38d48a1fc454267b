import MotionTutor.Stats.Progress

/-!
# What is kept about a player

A profile outlives the sittings that write to it. It also says which modules are open: the first in
the order of the catalog always, any other once the boss of the one before it is defeated. Practice
is ready when the lessons of an open module are done, and its boss when practice has gone well often
enough.
-/

namespace MotionTutor

structure Profile where
  totalScore : Nat
  currentStreak : Nat
  bestStreak : Nat
  totalTime : Duration
  lastPlayed : Option Instant
  /-- The modules whose bosses were defeated, in the order of the first wins. -/
  bossesDefeated : List String
  /-- By the id of the module. -/
  modules : SortedMap Progress
deriving BEq

namespace Profile

def fresh : Profile := ⟨0, 0, 0, .zero, none, [], .empty⟩

instance : Inhabited Profile := ⟨fresh⟩

/-! ## 1. Modules -/

def progress? (p : Profile) (module : String) : Option Progress := p.modules.find? module

/-- The progress in a module; fresh if there is none yet. -/
def progress (p : Profile) (module : String) : Progress := (p.progress? module).getD .fresh

/-- Changes the progress in a module, which may be fresh. -/
def modifyProgress (p : Profile) (module : String) (f : Progress → Progress) : Profile :=
  { p with modules := p.modules.modify module fun m => f (m.getD .fresh) }

/-! ## 2. Streaks -/

/-- Records the length that the running streak has reached. -/
def recordStreak (p : Profile) (streak : Nat) : Profile :=
  { p with currentStreak := streak, bestStreak := max p.bestStreak streak }

/-! ## 3. Bosses -/

def isBossDefeated (p : Profile) (module : String) : Bool := p.bossesDefeated.contains module

/-- Adds a module to those whose boss was defeated, once. -/
def markBossDefeated (p : Profile) (module : String) : Profile :=
  if p.isBossDefeated module then p
  else { p with bossesDefeated := p.bossesDefeated ++ [module] }

/-! ## 4. What is open

`order` lists the modules of the catalog. -/

def isUnlocked (p : Profile) (order : List String) (module : String) : Bool :=
  match order.idxOf? module with
  | none => false
  | some 0 => true
  | some (i + 1) => order[i]?.any p.isBossDefeated

def lessonsComplete (p : Profile) (module : String) : Bool :=
  (p.progress? module).any Progress.lessonsComplete

def isPracticeReady (p : Profile) (order : List String) (module : String) : Bool :=
  p.isUnlocked order module && p.lessonsComplete module

/-- The accuracy in practice that a boss asks for. -/
def bossAccuracy : Float := 0.8

/-- The answers in practice that a boss asks for. -/
def bossAttempts : Nat := 10

def isBossReady (p : Profile) (order : List String) (module : String) : Bool :=
  p.isPracticeReady order module &&
    (p.progress? module).any fun m => bossAccuracy ≤ m.accuracy && bossAttempts ≤ m.attempts

end Profile

end MotionTutor
