import MotionTutor.Exercise

/-!
# Chapters

A chapter is a module with its lessons and its boss. What a file holds of it does not know the
module it belongs to; `Chapter.assemble` puts the exercises in their place, which overrides what
they said of themselves.
-/

namespace MotionTutor

/-- What the file of a module holds. -/
structure ChapterContent where
  lessons : List Exercise
  boss : Option Boss
deriving DecidableEq, Repr

structure Chapter where
  info : ModuleInfo
  lessons : List Exercise
  boss : Option Boss
deriving DecidableEq, Repr

/-- The exercise as one of a module, served as the given kind and judged as the module is. -/
def Exercise.placed (e : Exercise) (info : ModuleInfo) (kind : ExerciseKind) : Exercise :=
  { e with moduleId := info.id, kind, judging := info.judging }

/-- The boss as that of a module. -/
def Boss.placed (b : Boss) (info : ModuleInfo) : Boss :=
  { b with
    moduleId := info.id
    steps := b.steps.map fun s => { s with exercise := s.exercise.placed info .boss } }

namespace Chapter

/-- A module with the content of its file. -/
def assemble (info : ModuleInfo) (content : ChapterContent) : Chapter where
  info
  lessons := content.lessons.map (·.placed info .lesson)
  boss := content.boss.map (·.placed info)

def id (c : Chapter) : String := c.info.id

/-- The exercises of the boss. -/
def bossExercises (c : Chapter) : List Exercise := (c.boss.elim [] (·.steps)).map (·.exercise)

/-- All exercises, those of the boss at the end. -/
def exercises (c : Chapter) : List Exercise := c.lessons ++ c.bossExercises

end Chapter

end MotionTutor
