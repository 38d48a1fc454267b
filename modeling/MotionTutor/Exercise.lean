import MotionTutor.Position

/-!
# Exercises

An exercise shows a piece of code with the cursor somewhere in it and asks for keys; it lists the
answers it accepts, one of them optimal. A module is a list of lessons with a boss at its end, and a
boss is a list of exercises to be done against the clock with a few lives.
-/

namespace MotionTutor

/-- What an exercise is served as. -/
inductive ExerciseKind
  | lesson
  | practice
  | boss
deriving DecidableEq, Repr

/-- How the answers of a module are judged: by where they leave the cursor and what they select, or
only by whether they are listed. -/
inductive Judging
  | motion
  | literal
deriving DecidableEq, Repr

/-- Without further ado an exercise is a lesson of level 1 for ten points in thirty seconds. -/
structure Exercise where
  id : String
  moduleId : String := ""
  level : Nat := 1
  kind : ExerciseKind := .lesson
  code : List String
  cursor : Position
  mission : String
  solutions : List String
  optimal : String
  hint : String := ""
  explanation : String := ""
  /-- The seconds allowed; zero for no limit. -/
  timeoutSecs : Nat := 30
  points : Nat := 10
  judging : Judging := .motion
deriving DecidableEq, Repr

namespace ExerciseKind

def name : ExerciseKind → String
  | lesson => "lesson"
  | practice => "practice"
  | boss => "boss"

def ofName? : String → Option ExerciseKind
  | "lesson" => some lesson
  | "practice" => some practice
  | "boss" => some boss
  | _ => none

end ExerciseKind

namespace Judging

def name : Judging → String
  | motion => "motion"
  | literal => "literal"

def ofName? : String → Option Judging
  | "motion" => some motion
  | "literal" => some literal
  | _ => none

end Judging

/-- The exercise served as another kind. It keeps its id, so results count for the exercise. -/
def Exercise.servedAs (e : Exercise) (kind : ExerciseKind) : Exercise := { e with kind }

structure BossStep where
  /-- The seconds allowed for this step. -/
  timeLimit : Nat
  exercise : Exercise
deriving DecidableEq, Repr

structure Boss where
  id : String
  moduleId : String := ""
  name : String
  lives : Nat
  steps : List BossStep
  bonusTime : Nat := 0
deriving DecidableEq, Repr

/-- The heading of a module. -/
structure ModuleInfo where
  id : String
  name : String
  description : String := ""
  bossName : String
  judging : Judging := .motion
deriving DecidableEq, Repr

end MotionTutor
