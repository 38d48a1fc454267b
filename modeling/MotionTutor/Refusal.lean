/-!
# Refused requests

What a player asks for may not exist, or not be open yet.
-/

namespace MotionTutor

inductive Refusal
  | unknownModule (id : String)
  | unknownExercise (id : String)
  | noBoss (id : String)
  | locked (id : String)
deriving DecidableEq, Repr

def Refusal.message : Refusal → String
  | unknownModule id => "unknown module `" ++ id ++ "`"
  | unknownExercise id => "unknown exercise `" ++ id ++ "`"
  | noBoss id => "module `" ++ id ++ "` has no boss fight"
  | locked id => "module `" ++ id ++ "` is locked until the previous boss is beaten"

end MotionTutor
