import MotionTutor.Session
import MotionTutor.Text.Quoted
import MotionTutor.Text.Shown

/-!
# Sessions as texts

The names of what goes on in a session, and a line that shows where it stands.
-/

namespace MotionTutor

def Activity.name : Activity → String
  | idle => "Idle"
  | lesson _ _ => "Lesson"
  | practice _ _ _ => "Practice"
  | boss _ _ => "Boss"

def Outcome.name : Outcome → String
  | inProgress => "InProgress"
  | complete => "Complete"
  | playerDefeated => "PlayerDefeated"
  | victory => "Victory"

/-- Where the session stands, in a line. -/
def Session.text (s : Session) : String :=
  let activity := s.sitting.activity
  Text.shownExcerpt "GameState" [
    ("mode", activity.name),
    ("outcome", activity.outcome.name),
    ("module", Text.quoted (activity.chapter?.elim "" Chapter.id)),
    ("current", Text.shownOption (activity.current.map fun e => Text.quoted e.id)),
    ("boss_step", toString (activity.fight?.elim 0 Fight.step)),
    ("boss_lives", toString (activity.fight?.elim 0 Fight.lives)),
    ("streak", toString s.sitting.streak),
    ("combo", toString s.sitting.combo),
    ("session_score", toString s.sitting.score)]

end MotionTutor
