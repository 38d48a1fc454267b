import MotionTutor.Command
import MotionTutor.Selection
import MotionTutor.Text.Quoted
import MotionTutor.Text.Shown

/-!
# Commands as texts

Every command has a name and parts that are shown with it.
-/

namespace MotionTutor

open Text (shownRecord shownCase shownOption shownBool)

/-! ## 1. Names -/

def WordTravel.name : WordTravel → String
  | nextStart => "WordForward"
  | nextEnd => "WordEnd"
  | prevStart => "WordBackward"
  | prevEnd => "WordEndBackward"

/-- The kind of a search: its direction and where it lands. -/
def Search.kindName (s : Search) : String :=
  match s.landing, s.direction with
  | .onTarget, .forward => "To"
  | .onTarget, .backward => "ToBack"
  | .besideTarget, .forward => "Till"
  | .besideTarget, .backward => "TillBack"

def Motion.name : Motion → String
  | word travel _ => travel.name
  | lineStart => "LineStart"
  | firstNonBlank => "FirstNonBlank"
  | lineEnd => "LineEnd"
  | left => "Left"
  | right => "Right"
  | down => "Down"
  | up => "Up"
  | firstLine => "FirstLine"
  | lastLine => "LastLine"
  | paragraphBackward => "ParagraphBackward"
  | paragraphForward => "ParagraphForward"
  | nextLine => "NextLine"
  | prevLine => "PrevLine"
  | currentLine => "CurrentLine"
  | search _ => "Find"
  | repeatSearch => "RepeatFind"
  | repeatSearchReversed => "RepeatFindReverse"

def ObjectKind.name : ObjectKind → String
  | word .small => "Word"
  | word .big => "BigWord"
  | sentence => "Sentence"
  | paragraph => "Paragraph"
  | tag => "Tag"
  | quote _ => "Quote"
  | pair _ _ => "Pair"

/-! ## 2. Names with parts -/

def Motion.shown (m : Motion) : String :=
  match m with
  | word _ size => shownRecord m.name [("big", shownBool (size = .big))]
  | search s => shownRecord m.name [("kind", s.kindName), ("target", Text.quotedChar s.target)]
  | _ => m.name

def ObjectKind.shown (k : ObjectKind) : String :=
  match k with
  | quote mark => shownCase k.name (Text.quotedChar mark)
  | pair opening closing =>
    shownRecord k.name
      [("open", Text.quotedChar opening), ("close", Text.quotedChar closing)]
  | _ => k.name

def TextObject.shown (o : TextObject) : String :=
  shownRecord "TextObject" [("around", shownBool o.around), ("kind", o.kind.shown)]

def Command.shown : Command → String
  | motion m => shownCase "Motion" m.shown
  | object operator o =>
    shownRecord "TextObject"
      [("operator", shownOption (operator.map (·.name))), ("object", o.shown)]
  | operate operator m =>
    shownRecord "OperatorMotion" [("operator", operator.name), ("motion", m.shown)]
  | wholeLines operator => shownCase "Linewise" operator.name
  | toLineEnd operator => shownCase "ToLineEnd" operator.name
  | incomplete keys => shownCase "Incomplete" (Text.quoted (String.ofList keys))
  | unknown keys => shownCase "Unknown" (Text.quoted (String.ofList keys))

end MotionTutor
