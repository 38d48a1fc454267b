/-!
# Commands of the modal editor

What a player can press, as data: motions, operators, text objects, and the commands they combine
into. A motion by words is a place to travel to and a size of word; a search within the line is a
direction, a landing and a target character, so that reversing it is turning its direction.
-/

namespace MotionTutor

/-- Keystrokes, one character a key. -/
abbrev Keys := List Char

/-! ## 1. Motions -/

/-- Where a motion by words goes. -/
inductive WordTravel
  | nextStart
  | nextEnd
  | prevStart
  | prevEnd
deriving DecidableEq, Repr

inductive Direction
  | forward
  | backward
deriving DecidableEq, Repr

def Direction.reversed : Direction → Direction
  | forward => backward
  | backward => forward

/-- A search lands on its target, or on the cell just short of it. -/
inductive Landing
  | onTarget
  | besideTarget
deriving DecidableEq, Repr

/-- A search for one character within the line of the cursor. -/
structure Search where
  direction : Direction
  landing : Landing
  target : Char
deriving DecidableEq, Repr

namespace Search

def isForward (s : Search) : Bool := s.direction = .forward

/-- The same search the other way. -/
def reversed (s : Search) : Search := { s with direction := s.direction.reversed }

end Search

/-- Words come in two sizes: small words are runs of one class of character, big ones are runs of
anything that is not blank. -/
inductive WordSize
  | small
  | big
deriving DecidableEq, Repr

inductive Motion
  | word (travel : WordTravel) (size : WordSize)
  | lineStart
  | firstNonBlank
  | lineEnd
  | left
  | right
  | down
  | up
  /-- The first line, or the line that the count names. -/
  | firstLine
  /-- The last line, or the line that the count names. -/
  | lastLine
  | paragraphBackward
  | paragraphForward
  | nextLine
  | prevLine
  | currentLine
  | search (s : Search)
  | repeatSearch
  | repeatSearchReversed
deriving DecidableEq, Repr

namespace Motion

/-- The motions that take an operator over whole lines. -/
def isLinewise : Motion → Bool
  | down | up | firstLine | lastLine | nextLine | prevLine | currentLine => true
  | _ => false

end Motion

/-! ## 2. Operators and text objects -/

inductive Operator
  | visual
  | delete
  | change
  | yank
  | lowercase
  | uppercase
deriving DecidableEq, Repr

inductive ObjectKind
  | word (size : WordSize)
  | sentence
  | paragraph
  | tag
  | quote (mark : Char)
  | pair (opening closing : Char)
deriving DecidableEq, Repr

/-- A piece of text around the cursor; `around` takes the delimiters or the blanks beside it too. -/
structure TextObject where
  around : Bool
  kind : ObjectKind
deriving DecidableEq, Repr

/-! ## 3. Commands -/

inductive Command
  | motion (m : Motion)
  /-- An object without an operator selects like the visual operator. -/
  | object (operator : Option Operator) (o : TextObject)
  | operate (operator : Operator) (m : Motion)
  /-- A doubled operator: whole lines from the cursor's on. -/
  | wholeLines (operator : Operator)
  /-- From the cursor to the end of its line. -/
  | toLineEnd (operator : Operator)
  /-- The keys ended before the command was complete. -/
  | incomplete (keys : Keys)
  | unknown (keys : Keys)
deriving DecidableEq, Repr

/-- A command with the count before it, if one was given. -/
structure Token where
  count : Option Nat
  command : Command
deriving DecidableEq, Repr

/-- How often a command with this count is done: once without a count. -/
def timesOf (count : Option Nat) : Nat := max 1 (count.getD 1)

namespace Token

def times (t : Token) : Nat := timesOf t.count

/-- Whether the keys were understood; others have no effect. -/
def isRecognized (t : Token) : Bool :=
  match t.command with
  | .incomplete _ | .unknown _ => false
  | _ => true

end Token

end MotionTutor
