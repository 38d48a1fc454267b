import MotionTutor.Command
import MotionTutor.Position
import MotionTutor.Text.Alphanumeric

/-!
# The text a command runs against

A buffer is a non-empty list of lines; a text without lines reads as one empty line. This file
fixes what the motions ask of it:

* every line contributes at least one cell, so the cursor has a place on an empty line
  (`Buffer.width`, `Buffer.cells`);
* the class of the character in a cell: blank, word or punctuation (`CharClass`), where the cell of
  an empty line counts as blank.
-/

namespace MotionTutor

/-! ## 1. Character classes -/

/-- What a character is to a motion by words. -/
inductive CharClass
  | blank
  | word
  | punctuation
deriving DecidableEq, Repr

/-- Only the space and the tab are blank. -/
def isBlank (c : Char) : Bool := c == ' ' || c == '\t'

/-- A text of blanks only, an empty one among them. -/
def isBlankText (cells : List Char) : Bool := cells.all isBlank

/-- The class of a character for words of one size. -/
def WordSize.classOf (size : WordSize) (c : Char) : CharClass :=
  if isBlank c then .blank
  else if size = .big || Text.isAlphanumeric c || c == '_' then .word
  else .punctuation

/-- The class of the cell at place `i` of a line under a classification of characters. -/
def classAt (classOf : Char → CharClass) (cells : List Char) (i : Nat) : CharClass :=
  (cells[i]?).elim .blank classOf

/-! ## 2. Lines -/

/-- The lines of a text, at least one. -/
structure Buffer where
  lines : List (List Char)
  lines_ne_nil : lines ≠ []

namespace Buffer

/-- A text without lines reads as one empty line. -/
def ofLines : List (List Char) → Buffer
  | [] => ⟨[[]], List.cons_ne_nil _ _⟩
  | l :: ls => ⟨l :: ls, List.cons_ne_nil _ _⟩

/-- The buffer of a list of texts, one a line. -/
def ofTexts (texts : List String) : Buffer := ofLines (texts.map String.toList)

variable (b : Buffer)

/-- The characters of a line; past the last line there are none. -/
def line (n : Nat) : List Char := b.lines[n]?.getD []

def lineLength (n : Nat) : Nat := (b.line n).length

def lastLine : Nat := b.lines.length - 1

/-- The last column of a line, column 0 on an empty one. -/
def lastCol (n : Nat) : Nat := b.lineLength n - 1

/-- The character in a cell; the cell of an empty line holds none. -/
def charAt (p : Position) : Option Char := (b.line p.line)[p.col]?

/-- The nearest cell of the buffer: the last line if the line is too far down, then the last column
if the column is too far right. -/
def clamp (p : Position) : Position :=
  let line := min p.line b.lastLine
  ⟨line, min p.col (b.lastCol line)⟩

/-- The first character of a line that is not blank, column 0 if there is none. -/
def firstNonBlank (n : Nat) : Position :=
  ⟨n, ((b.line n).findIdx? (fun c => !isBlank c)).getD 0⟩

/-! ## 3. Cells -/

/-- How many cells a line has. -/
def width (n : Nat) : Nat := max 1 (b.lineLength n)

/-- All cells in reading order. -/
def cells : List Position :=
  (List.range b.lines.length).flatMap fun n => (List.range (b.width n)).map fun col => ⟨n, col⟩

end Buffer

end MotionTutor
