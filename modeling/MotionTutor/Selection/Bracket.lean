import MotionTutor.Selection.Columns

/-!
# Bracketed text

From the cursor to the left, the first opening bracket that is not closed before the cursor; from
it to the right, the bracket that closes it. A closing bracket under the cursor belongs to the pair
looked for, so it is not counted on the way left.
-/

namespace MotionTutor

/-- Looks left for an opening bracket with as many closing ones passed as opening ones. The list
holds the characters to the left, nearest first, so the length of its tail is a column. -/
def openingBefore (opening closing : Char) : Nat → List Char → Option Nat
  | _, [] => none
  | depth, c :: before =>
    if c = closing then openingBefore opening closing (depth + 1) before
    else if c = opening then
      if depth = 0 then some before.length else openingBefore opening closing (depth - 1) before
    else openingBefore opening closing depth before

/-- Looks right for the bracket that closes the one at the front; `i` is the column of the front. -/
def closingFrom (opening closing : Char) : Nat → Nat → List Char → Option Nat
  | _, _, [] => none
  | depth, i, c :: after =>
    if c = opening then closingFrom opening closing (depth + 1) (i + 1) after
    else if c = closing then
      if depth = 1 then some i else closingFrom opening closing (depth - 1) (i + 1) after
    else closingFrom opening closing depth (i + 1) after

/-- The column of the bracket that opens the pair around `col`. -/
def openingBracket? (opening closing : Char) (cells : List Char) (col : Nat) : Option Nat :=
  if cells[col]? = some opening then some col
  else openingBefore opening closing 0 (cells.take col).reverse

/-- The innermost pair of brackets around `col`. -/
def bracketPair? (opening closing : Char) (cells : List Char) (col : Nat) : Option Columns :=
  match openingBracket? opening closing cells col with
  | none => none
  | some first =>
    match closingFrom opening closing 0 first (cells.drop first) with
    | none => none
    | some last => if last < col then none else some ⟨first, last⟩

def bracketObject (opening closing : Char) (around : Bool) (cells : List Char) (col : Nat) :
    Option Columns :=
  (bracketPair? opening closing cells col).bind fun p =>
    if around then some p else Columns.between? p.first p.last

end MotionTutor
