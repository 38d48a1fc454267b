import MotionTutor.Selection.Columns

/-!
# Quoted strings

The quotes of a line pair up from left to right. The string of a column is the pair around it; with
no pair around it, the next two quotes after the column.
-/

namespace MotionTutor

/-- The columns that hold a character. -/
def columnsOf (cells : List Char) (mark : Char) : List Nat :=
  (cells.zipIdx.filter (·.1 == mark)).map (·.2)

/-- Neighbours paired from the left; an odd one out has no partner. -/
def pairUp : List Nat → List Columns
  | first :: last :: rest => ⟨first, last⟩ :: pairUp rest
  | _ => []

/-- The two quotes an object at `col` lies between. -/
def quotePair? (mark : Char) (cells : List Char) (col : Nat) : Option Columns :=
  let quotes := columnsOf cells mark
  match (pairUp quotes).find? (fun p => p.first ≤ col && col ≤ p.last) with
  | some p => some p
  | none =>
    match quotes.filter (col < ·) with
    | first :: last :: _ => some ⟨first, last⟩
    | _ => none

def quoteObject (mark : Char) (around : Bool) (cells : List Char) (col : Nat) : Option Columns :=
  (quotePair? mark cells col).bind fun p =>
    if around then some p else Columns.between? p.first p.last

end MotionTutor
