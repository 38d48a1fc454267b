import MotionTutor.Buffer
import MotionTutor.Selection.Columns

/-!
# Tagged elements

A tag is what stands between an angle bracket and the next closing one. Its name goes up to a blank
or a slash; tags without a name, and those that close themselves, are ignored. Tags match from left
to right: a closing tag takes the nearest open tag of its name and discards the open tags after it.
The element of a column is the matched one around it that opens last.
-/

namespace MotionTutor

/-- A tag with its first and last column. -/
structure Tag where
  name : List Char
  closing : Bool
  columns : Columns
deriving DecidableEq, Repr

/-- A matched pair of tags. -/
structure Element where
  opening : Columns
  closing : Columns
deriving DecidableEq, Repr

/-! ## 1. The tags of a line -/

/-- The tag with these characters between its brackets, if it counts. -/
def Tag.ofInner? (inner : List Char) (columns : Columns) : Option Tag :=
  let closing := inner.head? == some '/'
  let name := (if closing then inner.drop 1 else inner).takeWhile fun c => !isBlank c && c != '/'
  if name = [] ∨ inner.getLast? = some '/' then none else some ⟨name, closing, columns⟩

/-- Reads the tags from column `i` on. `inside` holds the column of the bracket that opened the tag
being read and the characters after it, last first. -/
def tagsFrom (inside : Option (Nat × List Char)) (i : Nat) : List Char → List Tag
  | [] => []
  | c :: rest =>
    match inside with
    | none => tagsFrom (if c = '<' then some (i, []) else none) (i + 1) rest
    | some (start, inner) =>
      if c = '>' then
        (Tag.ofInner? inner.reverse ⟨start, i⟩).toList ++ tagsFrom none (i + 1) rest
      else tagsFrom (some (start, c :: inner)) (i + 1) rest

def tagsOf (cells : List Char) : List Tag := tagsFrom none 0 cells

/-! ## 2. Matching -/

/-- Takes the nearest open tag of a name off the stack, with the open tags after it. -/
def takeOpen (name : List Char) : List Tag → Option (Tag × List Tag)
  | [] => none
  | t :: opened => if t.name = name then some (t, opened) else takeOpen name opened

/-- The matched elements, in the order of their closing tags; `opened` is the stack of open tags,
nearest first. -/
def matchTags : List Tag → List Tag → List Element
  | _, [] => []
  | opened, t :: tags =>
    if t.closing then
      match takeOpen t.name opened with
      | none => matchTags opened tags
      | some (start, opened) => ⟨start.columns, t.columns⟩ :: matchTags opened tags
    else matchTags (t :: opened) tags

def elementsOf (cells : List Char) : List Element := matchTags [] (tagsOf cells)

/-! ## 3. The element of a column -/

def Element.contains (e : Element) (col : Nat) : Bool :=
  e.opening.first ≤ col && col ≤ e.closing.last

/-- Of two elements around a column, the one that opens later; of the same opening, the first. -/
def Element.inner (best : Option Element) (e : Element) : Option Element :=
  match best with
  | none => some e
  | some f => if f.opening.first < e.opening.first then some e else some f

/-- The innermost element around a column. -/
def elementAt? (cells : List Char) (col : Nat) : Option Element :=
  ((elementsOf cells).filter (·.contains col)).foldl Element.inner none

def tagObject (around : Bool) (cells : List Char) (col : Nat) : Option Columns :=
  (elementAt? cells col).bind fun e =>
    if around then some ⟨e.opening.first, e.closing.last⟩
    else Columns.between? e.opening.last e.closing.first

end MotionTutor
