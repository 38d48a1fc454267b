import MotionTutor.Proofs.Checked.Tags
import MotionTutor.Proofs.Selection.WellFormed

/-!
# Selections by places

The region of an operator or an object, computed with checked operations. What they need is that the
cursor is in bounds: then a line that has a last column has one to subtract, and the cell that an
exclusive motion leaves out has a cell before it, because the region does not begin with it
(`selectMotion_eq`). None of them faults (`selectObject_eq`, `selectWholeLines_eq`,
`selectToLineEnd_eq`).
-/

namespace MotionTutor.Checked

variable {b : Buffer} {p : Position}

/-! ## 1. Objects -/

/-- The columns of an object on a line. -/
def objectColumns (kind : ObjectKind) (around : Bool) (cells : List Char) (col : Nat) :
    Checked (Option Columns) := do
  match kind with
  | .word size => return some (← wordColumns size.classOf around cells col)
  | .sentence => return some (← sentenceColumns around cells col)
  | .quote mark => quoteColumns mark around cells col
  | .pair opening closing =>
    match ← bracketColumns opening closing around cells col with
    | some columns => return some columns
    | none =>
      if opening = '<' ∧ closing = '>' then tagColumns around cells col else return none
  | .tag => tagColumns around cells col
  | .paragraph => return none

/-- The region of an object at `p`. -/
def selectObject (b : Buffer) (operator : Operator) (o : TextObject) (p : Position) :
    Checked (Option Selection) := do
  match o.kind with
  | .paragraph =>
    let (first, last) ← paragraph b o.around p.line
    return some (.ofLines b operator first last)
  | kind =>
    if b.lineLength p.line = 0 then return none
    else
      let col := min p.col (← sub (b.lineLength p.line) 1)
      let columns ← objectColumns kind o.around (b.line p.line) col
      return columns.map fun c => .ofColumns operator p.line c.first c.last

theorem objectColumns_eq {cells : List Char} {col : Nat} (kind : ObjectKind) (around : Bool)
    (h : col < cells.length) :
    objectColumns kind around cells col = .ok (kind.columns? around cells col) := by
  cases kind with
  | word size =>
    simp only [objectColumns, wordColumns_eq size around h]
    rfl
  | sentence =>
    simp only [objectColumns, sentenceColumns_eq around h]
    rfl
  | paragraph => rfl
  | tag => exact tagColumns_eq around cells col
  | quote mark => exact quoteColumns_eq mark around cells col
  | pair opening closing =>
    simp only [objectColumns, bracketColumns_eq around h, ok_bind, ObjectKind.columns?]
    cases bracketObject opening closing around cells col with
    | some columns => rfl
    | none =>
      simp only
      split
      · exact tagColumns_eq around cells col
      · rfl

theorem selectObject_eq (operator : Operator) (o : TextObject) (h : b.InBounds p) :
    selectObject b operator o p = .ok (b.selectObject operator o p) := by
  obtain ⟨around, kind⟩ := o
  cases kind with
  | paragraph =>
    simp only [selectObject, paragraph_eq around h.line_le]
    rfl
  | _ =>
    simp only [selectObject, Buffer.selectObject]
    split
    · rfl
    · rename_i hlen
      have hcol : min p.col (b.lineLength p.line - 1) < (b.line p.line).length := by
        have hlt := h.col_lt hlen
        rw [Buffer.lineLength] at hlt ⊢
        omega
      rw [sub_of_le (Nat.pos_of_ne_zero hlen), ok_bind, objectColumns_eq _ around hcol]
      rfl

/-! ## 2. Lines and parts of a line -/

/-- The region from `p` to the end of its line. -/
def selectToLineEnd (b : Buffer) (operator : Operator) (p : Position) :
    Checked (Option Selection) := do
  if b.lineLength p.line = 0 then return none
  else
    let last ← sub (b.lineLength p.line) 1
    return some (.ofColumns operator p.line (min p.col last) last)

/-- The lines from `p` on, as many as the count says and the buffer has. -/
def selectWholeLines (b : Buffer) (operator : Operator) (count : Option Nat) (p : Position) :
    Checked Selection := do
  let more ← sub (timesOf count) 1
  return .ofLines b operator p.line (min (p.line + more) (← lastLine b))

theorem selectToLineEnd_eq (operator : Operator) (p : Position) :
    selectToLineEnd b operator p = .ok (b.selectToLineEnd operator p) := by
  rw [selectToLineEnd, Buffer.selectToLineEnd]
  split
  · rfl
  · rename_i hlen
    rw [sub_of_le (Nat.pos_of_ne_zero hlen)]
    rfl

theorem selectWholeLines_eq (operator : Operator) (count : Option Nat) (p : Position) :
    selectWholeLines b operator count p = .ok (b.selectWholeLines operator count p) := by
  rw [selectWholeLines, sub_of_le (one_le_timesOf count), ok_bind, lastLine_eq]
  rfl

/-! ## 3. Motions -/

/-- The cell before one that is not the first. -/
def stepBack (b : Buffer) (p : Position) : Checked Position := do
  if p.col = 0 then
    let line ← sub p.line 1
    return ⟨line, b.lastCol line⟩
  else return ⟨p.line, ← sub p.col 1⟩

/-- The last cell of an exclusive region from `first` to before `last`. -/
def exclusiveEnd (b : Buffer) (m : Motion) (first last : Position) : Checked Position :=
  match m with
  | .word .nextStart _ =>
    if first.line < last.line then return ⟨first.line, b.lastCol first.line⟩ else stepBack b last
  | _ => stepBack b last

/-- The region of an operator and a motion from `p`. -/
def selectMotion (b : Buffer) (last : Option Search) (operator : Operator) (motion : Motion)
    (count : Option Nat) (p : Position) : Checked (Option Selection) := do
  let m := motion.underOperator operator (b.charAt p)
  match ← destination b last m count p with
  | none => return none
  | some q =>
    let q ← clamp b q
    if m.isLinewise then
      return some (.ofLines b operator (min p.line q.line) (max p.line q.line))
    else
      let (first, end_) := if q < p then (q, p) else (p, q)
      if operator = .visual ∨ m.isInclusive last then return some ⟨operator, first, end_, false⟩
      else if first = end_ then return none
      else return some ⟨operator, first, ← exclusiveEnd b m first end_, false⟩

theorem stepBack_eq {first : Position} (h : first < p) :
    stepBack b p = .ok (Buffer.exclusiveEnd.stepBack b p) := by
  rw [Position.lt_def] at h
  rw [stepBack, Buffer.exclusiveEnd.stepBack]
  split
  · rename_i hcol
    rw [sub_of_le (show 1 ≤ p.line by omega)]
    rfl
  · rename_i hcol
    rw [sub_of_le (Nat.pos_of_ne_zero hcol)]
    rfl

theorem exclusiveEnd_eq {first last : Position} (m : Motion) (h : first < last) :
    exclusiveEnd b m first last = .ok (b.exclusiveEnd m first last) := by
  have hback := stepBack_eq (b := b) h
  cases m with
  | word travel size =>
    cases travel with
    | nextStart =>
      simp only [exclusiveEnd, Buffer.exclusiveEnd]
      split
      · rfl
      · exact hback
    | _ => exact hback
  | _ => exact hback

/-- **The region of an operator and a motion is found without a fault.** -/
theorem selectMotion_eq (last : Option Search) (operator : Operator) (motion : Motion)
    (count : Option Nat) (h : b.InBounds p) :
    selectMotion b last operator motion count p =
      .ok (b.selectMotion last operator motion count p) := by
  simp only [selectMotion, destination_eq last _ count h, ok_bind, Buffer.selectMotion]
  cases b.destination last (motion.underOperator operator (b.charAt p)) count p with
  | none => rfl
  | some q' =>
    simp only [clamp_eq, ok_bind, Option.map_some]
    split
    · rfl
    · have hends := Buffer.ordered_bounds h (b.inBounds_clamp q')
      generalize (if b.clamp q' < p then (b.clamp q', p) else (p, b.clamp q')) = ends at hends ⊢
      obtain ⟨first, final⟩ := ends
      obtain ⟨hle, -, -⟩ := hends
      simp only
      split
      · rfl
      · split
        · rfl
        · rename_i hne
          rw [exclusiveEnd_eq _ (Buffer.lt_of_le_of_ne hle hne)]
          rfl

end MotionTutor.Checked
