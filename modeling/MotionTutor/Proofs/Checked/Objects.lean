import MotionTutor.Proofs.Checked.Travel
import MotionTutor.Proofs.Selection.Within

/-!
# Text objects by places

The objects on a line and the paragraph around a line, found with checked operations. On a line, a
column of which is given, none of them faults:

* words, sentences and paragraphs grow from the column or the line to both sides, one element at a
  time, and look at most at the element behind (`wordColumns_eq`, `sentenceColumns_eq`,
  `paragraph_eq`);
* the end of a sentence looks one column further than it stands, but not on the last column;
* brackets are counted (`bracketColumns_eq`): the depth is taken back at an opening bracket on the
  way left and at a closing one on the way right, and there is something to take back each time.
-/

namespace MotionTutor.Checked

variable {cells : List Char} {col : Nat}

/-! ## 1. Words -/

/-- The word at a column. -/
def wordColumns (classOf : Char → CharClass) (around : Bool) (cells : List Char) (col : Nat) :
    Checked Columns := do
  let run := classOf (← get cells col)
  let first ← retreat (classOf · = run) cells col
  let last ← advance (classOf · = run) cells col
  if !around then return ⟨first, last⟩
  else if run = .blank then
    if last + 1 < cells.length then
      let next := classOf (← get cells (last + 1))
      return ⟨first, ← advance (classOf · = next) cells (last + 1)⟩
    else return ⟨first, last⟩
  else
    let trail ← advance isBlank cells last
    if last < trail then return ⟨first, trail⟩
    else return ⟨← retreat isBlank cells first, last⟩

theorem wordColumns_eq (size : WordSize) (around : Bool) (h : col < cells.length) :
    wordColumns size.classOf around cells col = .ok (wordObject size around cells col) := by
  have hclass : classAt size.classOf cells col = size.classOf cells[col] := by
    rw [classAt, List.getElem?_eq_getElem h]
    rfl
  have hlast : col + runFrom (size.classOf · = size.classOf cells[col]) cells (col + 1) <
      cells.length := by
    have := add_runFrom_le (size.classOf · = size.classOf cells[col]) (show col + 1 ≤ _ from h)
    omega
  have hfirst : col - runBefore (size.classOf · = size.classOf cells[col]) cells col ≤
      cells.length := by omega
  simp only [wordColumns, get_of_lt h, ok_bind, retreat_eq (Nat.le_of_lt h), advance_eq,
    wordObject, aroundWord, innerWord, hclass]
  generalize col - runBefore (size.classOf · = size.classOf cells[col]) cells col = first at *
  generalize col + runFrom (size.classOf · = size.classOf cells[col]) cells (col + 1) = last at *
  cases around with
  | false => rfl
  | true =>
    simp only [Bool.not_true, Bool.false_eq_true, if_false, if_true]
    by_cases hblank : size.classOf cells[col] = .blank
    · rw [if_pos hblank, if_pos hblank]
      by_cases hnext : last + 1 < cells.length
      · have hrun : runFrom (size.classOf · = size.classOf cells[last + 1]) cells (last + 1) =
            runFrom (size.classOf · = size.classOf cells[last + 1]) cells (last + 1 + 1) + 1 :=
          runFrom_of_pos hnext (decide_eq_true rfl)
        rw [if_pos hnext, get_of_lt hnext, ok_bind, List.getElem?_eq_getElem hnext]
        simp only [hrun]
        rw [← Nat.add_assoc, Nat.add_right_comm]
        rfl
      · rw [if_neg hnext, List.getElem?_eq_none (Nat.le_of_not_lt hnext)]
        rfl
    · rw [if_neg hblank, if_neg hblank]
      simp only [Nat.lt_add_right_iff_pos]
      split
      · rfl
      · rw [retreat_eq hfirst]
        rfl

/-! ## 2. Sentences -/

/-- Whether a sentence ends at a column. -/
def endsAt (cells : List Char) (i : Nat) : Checked Bool := do
  if isTerminator (← get cells i) then
    if i + 1 = cells.length then return true else return isBlank (← get cells (i + 1))
  else return false

/-- The sentence at a column. -/
def sentenceColumns (around : Bool) (cells : List Char) (col : Nat) : Checked Columns := do
  let start := ((← findDown (endsAt cells) col).map (· + 1)).getD 0
  let first ← skipTo isBlank cells col start
  let bound ← sub cells.length 1
  let last := (← findUp (endsAt cells) cells.length col).getD bound
  if around then return ⟨first, ← advance isBlank cells last⟩ else return ⟨first, last⟩

theorem length_sentenceEnds (cells : List Char) : (sentenceEnds cells).length = cells.length := by
  simp only [sentenceEnds, List.length_zipWith, List.length_append, List.length_map,
    List.length_drop, List.length_singleton]
  omega

theorem endsAt_eq : ∀ j (hj : j < (sentenceEnds cells).length),
    endsAt cells j = .ok (sentenceEnds cells)[j] := by
  intro j hj
  have hlen : j < cells.length := length_sentenceEnds cells ▸ hj
  simp only [endsAt, get_of_lt hlen, ok_bind, sentenceEnds, List.getElem_zipWith]
  cases isTerminator cells[j] with
  | false => rfl
  | true =>
    rw [if_pos rfl, Bool.true_and]
    by_cases hlast : j + 1 = cells.length
    · have hdrop : ((cells.drop 1).map some).length ≤ j := by
        rw [List.length_map, List.length_drop]
        omega
      rw [if_pos hlast, List.getElem_append_right hdrop, List.getElem_singleton]
      rfl
    · have hnext : j + 1 < cells.length := by omega
      have hdrop : j < ((cells.drop 1).map some).length := by
        rw [List.length_map, List.length_drop]
        omega
      rw [if_neg hlast, get_of_lt hnext, List.getElem_append_left hdrop, List.getElem_map,
        List.getElem_drop]
      simp only [Nat.add_comm 1]
      rfl

theorem sentenceColumns_eq (around : Bool) (h : col < cells.length) :
    sentenceColumns around cells col = .ok (sentenceObject around cells col) := by
  have hlen := length_sentenceEnds cells
  have hends : ∀ j (hj : j < (sentenceEnds cells).length),
      endsAt cells j = .ok (id (sentenceEnds cells)[j]) := endsAt_eq
  have hdown := findDown_eq id hends (show col ≤ _ by omega)
  have hup := findUp_eq id col hends
  rw [hlen] at hup
  have hstart : ((placeBefore? id (sentenceEnds cells) col).map (· + 1)).getD 0 =
      col - runBefore (!·) (sentenceEnds cells) col := by
    simp only [placeBefore?, id_eq]
    split
    · simp only [Option.map_some, Option.getD_some]
      omega
    · simp only [Option.map_none, Option.getD_none]
      omega
  have hlast : (placeFrom? id (sentenceEnds cells) col).getD (cells.length - 1) =
      min (col + runFrom (!·) (sentenceEnds cells) col) (cells.length - 1) := by
    simp only [placeFrom?, id_eq, hlen]
    split
    · rw [Option.getD_some]
      omega
    · rw [Option.getD_none]
      omega
  have hsub : 1 ≤ cells.length := by omega
  simp only [sentenceColumns, hdown, hup, ok_bind, hstart,
    skipTo_eq isBlank (Nat.le_of_lt h) (Nat.sub_le _ _), sub_of_le hsub, hlast, advance_eq]
  cases around with
  | false => rfl
  | true => rfl

/-! ## 3. Paragraphs -/

/-- The first and last line of the paragraph around a line. -/
def paragraph (b : Buffer) (around : Bool) (n : Nat) : Checked (Nat × Nat) := do
  let kind := isBlankText (b.line n)
  let first ← retreat (isBlankText · == kind) b.lines n
  let last ← advance (isBlankText · == kind) b.lines n
  if around then return (first, ← advance (fun cells => !(isBlankText cells == kind)) b.lines last)
  else return (first, last)

theorem paragraph_eq {b : Buffer} {n : Nat} (around : Bool) (h : n ≤ b.lastLine) :
    paragraph b around n = .ok (b.paragraph around n) := by
  have hle : n ≤ b.lines.length := Nat.le_trans h (Nat.sub_le _ _)
  simp only [paragraph, retreat_eq hle, advance_eq, ok_bind]
  cases around with
  | false => rfl
  | true => rfl

/-! ## 4. Delimited objects -/

/-- What lies between two delimiters. -/
def between (afterFirst beforeLast : Nat) : Checked (Option Columns) := do
  if afterFirst + 1 < beforeLast then return some ⟨afterFirst + 1, ← sub beforeLast 1⟩
  else return none

theorem between_eq (afterFirst beforeLast : Nat) :
    between afterFirst beforeLast = .ok (Columns.between? afterFirst beforeLast) := by
  rw [between, Columns.between?]
  split
  · rw [sub_of_le (by omega)]
    rfl
  · rfl

/-- A pair of delimiters, or what lies between them. -/
def delimited (around : Bool) (pair : Option Columns) : Checked (Option Columns) :=
  match pair with
  | none => return none
  | some p => if around then return some p else between p.first p.last

theorem delimited_eq (around : Bool) (pair : Option Columns) :
    delimited around pair =
      .ok (pair.bind fun p => if around then some p else Columns.between? p.first p.last) := by
  cases pair with
  | none => rfl
  | some p =>
    cases around with
    | true => rfl
    | false => exact between_eq p.first p.last

/-! ## 5. Quotes -/

/-- The columns from `i` on and before `stop` that pass. -/
def placesFrom (passes : Nat → Checked Bool) (stop i : Nat) : Checked (List Nat) :=
  if i < stop then do
    let here ← passes i
    let others ← placesFrom passes stop (i + 1)
    return if here then i :: others else others
  else return []
termination_by stop - i

/-- The quoted string at a column. -/
def quoteColumns (mark : Char) (around : Bool) (cells : List Char) (col : Nat) :
    Checked (Option Columns) := do
  let quotes ← placesFrom (fun i => do return (← get cells i) == mark) cells.length 0
  delimited around (match (pairUp quotes).find? (fun p => p.first ≤ col && col ≤ p.last) with
    | some p => some p
    | none =>
      match quotes.filter (col < ·) with
      | first :: last :: _ => some ⟨first, last⟩
      | _ => none)

theorem placesFrom_eq (mark : Char) (i : Nat) :
    placesFrom (fun i => do return (← get cells i) == mark) cells.length i =
      .ok ((((cells.drop i).zipIdx i).filter (·.1 == mark)).map (·.2)) := by
  induction hn : cells.length - i generalizing i with
  | zero =>
    rw [placesFrom, if_neg (by omega), List.drop_eq_nil_of_le (by omega)]
    rfl
  | succ n ih =>
    have hi : i < cells.length := by omega
    rw [placesFrom, if_pos hi, get_of_lt hi, ih (i + 1) (by omega), List.drop_eq_getElem_cons hi,
      List.zipIdx_cons]
    simp only [ok_bind, pure_eq, List.filter_cons]
    cases cells[i] == mark with
    | true => rfl
    | false => rfl

theorem quoteColumns_eq (mark : Char) (around : Bool) (cells : List Char) (col : Nat) :
    quoteColumns mark around cells col = .ok (quoteObject mark around cells col) := by
  rw [quoteColumns, placesFrom_eq, ok_bind, delimited_eq]
  rfl

/-! ## 6. Brackets -/

/-- Looks left, from before place `i` on, for an opening bracket that is not closed before the
column; a closing bracket at the column does not count. -/
def openingAt (opening closing : Char) (cells : List Char) (col : Nat) :
    Nat → Nat → Checked (Option Nat)
  | 0, _ => return none
  | i + 1, depth => do
    let c ← get cells i
    if c = closing ∧ i ≠ col then openingAt opening closing cells col i (depth + 1)
    else if c = opening then
      if depth = 0 then return some i
      else openingAt opening closing cells col i (← sub depth 1)
    else openingAt opening closing cells col i depth

/-- Looks right, from place `i` on, for the closing bracket that takes the depth back to zero. -/
def closingAt (opening closing : Char) (cells : List Char) (i depth : Nat) :
    Checked (Option Nat) :=
  if i < cells.length then do
    let c ← get cells i
    if c = opening then closingAt opening closing cells (i + 1) (depth + 1)
    else if c = closing then
      let depth ← sub depth 1
      if depth = 0 then return some i else closingAt opening closing cells (i + 1) depth
    else closingAt opening closing cells (i + 1) depth
  else return none
termination_by cells.length - i

/-- The pair of brackets at a column. -/
def bracketColumns (opening closing : Char) (around : Bool) (cells : List Char) (col : Nat) :
    Checked (Option Columns) := do
  match ← openingAt opening closing cells col (col + 1) 0 with
  | none => return none
  | some first =>
    match ← closingAt opening closing cells first 0 with
    | none => return none
    | some last => if last < col then return none else delimited around (some ⟨first, last⟩)

variable {opening closing : Char}

theorem openingAt_eq {i : Nat} (depth : Nat) (hi : i ≤ col) (h : col < cells.length) :
    openingAt opening closing cells col i depth =
      .ok (openingBefore opening closing depth (cells.take i).reverse) := by
  induction i generalizing depth with
  | zero => rfl
  | succ i ih =>
    have hlt : i < cells.length := by omega
    have hne : i ≠ col := by omega
    rw [openingAt, get_of_lt hlt, ok_bind, List.take_succ_eq_append_getElem hlt,
      List.reverse_append, List.reverse_singleton, List.singleton_append, openingBefore]
    by_cases hclosing : cells[i] = closing
    · rw [if_pos ⟨hclosing, hne⟩, if_pos hclosing]
      exact ih (depth + 1) (by omega)
    · rw [if_neg (fun hc => hclosing hc.1), if_neg hclosing]
      split
      · split
        · rw [List.length_reverse, List.length_take_of_le (by omega)]
          rfl
        · rename_i hdepth
          rw [sub_of_le (Nat.pos_of_ne_zero hdepth)]
          exact ih (depth - 1) (by omega)
      · exact ih depth (by omega)

/-- The bracket at the column itself is only looked at as an opening one. -/
theorem openingAt_col (h : col < cells.length) :
    openingAt opening closing cells col (col + 1) 0 =
      .ok (openingBracket? opening closing cells col) := by
  rw [openingAt, get_of_lt h, ok_bind, if_neg (fun hc => hc.2 rfl), openingBracket?,
    List.getElem?_eq_getElem h]
  by_cases hopening : cells[col] = opening
  · rw [if_pos hopening, if_pos (congrArg some hopening)]
    rfl
  · rw [if_neg hopening, if_neg (fun hs => hopening (Option.some.inj hs))]
    exact openingAt_eq 0 (Nat.le_refl _) h

/-- Behind the opening bracket the depth is positive until the bracket that closes it. -/
theorem closingAt_eq {i depth : Nat} (h : 1 ≤ depth ∨ cells[i]? = some opening) :
    closingAt opening closing cells i depth =
      .ok (closingFrom opening closing depth i (cells.drop i)) := by
  induction hn : cells.length - i generalizing i depth with
  | zero =>
    rw [closingAt, if_neg (by omega), List.drop_eq_nil_of_le (by omega)]
    rfl
  | succ n ih =>
    have hi : i < cells.length := by omega
    rw [closingAt, if_pos hi, get_of_lt hi, ok_bind, List.drop_eq_getElem_cons hi, closingFrom]
    by_cases hopening : cells[i] = opening
    · rw [if_pos hopening, if_pos hopening]
      exact ih (.inl (Nat.succ_pos depth)) (by omega)
    · have hdepth : 1 ≤ depth := h.resolve_right fun hs => hopening (by
        rw [List.getElem?_eq_getElem hi] at hs
        exact Option.some.inj hs)
      rw [if_neg hopening, if_neg hopening]
      split
      · rw [sub_of_le hdepth, ok_bind]
        by_cases hone : depth = 1
        · rw [if_pos (by omega), if_pos hone]
          rfl
        · rw [if_neg (by omega), if_neg hone]
          exact ih (.inl (by omega)) (by omega)
      · exact ih (.inl hdepth) (by omega)

theorem bracketColumns_eq (around : Bool) (h : col < cells.length) :
    bracketColumns opening closing around cells col =
      .ok (bracketObject opening closing around cells col) := by
  rw [bracketColumns, openingAt_col h, ok_bind, bracketObject, bracketPair?]
  cases hfirst : openingBracket? opening closing cells col with
  | none => rfl
  | some first =>
    simp only [closingAt_eq (.inr (getElem?_openingBracket? hfirst)), ok_bind]
    cases closingFrom opening closing 0 first (cells.drop first) with
    | none => rfl
    | some last =>
      simp only
      split
      · rfl
      · rw [delimited_eq]

end MotionTutor.Checked
