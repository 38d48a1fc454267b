import Mathlib.Data.Nat.SuccPred
import Mathlib.Order.Bounds.Basic
import Mathlib.Order.Interval.Set.SuccPred
import MotionTutor.Proofs.Selection.Runs
import MotionTutor.Proofs.Simulation.Counts
import MotionTutor.Proofs.Simulation.Operators

/-!
# Counts of lines

A motion from line to line takes a count of lines. Some of these motions reckon with the count, the
others step it off, ending early where a step does not move and bringing the cursor back to the
buffer after each step. What they come to has a closed form all the same (`CountsLines`,
`Buffer.simulate_countsLines`):

* down and up, the line is the one that many lines away, or the outermost one; the column is the
  least of the column at the start and the last columns of all lines passed, since each of them may
  push the cursor to the left, and nothing pushes it back;
* to the next and the previous line, the column is that of the first character that is not blank,
  but for a cursor that has no line to go to and stays;
* by paragraphs, the line is the blank line of that number in the direction, or the outermost one.

Steps to blank lines are followed by the list of the blank lines ahead, from which each step takes
the first (`blankLinesAfter_step`, `blankLinesBefore_step`).
-/

namespace MotionTutor

namespace Buffer

variable {b : Buffer} {p : Position} {n l : Nat}

/-! ## 1. Down and up -/

/-- To push the column by a line is to have that line among those that push it. -/
theorem isLeast_insert_of_min {col edge least : Nat} {edges : Set Nat}
    (h : IsLeast (insert (min col edge) edges) least) :
    IsLeast (insert col (insert edge edges)) least := by
  obtain ⟨hmem, hle⟩ := h
  rw [lowerBounds_insert, Set.mem_inter_iff, Set.mem_Iic, le_min_iff] at hle
  constructor
  · rcases hmem with rfl | hmem
    · rcases min_choice col edge with hcol | hedge
      · exact .inl hcol
      · exact .inr (.inl hedge)
    · exact .inr (.inr hmem)
  · rw [lowerBounds_insert, lowerBounds_insert]
    exact ⟨hle.1.1, hle.1.2, hle.2⟩

theorem step_down_of_lt (h : p.line < b.lastLine) :
    b.step .down p = ⟨p.line + 1, min p.col (b.lastCol (p.line + 1))⟩ := by
  simp only [step, if_pos h, clamp, Nat.min_eq_left (Nat.succ_le_of_lt h)]

theorem step_down_of_eq (h : p.line = b.lastLine) : b.step .down p = p :=
  if_neg (Nat.not_lt.mpr (Nat.le_of_eq h.symm))

theorem step_up_of_pos (h : 0 < p.line) (hline : p.line ≤ b.lastLine) :
    b.step .up p = ⟨p.line - 1, min p.col (b.lastCol (p.line - 1))⟩ := by
  simp only [step, if_pos h, clamp, Nat.min_eq_left (Nat.le_trans (Nat.sub_le _ _) hline)]

theorem step_up_of_eq (h : p.line = 0) : b.step .up p = p :=
  if_neg (Nat.not_lt.mpr (Nat.le_of_eq h))

/-- **Steps down come so many lines down, at the least column of the lines passed.** -/
theorem stepTimes_down (h : p.line ≤ b.lastLine) (n : Nat) :
    (b.stepTimes .down n p).line = min (p.line + n) b.lastLine ∧
      IsLeast (insert p.col (b.lastCol '' Set.Ioc p.line (min (p.line + n) b.lastLine)))
        (b.stepTimes .down n p).col := by
  induction n generalizing p with
  | zero =>
    rw [Nat.add_zero, Nat.min_eq_left h, Set.Ioc_self, Set.image_empty, insert_empty_eq]
    exact ⟨rfl, isLeast_singleton⟩
  | succ n ih =>
    rcases Nat.lt_or_eq_of_le h with hlt | heq
    · have hgoal : min (p.line + (n + 1)) b.lastLine = min (p.line + 1 + n) b.lastLine := by
        rw [Nat.add_right_comm, Nat.add_assoc]
      have hpassed : p.line < min (p.line + 1 + n) b.lastLine := by omega
      obtain ⟨hline, hcol⟩ := ih (p := b.step .down p) (by rw [step_down_of_lt hlt]; exact hlt)
      rw [step_down_of_lt hlt] at hline hcol
      rw [stepTimes_succ, step_down_of_lt hlt, hgoal,
        ← Set.insert_Ioc_succ_left_eq_Ioc hpassed, Set.image_insert_eq]
      exact ⟨hline, isLeast_insert_of_min hcol⟩
    · rw [stepTimes_of_step_eq (step_down_of_eq heq), heq, Nat.min_eq_right (Nat.le_add_right _ _),
        Set.Ioc_self, Set.image_empty, insert_empty_eq]
      exact ⟨rfl, isLeast_singleton⟩

/-- **Steps up come so many lines up, at the least column of the lines passed.** -/
theorem stepTimes_up (h : p.line ≤ b.lastLine) (n : Nat) :
    (b.stepTimes .up n p).line = p.line - n ∧
      IsLeast (insert p.col (b.lastCol '' Set.Ico (p.line - n) p.line))
        (b.stepTimes .up n p).col := by
  induction n generalizing p with
  | zero =>
    rw [Nat.sub_zero, Set.Ico_self, Set.image_empty, insert_empty_eq]
    exact ⟨rfl, isLeast_singleton⟩
  | succ n ih =>
    rcases Nat.eq_zero_or_pos p.line with hzero | hpos
    · rw [stepTimes_of_step_eq (step_up_of_eq hzero), hzero, Nat.zero_sub, Set.Ico_self,
        Set.image_empty, insert_empty_eq]
      exact ⟨rfl, isLeast_singleton⟩
    · have hgoal : p.line - (n + 1) = p.line - 1 - n := by omega
      have hpassed : p.line - 1 - n < p.line := by omega
      have hbefore : p.line - 1 ≤ b.lastLine := Nat.le_trans (Nat.sub_le _ _) h
      obtain ⟨hline, hcol⟩ := ih (p := b.step .up p) (by rw [step_up_of_pos hpos h]; exact hbefore)
      rw [step_up_of_pos hpos h] at hline hcol
      rw [stepTimes_succ, step_up_of_pos hpos h, hgoal, ← Set.insert_Ico_pred_right_eq_Ico hpassed,
        Set.image_insert_eq]
      exact ⟨hline, isLeast_insert_of_min hcol⟩

/-! ## 2. To the next and the previous line -/

theorem step_nextLine_of_lt (h : p.line < b.lastLine) :
    b.step .nextLine p = b.firstNonBlank (p.line + 1) := if_pos h

theorem step_nextLine_of_eq (h : p.line = b.lastLine) : b.step .nextLine p = p :=
  if_neg (Nat.not_lt.mpr (Nat.le_of_eq h.symm))

theorem step_prevLine_of_pos (h : 0 < p.line) :
    b.step .prevLine p = b.firstNonBlank (p.line - 1) := if_pos h

theorem step_prevLine_of_eq (h : p.line = 0) : b.step .prevLine p = p :=
  if_neg (Nat.not_lt.mpr (Nat.le_of_eq h))

/-- From the first character of a line that is not blank, steps come to another such character. -/
theorem stepTimes_nextLine_firstNonBlank (h : l ≤ b.lastLine) (n : Nat) :
    b.stepTimes .nextLine n (b.firstNonBlank l) = b.firstNonBlank (min (l + n) b.lastLine) := by
  induction n generalizing l with
  | zero =>
    rw [Nat.add_zero, Nat.min_eq_left h]
    rfl
  | succ n ih =>
    rcases Nat.lt_or_eq_of_le h with hlt | heq
    · have hstep : b.step .nextLine (b.firstNonBlank l) = b.firstNonBlank (l + 1) :=
        step_nextLine_of_lt hlt
      rw [stepTimes_succ, hstep, ih (l := l + 1) hlt, Nat.add_right_comm, Nat.add_assoc]
    · have hstep : b.step .nextLine (b.firstNonBlank l) = b.firstNonBlank l :=
        step_nextLine_of_eq heq
      rw [stepTimes_of_step_eq hstep, heq, Nat.min_eq_right (Nat.le_add_right _ _)]

theorem stepTimes_nextLine (h : p.line ≤ b.lastLine) (hn : 1 ≤ n) :
    b.stepTimes .nextLine n p =
      if p.line = b.lastLine then p else b.firstNonBlank (min (p.line + n) b.lastLine) := by
  split
  · rename_i heq
    exact stepTimes_of_step_eq (step_nextLine_of_eq heq) n
  · rename_i hne
    have hlt : p.line < b.lastLine := Nat.lt_of_le_of_ne h hne
    obtain ⟨k, rfl⟩ := Nat.exists_eq_add_of_le' hn
    rw [stepTimes_succ, step_nextLine_of_lt hlt,
      stepTimes_nextLine_firstNonBlank (l := p.line + 1) hlt, Nat.add_right_comm, Nat.add_assoc]

theorem stepTimes_prevLine_firstNonBlank (l n : Nat) :
    b.stepTimes .prevLine n (b.firstNonBlank l) = b.firstNonBlank (l - n) := by
  induction n generalizing l with
  | zero => rfl
  | succ n ih =>
    rcases Nat.eq_zero_or_pos l with rfl | hpos
    · have hstep : b.step .prevLine (b.firstNonBlank 0) = b.firstNonBlank 0 :=
        step_prevLine_of_eq rfl
      rw [stepTimes_of_step_eq hstep, Nat.zero_sub]
    · have hstep : b.step .prevLine (b.firstNonBlank l) = b.firstNonBlank (l - 1) :=
        step_prevLine_of_pos hpos
      rw [stepTimes_succ, hstep, ih, Nat.sub_sub, Nat.add_comm]

theorem stepTimes_prevLine (p : Position) (hn : 1 ≤ n) :
    b.stepTimes .prevLine n p =
      if p.line = 0 then p else b.firstNonBlank (p.line - n) := by
  split
  · rename_i heq
    exact stepTimes_of_step_eq (step_prevLine_of_eq heq) n
  · rename_i hne
    obtain ⟨k, rfl⟩ := Nat.exists_eq_add_of_le' hn
    rw [stepTimes_succ, step_prevLine_of_pos (Nat.pos_of_ne_zero hne),
      stepTimes_prevLine_firstNonBlank, Nat.sub_sub, Nat.add_comm]

/-! ## 3. To blank lines -/

/-- The blank lines after line `l`, the nearest first. -/
def blankLinesAfter (b : Buffer) (l : Nat) : List Nat :=
  (List.range' (l + 1) (b.lastLine - l)).filter b.isBlankLine

/-- The blank lines before line `l`, the nearest first. -/
def blankLinesBefore (b : Buffer) (l : Nat) : List Nat :=
  (List.range l).reverse.filter b.isBlankLine

theorem blankLinesAfter_of_le (h : b.lastLine ≤ l) : b.blankLinesAfter l = [] := by
  rw [blankLinesAfter, Nat.sub_eq_zero_of_le h]
  rfl

theorem blankLinesAfter_of_lt (h : l < b.lastLine) :
    b.blankLinesAfter l =
      if b.isBlankLine (l + 1) then (l + 1) :: b.blankLinesAfter (l + 1)
      else b.blankLinesAfter (l + 1) := by
  have hsucc : b.lastLine - l = b.lastLine - (l + 1) + 1 := by omega
  rw [blankLinesAfter, hsucc, List.range'_succ, List.filter_cons]
  rfl

theorem blankLineAfter_of_le (h : b.lastLine ≤ l) : b.blankLineAfter l = b.lastLine :=
  Nat.min_eq_right (by omega)

theorem blankLineAfter_of_lt (h : l < b.lastLine) :
    b.blankLineAfter l = if b.isBlankLine (l + 1) then l + 1 else b.blankLineAfter (l + 1) := by
  have hlines := b.lastLine_add_one
  have hlt : l + 1 < b.lines.length := by omega
  rw [blankLineAfter, isBlankLine_of_lt hlt]
  cases hblank : isBlankText b.lines[l + 1] with
  | true =>
    have hrun : runFrom (!isBlankText ·) b.lines (l + 1) = 0 :=
      runFrom_of_neg hlt (by rw [hblank]; rfl)
    rw [hrun, if_pos rfl]
    exact Nat.min_eq_left h
  | false =>
    have hrun : runFrom (!isBlankText ·) b.lines (l + 1) =
        runFrom (!isBlankText ·) b.lines (l + 1 + 1) + 1 :=
      runFrom_of_pos hlt (by rw [hblank]; rfl)
    rw [hrun, if_neg Bool.false_ne_true, blankLineAfter]
    congr 1
    omega

/-- **The step to a blank line takes the first of those after the line**, or goes to the last line
if there is none; from there it has the others left. -/
theorem blankLinesAfter_step (b : Buffer) (l : Nat) :
    b.blankLineAfter l = (b.blankLinesAfter l).head?.getD b.lastLine ∧
      b.blankLinesAfter (b.blankLineAfter l) = (b.blankLinesAfter l).tail := by
  induction hleft : b.lastLine - l generalizing l with
  | zero =>
    have hle : b.lastLine ≤ l := by omega
    rw [blankLineAfter_of_le hle, blankLinesAfter_of_le hle,
      blankLinesAfter_of_le (Nat.le_refl b.lastLine)]
    exact ⟨rfl, rfl⟩
  | succ left ih =>
    have hlt : l < b.lastLine := by omega
    rw [blankLineAfter_of_lt hlt, blankLinesAfter_of_lt hlt]
    split
    · exact ⟨rfl, rfl⟩
    · exact ih (l + 1) (by omega)

theorem blankLinesBefore_succ (b : Buffer) (l : Nat) :
    b.blankLinesBefore (l + 1) =
      if b.isBlankLine l then l :: b.blankLinesBefore l else b.blankLinesBefore l := by
  rw [blankLinesBefore, List.range_succ, List.reverse_append, List.reverse_singleton,
    List.singleton_append, List.filter_cons]
  rfl

theorem blankLineBefore_zero (b : Buffer) : b.blankLineBefore 0 = 0 := Nat.zero_sub _

theorem blankLineBefore_succ (h : l < b.lines.length) :
    b.blankLineBefore (l + 1) = if b.isBlankLine l then l else b.blankLineBefore l := by
  rw [blankLineBefore, isBlankLine_of_lt h]
  cases hblank : isBlankText b.lines[l] with
  | true =>
    have hrun : runBefore (!isBlankText ·) b.lines (l + 1) = 0 :=
      runBefore_succ_of_neg h (by rw [hblank]; rfl)
    rw [hrun, if_pos rfl]
    rfl
  | false =>
    have hrun : runBefore (!isBlankText ·) b.lines (l + 1) =
        runBefore (!isBlankText ·) b.lines l + 1 :=
      runBefore_succ_of_pos h (by rw [hblank]; rfl)
    rw [hrun, if_neg Bool.false_ne_true, blankLineBefore]
    omega

/-- **The step back to a blank line takes the nearest of those before the line**, or goes to the
first line if there is none; from there it has the others left. -/
theorem blankLinesBefore_step (h : l ≤ b.lines.length) :
    b.blankLineBefore l = (b.blankLinesBefore l).head?.getD 0 ∧
      b.blankLinesBefore (b.blankLineBefore l) = (b.blankLinesBefore l).tail := by
  induction l with
  | zero =>
    rw [blankLineBefore_zero]
    exact ⟨rfl, rfl⟩
  | succ l ih =>
    rw [blankLineBefore_succ h, blankLinesBefore_succ]
    split
    · exact ⟨rfl, rfl⟩
    · exact ih (Nat.le_of_succ_le h)

/-- Steps to blank lines come to the blank line of their number. -/
theorem stepTimes_paragraphForward (p : Position) (hn : 1 ≤ n) :
    b.stepTimes .paragraphForward n p =
      ⟨((b.blankLinesAfter p.line)[n - 1]?).getD b.lastLine, 0⟩ := by
  have hstep : b.step .paragraphForward p = ⟨b.blankLineAfter p.line, 0⟩ := rfl
  obtain ⟨hfirst, hrest⟩ := b.blankLinesAfter_step p.line
  induction n, hn using Nat.le_induction generalizing p with
  | base =>
    rw [stepTimes_succ, hstep, hfirst, List.head?_eq_getElem?]
    rfl
  | succ n hn ih =>
    obtain ⟨hfirst', hrest'⟩ := b.blankLinesAfter_step (b.blankLineAfter p.line)
    rw [stepTimes_succ, hstep, ih ⟨b.blankLineAfter p.line, 0⟩ rfl hfirst' hrest', hrest,
      List.getElem?_tail, Nat.sub_add_cancel hn, Nat.add_sub_cancel]

theorem stepTimes_paragraphBackward (h : p.line ≤ b.lines.length) (hn : 1 ≤ n) :
    b.stepTimes .paragraphBackward n p =
      ⟨((b.blankLinesBefore p.line)[n - 1]?).getD 0, 0⟩ := by
  have hstep : b.step .paragraphBackward p = ⟨b.blankLineBefore p.line, 0⟩ := rfl
  obtain ⟨hfirst, hrest⟩ := blankLinesBefore_step h
  induction n, hn using Nat.le_induction generalizing p with
  | base =>
    rw [stepTimes_succ, hstep, hfirst, List.head?_eq_getElem?]
    rfl
  | succ n hn ih =>
    have hle : b.blankLineBefore p.line ≤ b.lines.length := by
      rw [blankLineBefore]
      omega
    obtain ⟨hfirst', hrest'⟩ := blankLinesBefore_step hle
    rw [stepTimes_succ, hstep, ih (p := ⟨b.blankLineBefore p.line, 0⟩) hle rfl hfirst' hrest',
      hrest, List.getElem?_tail, Nat.sub_add_cancel hn, Nat.add_sub_cancel]

/-! ## 4. Counts -/

/-- Where motions by lines lead from `p` with the count `n`. -/
structure CountsLines (b : Buffer) (n : Nat) (p : Position) (goal : Motion → Position) : Prop where
  down_line : (goal .down).line = min (p.line + n) b.lastLine
  down_col : IsLeast (insert p.col (b.lastCol '' Set.Ioc p.line (goal .down).line)) (goal .down).col
  up_line : (goal .up).line = p.line - n
  up_col : IsLeast (insert p.col (b.lastCol '' Set.Ico (goal .up).line p.line)) (goal .up).col
  nextLine : goal .nextLine =
    if p.line = b.lastLine then p else b.firstNonBlank (min (p.line + n) b.lastLine)
  prevLine : goal .prevLine = if p.line = 0 then p else b.firstNonBlank (p.line - n)
  paragraphForward : goal .paragraphForward =
    ⟨((b.blankLinesAfter p.line)[n - 1]?).getD b.lastLine, 0⟩
  paragraphBackward : goal .paragraphBackward = ⟨((b.blankLinesBefore p.line)[n - 1]?).getD 0, 0⟩
  currentLine : goal .currentLine = b.firstNonBlank (min (p.line + n - 1) b.lastLine)
  lastLine : goal .lastLine = b.firstNonBlank (min (n - 1) b.lastLine)
  firstLine : goal .firstLine = b.firstNonBlank (min (n - 1) b.lastLine)

/-- The motion to the start of the line, which takes no count, does not matter. -/
theorem CountsLines.congr {goal goal' : Motion → Position} (h : b.CountsLines n p goal)
    (heq : ∀ m, m ≠ .lineStart → goal' m = goal m) : b.CountsLines n p goal' where
  down_line := by rw [heq .down nofun]; exact h.down_line
  down_col := by rw [heq .down nofun]; exact h.down_col
  up_line := by rw [heq .up nofun]; exact h.up_line
  up_col := by rw [heq .up nofun]; exact h.up_col
  nextLine := by rw [heq .nextLine nofun]; exact h.nextLine
  prevLine := by rw [heq .prevLine nofun]; exact h.prevLine
  paragraphForward := by rw [heq .paragraphForward nofun]; exact h.paragraphForward
  paragraphBackward := by rw [heq .paragraphBackward nofun]; exact h.paragraphBackward
  currentLine := by rw [heq .currentLine nofun]; exact h.currentLine
  lastLine := by rw [heq .lastLine nofun]; exact h.lastLine
  firstLine := by rw [heq .firstLine nofun]; exact h.firstLine

/-- A motion that goes step by step never fails. -/
theorem getD_destination_of_isRepeated {m : Motion} (hm : m.isRepeated = true)
    (last : Option Search) (hn : 1 ≤ n) (p : Position) :
    (b.destination last m (some n) p).getD p = b.stepTimes m n p := by
  have htimes : timesOf (some n) = n := Nat.max_eq_right hn
  rw [destination_of_isRepeated hm, htimes, Option.getD_some]

/-- Motions by lines lead from a cell of the buffer where the closed forms say. -/
theorem countsLines_destination (h : b.InBounds p) (last : Option Search) (hn : 1 ≤ n) :
    b.CountsLines n p fun m => (b.destination last m (some n) p).getD p where
  down_line := by
    rw [getD_destination_of_isRepeated rfl last hn]
    exact (stepTimes_down h.line_le n).1
  down_col := by
    rw [getD_destination_of_isRepeated rfl last hn, (stepTimes_down h.line_le n).1]
    exact (stepTimes_down h.line_le n).2
  up_line := by
    rw [getD_destination_of_isRepeated rfl last hn]
    exact (stepTimes_up h.line_le n).1
  up_col := by
    rw [getD_destination_of_isRepeated rfl last hn, (stepTimes_up h.line_le n).1]
    exact (stepTimes_up h.line_le n).2
  nextLine := by
    rw [getD_destination_of_isRepeated rfl last hn]
    exact stepTimes_nextLine h.line_le hn
  prevLine := by
    rw [getD_destination_of_isRepeated rfl last hn]
    exact stepTimes_prevLine p hn
  paragraphForward := by
    rw [getD_destination_of_isRepeated rfl last hn]
    exact stepTimes_paragraphForward p hn
  paragraphBackward := by
    have hlast := b.lastLine_add_one
    have hlines : p.line ≤ b.lines.length := Nat.le_trans h.line_le (by omega)
    rw [getD_destination_of_isRepeated rfl last hn]
    exact stepTimes_paragraphBackward hlines hn
  currentLine := by
    have htimes : timesOf (some n) = n := Nat.max_eq_right hn
    simp only [destination, htimes, Option.getD_some, Nat.add_sub_assoc hn]
  lastLine := rfl
  firstLine := rfl

/-- The cursor goes where a motion leads. -/
theorem cursor_run_motion {u : Simulation} (h : b.InBounds u.cursor) (m : Motion)
    (count : Option Nat) :
    (Simulation.run b u ⟨count, .motion m⟩).cursor =
      (b.destination u.lastSearch m count u.cursor).getD u.cursor := by
  simp only [Simulation.run]
  cases hd : b.destination u.lastSearch m count u.cursor with
  | none => rfl
  | some q => exact clamp_of_inBounds (inBounds_destination h hd)

/-- **Counted motions by lines have a closed form.** From any state with the cursor on a cell of the
buffer, a motion by lines with a count leads where its closed form says: down and up squeeze the
column by every line passed, the paragraph motions count blank lines, the others go to the first
character of their line that is not blank. So do its keys behind any that do not end within a
command, from the position that these led to; a count that is too large is read as the largest. -/
theorem simulate_countsLines (b : Buffer) (hn : 1 ≤ n) :
    (∀ u : Simulation, b.InBounds u.cursor →
      b.CountsLines n u.cursor fun m => (Simulation.run b u ⟨some n, .motion m⟩).cursor) ∧
    ∀ (start : Position) (before : Keys),
      (∀ t ∈ (Token.ofKeys before).getLast?, t.pending? = none) →
      b.CountsLines (min maxCount n) (b.simulate start before).position fun m =>
        (b.simulate start (before ++ (Decimal.digits n ++ m.keys))).position := by
  constructor
  · intro u h
    exact (countsLines_destination h u.lastSearch hn).congr fun m _ => cursor_run_motion h m _
  · intro start before hbefore
    have hin : b.InBounds (b.simulate start before).position := b.inBounds_clamp _
    have hcount : 1 ≤ min maxCount n := Nat.le_min.mpr ⟨by decide, hn⟩
    refine (countsLines_destination hin (Token.lastSearch? (Token.ofKeys before)) hcount).congr ?_
    intro m hm
    have hgoal := b.position_simulate_motion (m := m) start hbefore (one_le_of_mem_some hn)
      fun hline => absurd hline hm
    exact hgoal

/-- Two lines down, the line between is the shortest of the three; two blank lines are next to each
other, and behind the last one there is none. -/
theorem simulate_countsLines_squeezed :
    let b := ofTexts ["a long line", "ab", "  cd e", "", " ", "end"]
    let goal (m : Motion) := (b.simulate ⟨0, 5⟩ (['f', 'i'] ++ (Decimal.digits 2 ++ m.keys))).position
    1 ≤ 2 ∧ (∀ t ∈ (Token.ofKeys ['f', 'i']).getLast?, t.pending? = none) ∧
      b.CountsLines 2 ⟨0, 8⟩ goal ∧ goal .down = ⟨2, 1⟩ ∧ goal .paragraphForward = ⟨4, 0⟩ := by
  intro b goal
  have hbefore : ∀ t ∈ (Token.ofKeys ['f', 'i']).getLast?, t.pending? = none := by decide +kernel
  have hp : (b.simulate ⟨0, 5⟩ ['f', 'i']).position = ⟨0, 8⟩ := by decide +kernel
  have hlines := (b.simulate_countsLines (show 1 ≤ 2 by decide)).2 ⟨0, 5⟩ ['f', 'i'] hbefore
  rw [hp] at hlines
  exact ⟨by decide, hbefore, hlines, by decide +kernel, by decide +kernel⟩

end Buffer

end MotionTutor
