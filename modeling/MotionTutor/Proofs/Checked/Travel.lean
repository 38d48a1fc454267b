import MotionTutor.Proofs.Checked.Words
import MotionTutor.Proofs.Travel.Bounds

/-!
# Motions by places

Where a motion leads, computed with checked operations: a search goes from column to column, a
paragraph motion from line to line, and a count repeats a step. From a position in bounds none of it
faults, and it comes to where the motion leads (`destination_eq`).
-/

namespace MotionTutor.Checked

/-! ## 1. Searches on a line -/

/-- One search from `p`: the columns beyond `p` are looked through one by one. -/
def searchOnce (b : Buffer) (s : Search) (p : Position) : Checked (Option Position) := do
  let cells := b.line p.line
  let isTarget := fun i => do return (← get cells i) == s.target
  match s.direction with
  | .forward =>
    match ← findUp isTarget cells.length (p.col + 1) with
    | none => return none
    | some hit =>
      if s.landing = .onTarget then return some ⟨p.line, hit⟩
      else return some ⟨p.line, ← sub hit 1⟩
  | .backward =>
    match ← findDown isTarget (min p.col cells.length) with
    | none => return none
    | some hit => return some ⟨p.line, if s.landing = .onTarget then hit else hit + 1⟩

/-- A search repeated `n` times, or until it does not move. -/
def searchTimes (b : Buffer) (s : Search) : Nat → Position → Checked (Option Position)
  | 0, p => return some p
  | n + 1, p => do
    match ← searchOnce b s p with
    | none => return none
    | some q => if q = p then return some p else searchTimes b s n q

variable {α : Type} {test : α → Bool} {xs : List α} {i : Nat}

/-- The first element that passes is behind the run of those that do not. -/
theorem findIdx?_eq (test : α → Bool) (xs : List α) :
    xs.findIdx? test = if (xs.takeWhile (!test ·)).length < xs.length then
      some (xs.takeWhile (!test ·)).length else none := by
  induction xs with
  | nil => rfl
  | cons x xs ih =>
    rw [List.findIdx?_cons]
    cases hx : test x with
    | true =>
      rw [if_pos rfl, List.takeWhile_cons_of_neg (by rw [hx]; decide)]
      rfl
    | false =>
      rw [if_neg (by decide), ih, List.takeWhile_cons_of_pos (by rw [hx]; rfl), List.length_cons,
        List.length_cons]
      simp only [Nat.add_lt_add_iff_right]
      split
      · rfl
      · rfl

theorem placeFrom?_eq (test : α → Bool) (xs : List α) (i : Nat) :
    placeFrom? test xs i = ((xs.drop i).findIdx? test).map (i + ·) := by
  rw [findIdx?_eq, placeFrom?, runFrom, List.length_drop]
  have hiff : i + ((xs.drop i).takeWhile (!test ·)).length < xs.length ↔
      ((xs.drop i).takeWhile (!test ·)).length < xs.length - i := by omega
  simp only [hiff]
  split
  · rfl
  · rfl

theorem placeBefore?_eq (test : α → Bool) (h : i ≤ xs.length) :
    placeBefore? test xs i = ((xs.take i).reverse.findIdx? test).map (i - 1 - ·) := by
  rw [findIdx?_eq, placeBefore?, runBefore, List.length_reverse, List.length_take_of_le h]
  split
  · rw [Option.map_some, Nat.sub_right_comm]
  · rfl

theorem searchOnce_eq {b : Buffer} {p : Position} (s : Search) (h : b.InBounds p) :
    searchOnce b s p = .ok (b.searchOnce s p) := by
  have hget : ∀ j (hj : j < (b.line p.line).length),
      (do return (← get (b.line p.line) j) == s.target : Checked Bool) =
        .ok ((b.line p.line)[j] == s.target) := by
    intro j hj
    rw [get_of_lt hj]
    rfl
  simp only [searchOnce, Buffer.searchOnce, Search.landingAfter?]
  cases s.direction with
  | forward =>
    simp only [findUp_eq (· == s.target) _ hget, ok_bind, placeFrom?_eq, Direction.order,
      Direction.place]
    cases hfind : ((b.line p.line).drop (p.col + 1)).findIdx? (· == s.target) with
    | none => rfl
    | some between =>
      have hsub : 1 ≤ p.col + 1 + between := by omega
      simp only [Option.map_some, sub_of_le hsub, ok_bind]
      by_cases hlanding : s.landing = .onTarget
      · rw [if_pos hlanding, if_pos hlanding, Nat.add_right_comm]
        rfl
      · rw [if_neg hlanding, if_neg hlanding, Nat.add_right_comm, Nat.add_sub_cancel]
        rfl
  | backward =>
    have hcol := h.col_le
    rw [Buffer.lastCol, Buffer.lineLength] at hcol
    have hbefore : (b.line p.line).reverse.drop ((b.line p.line).length - 1 - p.col + 1) =
        ((b.line p.line).take (min p.col (b.line p.line).length)).reverse := by
      rw [List.drop_reverse]
      congr 2
      omega
    simp only [findDown_eq (· == s.target) hget (Nat.min_le_right _ _), ok_bind,
      placeBefore?_eq _ (Nat.min_le_right p.col _), Direction.order, Direction.place, hbefore]
    cases hfind : ((b.line p.line).take
        (min p.col (b.line p.line).length)).reverse.findIdx? (· == s.target) with
    | none => rfl
    | some between =>
      obtain ⟨hlt, -⟩ := List.findIdx?_eq_some_iff_getElem.mp hfind
      rw [List.length_reverse, List.length_take] at hlt
      have hhit : min p.col (b.line p.line).length - 1 - between =
          (b.line p.line).length - 1 - ((b.line p.line).length - 1 - p.col + between + 1) := by
        omega
      simp only [Option.map_some]
      by_cases hlanding : s.landing = .onTarget
      · rw [if_pos hlanding, if_pos hlanding, hhit]
        rfl
      · rw [if_neg hlanding, if_neg hlanding, hhit, pure_eq]
        congr 3
        omega

theorem searchTimes_eq {b : Buffer} {p : Position} (s : Search) (n : Nat) (h : b.InBounds p) :
    searchTimes b s n p = .ok (b.searchTimes s n p) := by
  induction n generalizing p with
  | zero => rfl
  | succ n ih =>
    rw [searchTimes, searchOnce_eq s h, ok_bind, Buffer.searchTimes]
    cases hq : b.searchOnce s p with
    | none => rfl
    | some q =>
      simp only
      split
      · rfl
      · exact ih (Buffer.inBounds_searchOnce h hq)

/-! ## 2. Steps -/

/-- The nearest cell of the buffer. -/
def clamp (b : Buffer) (p : Position) : Checked Position := do
  let line := min p.line (← lastLine b)
  return ⟨line, min p.col (b.lastCol line)⟩

/-- One step of a motion. -/
def step (b : Buffer) (m : Motion) (p : Position) : Checked Position := do
  match m with
  | .word travel size => wordStep b size.classOf travel p
  | .lineStart => return ⟨p.line, 0⟩
  | .firstNonBlank => return b.firstNonBlank p.line
  | .lineEnd => return ⟨p.line, b.lastCol p.line⟩
  | .left => return ⟨p.line, p.col - 1⟩
  | .right => return ⟨p.line, min (p.col + 1) (b.lastCol p.line)⟩
  | .down => if p.line < (← lastLine b) then clamp b ⟨p.line + 1, p.col⟩ else return p
  | .up => if 0 < p.line then clamp b ⟨← sub p.line 1, p.col⟩ else return p
  | .nextLine =>
    if p.line < (← lastLine b) then return b.firstNonBlank (p.line + 1) else return p
  | .prevLine => if 0 < p.line then return b.firstNonBlank (← sub p.line 1) else return p
  | .paragraphForward =>
    let last ← lastLine b
    let found ← findUp (fun n => return isBlankText (b.line n)) (last + 1) (p.line + 1)
    return ⟨found.getD last, 0⟩
  | .paragraphBackward =>
    let found ← findDown (fun n => return isBlankText (b.line n)) p.line
    return ⟨found.getD 0, 0⟩
  | _ => return p

/-- A step done `n` times, or until it does not move. -/
def stepTimes (b : Buffer) (m : Motion) : Nat → Position → Checked Position
  | 0, p => return p
  | n + 1, p => do
    let q ← step b m p
    if q = p then return p else stepTimes b m n q

theorem clamp_eq (b : Buffer) (p : Position) : clamp b p = .ok (b.clamp p) := by
  rw [clamp, lastLine_eq]
  rfl

theorem isBlankText_line {b : Buffer} : ∀ j (hj : j < b.lines.length),
    (return isBlankText (b.line j) : Checked Bool) = .ok (isBlankText b.lines[j]) := by
  intro j hj
  rw [Buffer.line, List.getElem?_eq_getElem hj]
  rfl

theorem step_eq {b : Buffer} {p : Position} (m : Motion) (h : b.InBounds p) :
    step b m p = .ok (b.step m p) := by
  cases m with
  | word travel size => exact wordStep_eq h
  | down =>
    simp only [step, lastLine_eq, ok_bind, clamp_eq, Buffer.step]
    split
    · rfl
    · rfl
  | up =>
    simp only [step, clamp_eq, Buffer.step]
    split
    · rename_i hline
      rw [sub_of_le hline]
      rfl
    · rfl
  | nextLine =>
    simp only [step, lastLine_eq, ok_bind, Buffer.step]
    split
    · rfl
    · rfl
  | prevLine =>
    simp only [step, Buffer.step]
    split
    · rename_i hline
      rw [sub_of_le hline]
      rfl
    · rfl
  | paragraphForward =>
    simp only [step, lastLine_eq, ok_bind, b.lastLine_add_one,
      findUp_eq isBlankText _ isBlankText_line, Buffer.step, Buffer.blankLineAfter, placeFrom?]
    have hlast := b.lastLine_add_one
    split
    · rw [Option.getD_some, Nat.min_eq_left (by omega)]
      rfl
    · rw [Option.getD_none, Nat.min_eq_right (by omega)]
      rfl
  | paragraphBackward =>
    have hline : p.line ≤ b.lines.length := Nat.le_trans h.line_le (Nat.sub_le _ _)
    simp only [step, findDown_eq isBlankText isBlankText_line hline, ok_bind, Buffer.step,
      Buffer.blankLineBefore, placeBefore?]
    split
    · rw [Option.getD_some, Nat.sub_right_comm]
      rfl
    · rw [Option.getD_none, Nat.sub_eq_zero_of_le (by omega)]
      rfl
  | _ => rfl

theorem stepTimes_eq {b : Buffer} {p : Position} (m : Motion) (n : Nat) (h : b.InBounds p) :
    stepTimes b m n p = .ok (b.stepTimes m n p) := by
  induction n generalizing p with
  | zero => rfl
  | succ n ih =>
    simp only [stepTimes, step_eq m h, ok_bind, Buffer.stepTimes]
    split
    · rfl
    · exact ih (Buffer.inBounds_step h m)

/-! ## 3. Counted motions -/

/-- Where a counted motion leads from `p`. -/
def destination (b : Buffer) (last : Option Search) (m : Motion) (count : Option Nat)
    (p : Position) : Checked (Option Position) := do
  let times := timesOf count
  match m with
  | .firstLine => return some (b.firstNonBlank (min (count.elim 0 (· - 1)) (← lastLine b)))
  | .lastLine =>
    let final ← lastLine b
    return some (b.firstNonBlank (min (count.elim final (· - 1)) final))
  | .currentLine =>
    return some (b.firstNonBlank (min (p.line + (← sub times 1)) (← lastLine b)))
  | .search s => searchTimes b s times p
  | .repeatSearch =>
    match last with
    | none => return none
    | some s => searchTimes b s times p
  | .repeatSearchReversed =>
    match last with
    | none => return none
    | some s => searchTimes b s.reversed times p
  | m => return some (← stepTimes b m times p)

theorem one_le_timesOf (count : Option Nat) : 1 ≤ timesOf count := Nat.le_max_left _ _

/-- **A motion never faults**, and comes to where it leads. -/
theorem destination_eq {b : Buffer} {p : Position} (last : Option Search) (m : Motion)
    (count : Option Nat) (h : b.InBounds p) :
    destination b last m count p = .ok (b.destination last m count p) := by
  have hsteps := fun m => stepTimes_eq m (timesOf count) h
  have hsearch := fun s => searchTimes_eq s (timesOf count) h
  cases m with
  | firstLine =>
    simp only [destination, lastLine_eq]
    rfl
  | lastLine =>
    simp only [destination, lastLine_eq]
    rfl
  | currentLine =>
    simp only [destination, lastLine_eq, sub_of_le (one_le_timesOf count)]
    rfl
  | search s => exact hsearch s
  | repeatSearch =>
    cases last with
    | none => rfl
    | some s => exact hsearch s
  | repeatSearchReversed =>
    cases last with
    | none => rfl
    | some s => exact hsearch s.reversed
  | _ =>
    simp only [destination, hsteps]
    rfl

end MotionTutor.Checked
