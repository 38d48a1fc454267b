import MotionTutor.Proofs.Checked.Basic
import MotionTutor.Proofs.Travel.Reader

/-!
# Motions by words, cell by cell

A motion by words is a walk: it goes from a cell to the next in its direction (`nextCell`), on while
the cells pass a test (`walk`), or up to the last cell of a run on its line (`runOn`). A step back
subtracts one from a column or from a line. From a position in bounds no step faults, and the walk
comes to where the motion leads (`wordStep_eq`). A walk is described on the lines that a reader
meets: on one line it goes to the end of a run (`walk_met`), and then on to the next line.
-/

namespace MotionTutor.Checked

open Direction (place_le)

/-! ## 1. The walk -/

/-- The last line of a buffer. -/
def lastLine (b : Buffer) : Checked Nat := sub b.lines.length 1

/-- The cell after `p` for a reader in a direction; none where the text ends. -/
def nextCell (b : Buffer) (d : Direction) (p : Position) : Checked (Option Position) :=
  match d with
  | .forward => do
    if p.col + 1 < b.lineLength p.line then return some ⟨p.line, p.col + 1⟩
    else if p.line < (← lastLine b) then return some ⟨p.line + 1, 0⟩
    else return none
  | .backward => do
    if 0 < p.col then return some ⟨p.line, ← sub p.col 1⟩
    else if 0 < p.line then
      let line ← sub p.line 1
      return some ⟨line, b.lastCol line⟩
    else return none

/-- How much of the text lies ahead of a reader: lines, and cells of the line at hand. -/
def ahead (b : Buffer) (d : Direction) (p : Position) : Nat × Nat :=
  match d with
  | .forward => (b.lastLine - p.line, b.lineLength p.line - p.col)
  | .backward => (p.line, p.col)

theorem lastLine_eq (b : Buffer) : lastLine b = .ok b.lastLine := sub_of_le b.length_pos

theorem ahead_nextCell {b : Buffer} {d : Direction} {p q : Position}
    (h : nextCell b d p = .ok (some q)) : Prod.Lex (· < ·) (· < ·) (ahead b d q) (ahead b d p) := by
  cases d with
  | forward =>
    simp only [nextCell, lastLine_eq, ok_bind] at h
    split at h
    · cases h
      exact .right _ (by simp only; omega)
    · split at h
      · cases h
        exact .left _ _ (by simp only; omega)
      · cases h
  | backward =>
    simp only [nextCell] at h
    split at h
    · rename_i hcol
      rw [sub_of_le hcol] at h
      cases h
      exact .right _ (Nat.sub_lt hcol Nat.one_pos)
    · split at h
      · rename_i hline
        rw [sub_of_le hline] at h
        cases h
        exact .left _ _ (Nat.sub_lt hline Nat.one_pos)
      · cases h

/-- Goes on while the cell at hand passes the test; says also whether the text ended. -/
def walk (b : Buffer) (d : Direction) (test : Position → Bool) (p : Position) :
    Checked (Position × Bool) :=
  if test p then
    match _next : nextCell b d p with
    | .error fault => .error fault
    | .ok (some q) => walk b d test q
    | .ok none => return (p, true)
  else return (p, false)
termination_by ahead b d p
decreasing_by exact ahead_nextCell _next

/-- Goes on while the cell behind is on the same line and passes the test. -/
def runOn (b : Buffer) (d : Direction) (test : Position → Bool) (p : Position) : Checked Position :=
  match _next : nextCell b d p with
  | .error fault => .error fault
  | .ok (some q) => if q.line = p.line ∧ test q then runOn b d test q else return p
  | .ok none => return p
termination_by ahead b d p
decreasing_by exact ahead_nextCell _next

/-- The class of a cell. -/
def classOn (b : Buffer) (classOf : Char → CharClass) (p : Position) : CharClass :=
  (b.charAt p).elim .blank classOf

/-- Skips blanks from `p` on. An empty line is a stop, except on the way to the end of a word. -/
def skipBlanks (b : Buffer) (classOf : Char → CharClass) (travel : WordTravel) (p : Position) :
    Checked (Position × Bool) :=
  walk b travel.direction (fun q => classOn b classOf q = .blank &&
    (travel = .nextEnd || 0 < b.lineLength q.line)) p

/-- From the end of a word that a motion comes to first to the end at which it stops. -/
def finish (b : Buffer) (classOf : Char → CharClass) (travel : WordTravel) (q : Position) :
    Checked Position :=
  if travel.stopsNear || b.lineLength q.line = 0 then return q
  else
    let run := classOn b classOf q
    runOn b travel.direction (classOn b classOf · = run) q

/-- Goes from `p` on to the first stop of the motion. -/
def arrive (b : Buffer) (classOf : Char → CharClass) (travel : WordTravel) (p : Position) :
    Checked (Position × Bool) := do
  let (q, ended) ← skipBlanks b classOf travel p
  if ended then return (q, true) else return (← finish b classOf travel q, false)

/-- Leaves the run of `start` if the motion does so; `q` is the cell after `start`. -/
def leave (b : Buffer) (classOf : Char → CharClass) (travel : WordTravel) (start q : Position) :
    Checked (Position × Bool) :=
  if travel.stopsNear then
    let run := classOn b classOf start
    walk b travel.direction (fun q => q.line = start.line && run ≠ .blank &&
      classOn b classOf q = run) q
  else return (q, false)

/-- Goes from the cell `q` after `start` to the first stop of the motion. -/
def seek (b : Buffer) (classOf : Char → CharClass) (travel : WordTravel) (start q : Position) :
    Checked (Position × Bool) := do
  let (q, ended) ← leave b classOf travel start q
  if ended then return (q, true) else arrive b classOf travel q

/-- The motion by words from `p`. -/
def wordStep (b : Buffer) (classOf : Char → CharClass) (travel : WordTravel) (p : Position) :
    Checked Position := do
  match ← nextCell b travel.direction p with
  | none => return p
  | some q =>
    let (q, ended) ← seek b classOf travel p q
    return if ended && travel = .nextEnd then p else q

/-! ## 2. Walks on the lines met -/

section Walk

variable {b : Buffer} {d : Direction} {k i : Nat} {test : Position → Bool}

theorem nextCell_met (h : i + 1 < (b.met d k).length) :
    nextCell b d (b.cellMet d k i) = .ok (some (b.cellMet d k (i + 1))) := by
  cases d with
  | forward =>
    have hcol : (b.cellMet .forward k i).col + 1 < b.lineLength (b.cellMet .forward k i).line := by
      rw [Buffer.lineLength_cellMet]
      exact h
    rw [nextCell, if_pos hcol]
    rfl
  | backward =>
    have hcol : 0 < (b.cellMet .backward k i).col := by
      simp only [Buffer.cellMet, Direction.place]
      omega
    rw [nextCell, if_pos hcol, sub_of_le hcol]
    rfl

theorem nextCell_met_beyond (h : i = (b.met d k).length - 1) (hk : k + 1 < b.lines.length) :
    nextCell b d (b.cellMet d k i) = .ok (some (b.cellMet d (k + 1) 0)) := by
  cases d with
  | forward =>
    have hcol : ¬ (b.cellMet .forward k i).col + 1 <
        b.lineLength (b.cellMet .forward k i).line := by
      rw [Buffer.lineLength_cellMet]
      simp only [Buffer.cellMet, Direction.place]
      omega
    have hline : (b.cellMet .forward k i).line < b.lastLine := Nat.lt_sub_of_add_lt hk
    rw [nextCell, if_neg hcol, lastLine_eq, ok_bind, if_pos hline]
    rfl
  | backward =>
    have hcol : ¬ 0 < (b.cellMet .backward k i).col := by
      simp only [Buffer.cellMet, Direction.place]
      omega
    have hline : 0 < (b.cellMet .backward k i).line := by
      simp only [Buffer.cellMet, Direction.place]
      omega
    rw [nextCell, if_neg hcol, if_pos hline, sub_of_le hline]
    simp only [Buffer.cellMet, Buffer.length_met]
    rfl

theorem nextCell_met_last (h : i = (b.met d k).length - 1) (hk : ¬ k + 1 < b.lines.length) :
    nextCell b d (b.cellMet d k i) = .ok none := by
  cases d with
  | forward =>
    have hcol : ¬ (b.cellMet .forward k i).col + 1 <
        b.lineLength (b.cellMet .forward k i).line := by
      rw [Buffer.lineLength_cellMet]
      simp only [Buffer.cellMet, Direction.place]
      omega
    have hline : ¬ (b.cellMet .forward k i).line < b.lastLine := by
      have := b.lastLine_add_one
      simp only [Buffer.cellMet, Direction.place]
      omega
    rw [nextCell, if_neg hcol, lastLine_eq, ok_bind, if_neg hline]
    rfl
  | backward =>
    have hcol : ¬ 0 < (b.cellMet .backward k i).col := by
      simp only [Buffer.cellMet, Direction.place]
      omega
    have hline : ¬ 0 < (b.cellMet .backward k i).line := by
      simp only [Buffer.cellMet, Direction.place]
      omega
    rw [nextCell, if_neg hcol, if_neg hline]
    rfl

theorem cellMet_eq_farthestCell (hk : k < b.lines.length) (hlast : ¬ k + 1 < b.lines.length)
    (h : i = (b.met d k).length - 1) : b.cellMet d k i = b.farthestCell d := by
  have hline : k = b.lastLine := by
    have := b.lastLine_add_one
    omega
  rw [h, hline, Buffer.cellMet_last]

theorem walk_of_neg {p : Position} (h : test p = false) : walk b d test p = .ok (p, false) := by
  rw [walk, if_neg (by rw [h]; decide)]
  rfl

theorem walk_of_pos {p q : Position} (h : test p = true) (hnext : nextCell b d p = .ok (some q)) :
    walk b d test p = walk b d test q := by
  rw [walk, if_pos h]
  split
  · rename_i hs
    rw [hnext] at hs
    cases hs
  · rename_i hs
    rw [hnext] at hs
    cases hs
    rfl
  · rename_i hs
    rw [hnext] at hs
    cases hs

theorem walk_of_end {p : Position} (h : test p = true) (hnext : nextCell b d p = .ok none) :
    walk b d test p = .ok (p, true) := by
  rw [walk, if_pos h]
  split
  · rename_i hs
    rw [hnext] at hs
    cases hs
  · rename_i hs
    rw [hnext] at hs
    cases hs
  · rfl

theorem runOn_of_nextCell {p q : Position} (hnext : nextCell b d p = .ok (some q)) :
    runOn b d test p = if q.line = p.line ∧ test q then runOn b d test q else .ok p := by
  rw [runOn]
  split
  · rename_i hs
    rw [hnext] at hs
    cases hs
  · rename_i hs
    rw [hnext] at hs
    cases hs
    rfl
  · rename_i hs
    rw [hnext] at hs
    cases hs

theorem runOn_of_end {p : Position} (hnext : nextCell b d p = .ok none) :
    runOn b d test p = .ok p := by
  rw [runOn]
  split
  · rename_i hs
    rw [hnext] at hs
    cases hs
  · rename_i hs
    rw [hnext] at hs
    cases hs
  · rfl

/-- A walk under a test of characters goes to the end of their run on the line, or on to the next
line. -/
theorem walk_met (onLine : Char → Bool) (hk : k < b.lines.length) (hi : i < (b.met d k).length)
    (htest : ∀ j (hj : j < (b.met d k).length), test (b.cellMet d k j) = onLine (b.met d k)[j]) :
    walk b d test (b.cellMet d k i) =
      if i + runFrom onLine (b.met d k) i < (b.met d k).length then
        .ok (b.cellMet d k (i + runFrom onLine (b.met d k) i), false)
      else if k + 1 < b.lines.length then walk b d test (b.cellMet d (k + 1) 0)
      else .ok (b.farthestCell d, true) := by
  induction hn : (b.met d k).length - i generalizing i with
  | zero => omega
  | succ n ih =>
    cases ht : onLine (b.met d k)[i] with
    | false =>
      rw [walk_of_neg ((htest i hi).trans ht), runFrom_of_neg hi ht, Nat.add_zero, if_pos hi]
    | true =>
      have hpos := (htest i hi).trans ht
      rw [runFrom_of_pos hi ht]
      by_cases hnext : i + 1 < (b.met d k).length
      · rw [walk_of_pos hpos (nextCell_met hnext), ih hnext (by omega), ← Nat.add_assoc,
          Nat.add_right_comm]
      · have hcol : i = (b.met d k).length - 1 := by omega
        rw [if_neg (by omega)]
        by_cases hline : k + 1 < b.lines.length
        · rw [walk_of_pos hpos (nextCell_met_beyond hcol hline), if_pos hline]
        · rw [walk_of_end hpos (nextCell_met_last hcol hline), if_neg hline,
            cellMet_eq_farthestCell hk hline hcol]

/-- A run is walked to its last cell. -/
theorem runOn_met (onLine : Char → Bool) (hi : i < (b.met d k).length)
    (htest : ∀ j (hj : j < (b.met d k).length), test (b.cellMet d k j) = onLine (b.met d k)[j]) :
    runOn b d test (b.cellMet d k i) =
      .ok (b.cellMet d k (i + runFrom onLine (b.met d k) (i + 1))) := by
  induction hn : (b.met d k).length - i generalizing i with
  | zero => omega
  | succ n ih =>
    by_cases hnext : i + 1 < (b.met d k).length
    · rw [runOn_of_nextCell (nextCell_met hnext), htest (i + 1) hnext]
      cases ht : onLine (b.met d k)[i + 1] with
      | true =>
        rw [if_pos ⟨rfl, rfl⟩, ih hnext (by omega), runFrom_of_pos hnext ht, ← Nat.add_assoc,
          Nat.add_right_comm]
      | false =>
        rw [if_neg (by simp), runFrom_of_neg hnext ht, Nat.add_zero]
    · have hcol : i = (b.met d k).length - 1 := by omega
      rw [runFrom_of_length_le (by omega), Nat.add_zero]
      by_cases hline : k + 1 < b.lines.length
      · have hne : (b.cellMet d (k + 1) 0).line ≠ (b.cellMet d k i).line :=
          b.line_cellMet_succ_ne d hline 0 i
        rw [runOn_of_nextCell (nextCell_met_beyond hcol hline), if_neg (fun h => hne h.1)]
      · rw [runOn_of_end (nextCell_met_last hcol hline)]

end Walk

/-! ## 3. The motion -/

section Motion

variable {b : Buffer} {classOf : Char → CharClass} {travel : WordTravel} {cells : List Char}
variable {k i : Nat}

theorem stopFrom?_of_lt {near : Nat} (hnear : i + WordTravel.runOf classOf cells .blank i = near)
    (h : near < cells.length) :
    travel.stopFrom? classOf cells i = some (if travel.stopsNear then near
      else near + WordTravel.runOf classOf cells (classOf cells[near]) (near + 1)) := by
  simp only [WordTravel.stopFrom?, hnear, List.getElem?_eq_getElem h, Option.map_some]

theorem stopFrom?_of_le (h : cells.length ≤ i + WordTravel.runOf classOf cells .blank i) :
    travel.stopFrom? classOf cells i = none := by
  rw [WordTravel.stopFrom?, List.getElem?_eq_none h]
  rfl

/-- Blanks that are skipped before are not skipped again. -/
theorem stopFrom?_add_runOf (i : Nat) :
    travel.stopFrom? classOf cells (i + WordTravel.runOf classOf cells .blank i) =
      travel.stopFrom? classOf cells i := by
  have hrun : WordTravel.runOf classOf cells .blank (i + WordTravel.runOf classOf cells .blank i) =
    0 := runFrom_add_runFrom _ cells i
  simp only [WordTravel.stopFrom?, hrun, Nat.add_zero]

theorem classOn_cellMet {d : Direction} (hi : i < (b.met d k).length) :
    classOn b classOf (b.cellMet d k i) = classOf (b.met d k)[i] := by
  rw [classOn, Buffer.charAt_cellMet b d (Nat.le_sub_one_of_lt hi), List.getElem?_eq_getElem hi]
  rfl

theorem skipBlanks_met {near : Nat} (hk : k < b.lines.length)
    (hi : i < (b.met travel.direction k).length)
    (hnear : i + WordTravel.runOf classOf (b.met travel.direction k) .blank i = near) :
    skipBlanks b classOf travel (b.cellMet travel.direction k i) =
      if near < (b.met travel.direction k).length then
        .ok (b.cellMet travel.direction k near, false)
      else if k + 1 < b.lines.length then
        skipBlanks b classOf travel (b.cellMet travel.direction (k + 1) 0)
      else .ok (b.farthestCell travel.direction, true) := by
  have htest : ∀ j (hj : j < (b.met travel.direction k).length),
      (classOn b classOf (b.cellMet travel.direction k j) = .blank && (travel = .nextEnd ||
        0 < b.lineLength (b.cellMet travel.direction k j).line) : Bool) =
        decide (classOf (b.met travel.direction k)[j] = .blank) := by
    intro j hj
    rw [classOn_cellMet hj, Buffer.lineLength_cellMet, decide_eq_true (Nat.zero_lt_of_lt hj),
      Bool.or_true, Bool.and_true]
  rw [← hnear]
  exact walk_met _ hk hi htest

theorem finish_met (hi : i < (b.met travel.direction k).length) :
    finish b classOf travel (b.cellMet travel.direction k i) =
      .ok (b.cellMet travel.direction k (if travel.stopsNear then i
        else i + WordTravel.runOf classOf (b.met travel.direction k)
          (classOf (b.met travel.direction k)[i]) (i + 1))) := by
  rw [finish, Buffer.lineLength_cellMet, decide_eq_false (by omega), Bool.or_false]
  cases travel.stopsNear with
  | true => rfl
  | false =>
    have htest : ∀ j (hj : j < (b.met travel.direction k).length),
        decide (classOn b classOf (b.cellMet travel.direction k j) =
          classOn b classOf (b.cellMet travel.direction k i)) =
          decide (classOf (b.met travel.direction k)[j] =
            classOf (b.met travel.direction k)[i]) := by
      intro j hj
      rw [classOn_cellMet hj, classOn_cellMet hi]
    exact runOn_met _ hi htest

/-- What the walk comes to past the end of the line met as number `k`. -/
def arriveBeyond (b : Buffer) (classOf : Char → CharClass) (travel : WordTravel) (k : Nat) :
    Checked (Position × Bool) :=
  if k + 1 < b.lines.length then arrive b classOf travel (b.cellMet travel.direction (k + 1) 0)
  else .ok (b.farthestCell travel.direction, true)

/-- What the walk comes to if the motion has this stop on the line met as number `k`, or none. -/
def arriveAt (b : Buffer) (classOf : Char → CharClass) (travel : WordTravel) (k : Nat) :
    Option Nat → Checked (Position × Bool)
  | some j => .ok (b.cellMet travel.direction k j, false)
  | none => arriveBeyond b classOf travel k

/-- On a line with characters the walk stops where the motion does, or goes on to the next line. -/
theorem arrive_met (hk : k < b.lines.length) (hi : i < (b.met travel.direction k).length) :
    arrive b classOf travel (b.cellMet travel.direction k i) =
      arriveAt b classOf travel k (travel.stopFrom? classOf (b.met travel.direction k) i) := by
  generalize hnear : i + WordTravel.runOf classOf (b.met travel.direction k) .blank i = near
  rw [arrive, skipBlanks_met hk hi hnear]
  by_cases h : near < (b.met travel.direction k).length
  · rw [if_pos h, ok_bind, stopFrom?_of_lt hnear h]
    simp only [Bool.false_eq_true, if_false, finish_met h]
    rfl
  · rw [if_neg h, stopFrom?_of_le (by omega), arriveAt, arriveBeyond]
    split
    · rfl
    · rfl

/-- An empty line is a stop, except on the way to the end of a word. -/
theorem skipBlanks_met_empty (hmet : b.met travel.direction k = []) :
    skipBlanks b classOf travel (b.cellMet travel.direction k 0) =
      if travel = .nextEnd then
        if k + 1 < b.lines.length then
          skipBlanks b classOf travel (b.cellMet travel.direction (k + 1) 0)
        else .ok (b.cellMet travel.direction k 0, true)
      else .ok (b.cellMet travel.direction k 0, false) := by
  have hlen : 0 = (b.met travel.direction k).length - 1 := by rw [hmet]; rfl
  have hclass : classOn b classOf (b.cellMet travel.direction k 0) = .blank := by
    rw [classOn, Buffer.charAt_cellMet b _ (Nat.zero_le _), hmet]
    rfl
  have hline : ¬ 0 < b.lineLength (b.cellMet travel.direction k 0).line := by
    rw [Buffer.lineLength_cellMet, hmet]
    exact Nat.lt_irrefl 0
  by_cases htravel : travel = .nextEnd
  · rw [if_pos htravel]
    have hpos : (classOn b classOf (b.cellMet travel.direction k 0) = .blank &&
        (travel = .nextEnd || 0 < b.lineLength (b.cellMet travel.direction k 0).line) : Bool) =
          true := by
      rw [decide_eq_true hclass, decide_eq_true htravel]
      rfl
    split
    · rename_i hk
      exact walk_of_pos hpos (nextCell_met_beyond hlen hk)
    · rename_i hk
      exact walk_of_end hpos (nextCell_met_last hlen hk)
  · have hneg : (classOn b classOf (b.cellMet travel.direction k 0) = .blank &&
        (travel = .nextEnd || 0 < b.lineLength (b.cellMet travel.direction k 0).line) : Bool) =
          false := by
      rw [decide_eq_false htravel, decide_eq_false hline]
      exact Bool.and_false _
    rw [if_neg htravel]
    exact walk_of_neg hneg

/-- From its first cell on, a line is walked to the stop of the motion on it, or beyond it. -/
theorem arrive_on (hk : k < b.lines.length) :
    arrive b classOf travel (b.cellMet travel.direction k 0) =
      arriveAt b classOf travel k (travel.stopOn? classOf (b.met travel.direction k)) := by
  rcases Nat.eq_zero_or_pos (b.met travel.direction k).length with hlen | hlen
  · have hmet := List.eq_nil_of_length_eq_zero hlen
    rw [arrive, skipBlanks_met_empty hmet, hmet]
    by_cases htravel : travel = .nextEnd
    · have hstop : travel.stopOn? classOf [] = none := by
        rw [htravel]
        rfl
      rw [if_pos htravel, hstop, arriveAt, arriveBeyond]
      by_cases hnext : k + 1 < b.lines.length
      · simp only [if_pos hnext]
        rfl
      · simp only [if_neg hnext]
        rw [ok_bind, cellMet_eq_farthestCell hk hnext (by omega)]
        rfl
    · have hstop : travel.stopOn? classOf [] = some 0 := by
        cases travel with
        | nextEnd => exact absurd rfl htravel
        | nextStart => rfl
        | prevStart => rfl
        | prevEnd => rfl
      have hfinish : finish b classOf travel (b.cellMet travel.direction k 0) =
          .ok (b.cellMet travel.direction k 0) := by
        rw [finish, Buffer.lineLength_cellMet, hlen, decide_eq_true rfl, Bool.or_true]
        rfl
      rw [if_neg htravel, hstop, ok_bind]
      simp only [Bool.false_eq_true, if_false, hfinish]
      rfl
  · have hempty : (b.met travel.direction k).isEmpty = false := by
      rw [List.isEmpty_eq_false_iff]
      exact List.ne_nil_of_length_pos hlen
    rw [arrive_met hk hlen, WordTravel.stopOn?, hempty]
    rfl

/-- Past the end of a line the walk finds the first stop beyond it, or the end of the text. -/
theorem arriveBeyond_eq (hk : k < b.lines.length) :
    arriveBeyond b classOf travel k =
      .ok (match b.stopBeyond? classOf travel (travel.direction.place b.lines.length k) with
        | some q => (q, false)
        | none => (b.farthestCell travel.direction, true)) := by
  induction hn : b.lines.length - k generalizing k with
  | zero => omega
  | succ n ih =>
    rw [arriveBeyond]
    by_cases hnext : k + 1 < b.lines.length
    · rw [if_pos hnext, arrive_on hnext, Buffer.stopBeyond?_met b classOf travel hnext]
      cases travel.stopOn? classOf (b.met travel.direction (k + 1)) with
      | some j => rfl
      | none => exact ih hnext (by omega)
    · have hlast : k = b.lastLine := by
        have := b.lastLine_add_one
        omega
      rw [if_neg hnext, hlast, Buffer.stopBeyond?_last]

/-- The place behind the run that the motion leaves; blanks are left to be skipped. -/
def placeBehindRun (classOf : Char → CharClass) (travel : WordTravel) (cells : List Char)
    (i : Nat) : Nat :=
  if travel.stopsNear = true ∧ classAt classOf cells i ≠ .blank then
    i + 1 + WordTravel.runOf classOf cells (classAt classOf cells i) (i + 1)
  else i + 1

theorem placeBehindRun_of_far (h : travel.stopsNear = false) :
    placeBehindRun classOf travel cells i = i + 1 :=
  if_neg fun hboth => Bool.false_ne_true (h.symm.trans hboth.1)

theorem placeBehindRun_of_blank (h : classAt classOf cells i = .blank) :
    placeBehindRun classOf travel cells i = i + 1 :=
  if_neg fun hboth => hboth.2 h

theorem placeBehindRun_of_run (h : travel.stopsNear = true)
    (hrun : classAt classOf cells i ≠ .blank) :
    placeBehindRun classOf travel cells i =
      i + 1 + WordTravel.runOf classOf cells (classAt classOf cells i) (i + 1) :=
  if_pos ⟨h, hrun⟩

theorem lt_placeBehindRun (classOf : Char → CharClass) (travel : WordTravel) (cells : List Char)
    (i : Nat) : i < placeBehindRun classOf travel cells i := by
  rw [placeBehindRun]
  split
  · omega
  · omega

theorem stopAfter?_eq (i : Nat) :
    travel.stopAfter? classOf cells i =
      travel.stopFrom? classOf cells (placeBehindRun classOf travel cells i) := by
  rw [WordTravel.stopAfter?]
  cases hstop : travel.stopsNear with
  | false =>
    rw [placeBehindRun_of_far hstop]
    rfl
  | true =>
    by_cases hrun : classAt classOf cells i = .blank
    · rw [placeBehindRun_of_blank hrun, if_pos rfl, hrun]
      exact stopFrom?_add_runOf (i + 1)
    · rw [placeBehindRun_of_run hstop hrun, if_pos rfl]

/-- The run under the cursor is left on its line, or with the line. -/
theorem leave_met (hk : k < b.lines.length) (hi : i + 1 < (b.met travel.direction k).length) :
    leave b classOf travel (b.cellMet travel.direction k i)
        (b.cellMet travel.direction k (i + 1)) =
      if placeBehindRun classOf travel (b.met travel.direction k) i <
          (b.met travel.direction k).length then
        .ok (b.cellMet travel.direction k
          (placeBehindRun classOf travel (b.met travel.direction k) i), false)
      else if k + 1 < b.lines.length then .ok (b.cellMet travel.direction (k + 1) 0, false)
      else .ok (b.farthestCell travel.direction, true) := by
  have hlt := Nat.lt_of_succ_lt hi
  have hclass : classOn b classOf (b.cellMet travel.direction k i) =
      classAt classOf (b.met travel.direction k) i := by
    rw [classOn, Buffer.charAt_cellMet b _ (Nat.le_sub_one_of_lt hlt), classAt]
  rw [leave, hclass]
  cases hstop : travel.stopsNear with
  | false =>
    rw [placeBehindRun_of_far hstop, if_pos hi]
    rfl
  | true =>
    rw [if_pos rfl]
    by_cases hrun : classAt classOf (b.met travel.direction k) i = .blank
    · rw [placeBehindRun_of_blank hrun, if_pos hi, hrun]
      exact walk_of_neg (by
        rw [decide_eq_false (not_not_intro rfl), Bool.and_false, Bool.false_and])
    · rw [placeBehindRun_of_run hstop hrun]
      generalize classAt classOf (b.met travel.direction k) i = run at hrun
      have htest : ∀ j (hj : j < (b.met travel.direction k).length),
          ((b.cellMet travel.direction k j).line = (b.cellMet travel.direction k i).line &&
            run ≠ .blank && classOn b classOf (b.cellMet travel.direction k j) = run : Bool) =
            decide (classOf (b.met travel.direction k)[j] = run) := by
        intro j hj
        have hline : (b.cellMet travel.direction k j).line =
          (b.cellMet travel.direction k i).line := rfl
        rw [decide_eq_true hrun, decide_eq_true hline, classOn_cellMet hj, Bool.and_true,
          Bool.true_and]
      rw [walk_met (fun c => decide (classOf c = run)) hk hi htest, WordTravel.runOf]
      split
      · rfl
      · split
        · -- no cell of the next line passes the test
          rename_i hnext
          have hne := b.line_cellMet_succ_ne travel.direction hnext 0 i
          exact walk_of_neg (by rw [decide_eq_false hne, Bool.false_and, Bool.false_and])
        · rfl

/-- On its own line the walk stops where the motion does, or goes on to the lines beyond. -/
theorem seek_met (hk : k < b.lines.length) (hi : i + 1 < (b.met travel.direction k).length) :
    seek b classOf travel (b.cellMet travel.direction k i)
        (b.cellMet travel.direction k (i + 1)) =
      arriveAt b classOf travel k (travel.stopAfter? classOf (b.met travel.direction k) i) := by
  rw [seek, leave_met hk hi, stopAfter?_eq]
  generalize placeBehindRun classOf travel (b.met travel.direction k) i = next
  split
  · rename_i hnext
    exact arrive_met hk hnext
  · rename_i hnext
    rw [stopFrom?_of_le (by omega), arriveAt, arriveBeyond]
    split
    · rfl
    · rfl

theorem stopAfter?_last (h : i = cells.length - 1) : travel.stopAfter? classOf cells i = none := by
  have hlt := lt_placeBehindRun classOf travel cells i
  rw [stopAfter?_eq]
  exact stopFrom?_of_le (by omega)

/-- Where the text goes on behind a line, the run of the cursor has been left. -/
theorem seek_met_beyond (hk : k + 1 < b.lines.length) :
    seek b classOf travel (b.cellMet travel.direction k i)
        (b.cellMet travel.direction (k + 1) 0) = arriveAt b classOf travel k none := by
  have hleave : leave b classOf travel (b.cellMet travel.direction k i)
      (b.cellMet travel.direction (k + 1) 0) =
        .ok (b.cellMet travel.direction (k + 1) 0, false) := by
    rw [leave]
    cases travel.stopsNear with
    | true =>
      have hne := b.line_cellMet_succ_ne travel.direction hk 0 i
      exact walk_of_neg (by rw [decide_eq_false hne, Bool.false_and, Bool.false_and])
    | false => rfl
  rw [seek, hleave, arriveAt, arriveBeyond, if_pos hk]
  rfl

/-- The motion from a cell that is not the last one goes where the walk from the next cell goes. -/
theorem wordStep_of_seek {p q : Position} (hnext : nextCell b travel.direction p = .ok (some q))
    {stop : Option Nat} (hk : k < b.lines.length)
    (hseek : seek b classOf travel p q = arriveAt b classOf travel k stop) :
    wordStep b classOf travel p = .ok (b.stopOrBeyond classOf travel p k stop) := by
  rw [wordStep, hnext, ok_bind]
  simp only [hseek]
  cases stop with
  | some j => rfl
  | none =>
    simp only [arriveAt, arriveBeyond_eq hk, ok_bind, Buffer.stopOrBeyond]
    cases b.stopBeyond? classOf travel (travel.direction.place b.lines.length k) with
    | some q => rfl
    | none =>
      simp only [Bool.true_and, decide_eq_true_eq]
      rfl

/-- **A motion by words never faults**, and comes to where the motion leads. -/
theorem wordStep_eq {p : Position} (h : b.InBounds p) :
    wordStep b classOf travel p = .ok (b.wordStep classOf travel p) := by
  obtain ⟨k, i, hk, hi, rfl⟩ := Buffer.exists_cellMet h travel.direction
  rw [Buffer.wordStep_cellMet b classOf travel hi]
  by_cases hnext : i + 1 < (b.met travel.direction k).length
  · exact wordStep_of_seek (nextCell_met hnext) hk (seek_met hk hnext)
  · have hlast : i = (b.met travel.direction k).length - 1 := by omega
    rw [stopAfter?_last hlast]
    by_cases hline : k + 1 < b.lines.length
    · exact wordStep_of_seek (nextCell_met_beyond hlast hline) hk (seek_met_beyond hline)
    · have hk' : k = b.lastLine := by
        have := b.lastLine_add_one
        omega
      rw [wordStep, nextCell_met_last hlast hline, cellMet_eq_farthestCell hk hline hlast, hk',
        Buffer.stopOrBeyond, Buffer.stopBeyond?_last, Option.getD_none, ite_self]
      rfl

end Motion

end MotionTutor.Checked
