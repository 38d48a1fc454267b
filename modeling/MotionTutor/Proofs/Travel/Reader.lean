import MotionTutor.Proofs.Buffer.Bounds
import MotionTutor.Proofs.Text.Run

/-!
# The cells a reader meets

A reader in a direction meets the lines of a buffer one by one, and on each of them its characters.
`Buffer.met` is the line met as number `k`, and `Buffer.cellMet` the cell of its character number
`i`; both are counted from zero. Every position in bounds is met (`exists_cellMet`), and a motion by
words is one rule on the lines met, for both directions:

* on its own line it stops where `WordTravel.stopAfter?` says (`wordStep_cellMet`);
* else it stops on the next line met, or on the lines beyond that one (`stopBeyond?_met`).

The motion stays in bounds (`inBounds_wordStep`).
-/

namespace MotionTutor

/-! ## 1. Places -/

namespace Direction

variable {α : Type} (d : Direction) {size i : Nat}

theorem length_order (xs : List α) : (d.order xs).length = xs.length := by
  cases d with
  | forward => rfl
  | backward => exact List.length_reverse

theorem place_lt (h : i < size) : d.place size i < size := by
  cases d with
  | forward => exact h
  | backward =>
    simp only [place]
    omega

theorem place_le (h : i ≤ size - 1) : d.place size i ≤ size - 1 := by
  cases d with
  | forward => exact h
  | backward => exact Nat.sub_le _ _

theorem place_place_of_le (h : i ≤ size - 1) : d.place size (d.place size i) = i := by
  cases d with
  | forward => rfl
  | backward => exact Nat.sub_sub_self h

/-- The reader meets at a place what stands at the index of the place. -/
theorem getElem?_order_eq (xs : List α) (h : i < xs.length) :
    (d.order xs)[i]? = xs[d.place xs.length i]? := by
  have heq := d.getElem?_order xs (d.place_lt h)
  rwa [d.place_place h] at heq

end Direction

/-! ## 2. Lines and cells -/

namespace Buffer

variable (b : Buffer) (d : Direction) {k i : Nat}

/-- The line that a reader meets as number `k`, as the reader meets its characters. -/
def met (k : Nat) : List Char := d.order (b.line (d.place b.lines.length k))

/-- The cell that a reader meets as number `i` on the line met as number `k`. -/
def cellMet (k i : Nat) : Position :=
  ⟨d.place b.lines.length k, d.place (b.met d k).length i⟩

theorem lastLine_add_one : b.lastLine + 1 = b.lines.length := Nat.sub_add_cancel b.length_pos

theorem length_met (k : Nat) : (b.met d k).length = b.lineLength (d.place b.lines.length k) :=
  d.length_order _

theorem lineLength_cellMet (k i : Nat) :
    b.lineLength (b.cellMet d k i).line = (b.met d k).length := (b.length_met d k).symm

theorem charAt_cellMet (h : i ≤ (b.met d k).length - 1) :
    b.charAt (b.cellMet d k i) = (b.met d k)[i]? := by
  have hlen := b.length_met d k
  rcases Nat.eq_zero_or_pos (b.met d k).length with hzero | hpos
  · have hmet := List.eq_nil_of_length_eq_zero hzero
    have hline := List.eq_nil_of_length_eq_zero (hlen.symm.trans hzero)
    rw [charAt, cellMet, hline, hmet]
    rfl
  · have hi : i < (b.line (d.place b.lines.length k)).length := by
      rw [lineLength] at hlen
      omega
    rw [charAt, cellMet, met, d.getElem?_order_eq _ hi, ← lineLength, ← hlen, met]

theorem inBounds_cellMet (hk : k < b.lines.length) (hi : i ≤ (b.met d k).length - 1) :
    b.InBounds (b.cellMet d k i) := by
  constructor
  · exact Nat.le_sub_one_of_lt (d.place_lt hk)
  · rw [lastCol, lineLength_cellMet]
    exact d.place_le hi

/-- The cells of two lines met one after the other are on different lines. -/
theorem line_cellMet_succ_ne (hk : k + 1 < b.lines.length) (i j : Nat) :
    (b.cellMet d (k + 1) i).line ≠ (b.cellMet d k j).line := by
  cases d with
  | forward => exact Nat.succ_ne_self k
  | backward =>
    simp only [cellMet, Direction.place]
    omega

/-- Every position in bounds is met. -/
theorem exists_cellMet {b : Buffer} {p : Position} (h : b.InBounds p) (d : Direction) :
    ∃ k i, k < b.lines.length ∧ i ≤ (b.met d k).length - 1 ∧ b.cellMet d k i = p := by
  have hline : p.line < b.lines.length := by
    have := b.lastLine_add_one
    have := h.line_le
    omega
  have hmet : d.place b.lines.length (d.place b.lines.length p.line) = p.line := d.place_place hline
  have hlen : (b.met d (d.place b.lines.length p.line)).length = b.lineLength p.line := by
    rw [length_met, hmet]
  refine ⟨d.place b.lines.length p.line, d.place (b.lineLength p.line) p.col, d.place_lt hline,
    ?_, ?_⟩
  · rw [hlen]
    exact d.place_le h.col_le
  · rw [cellMet, hlen, hmet, d.place_place_of_le h.col_le]

/-- The last cell met is the one where the text ends for the reader. -/
theorem cellMet_last :
    b.cellMet d b.lastLine ((b.met d b.lastLine).length - 1) = b.farthestCell d := by
  cases d with
  | forward => rfl
  | backward =>
    simp only [cellMet, farthestCell, Direction.place, lastLine, Position.origin, Nat.sub_self]

/-! ## 3. Motions by words -/

section Words

variable (classOf : Char → CharClass) (travel : WordTravel)

/-- The lines beyond the line met as number `k` are the next one met and the lines beyond it. -/
theorem stopBeyond?_met (hk : k + 1 < b.lines.length) :
    b.stopBeyond? classOf travel (travel.direction.place b.lines.length k) =
      match travel.stopOn? classOf (b.met travel.direction (k + 1)) with
      | some i => some (b.cellMet travel.direction (k + 1) i)
      | none => b.stopBeyond? classOf travel (travel.direction.place b.lines.length (k + 1)) := by
  have hnext : k + 1 < (travel.direction.order b.lines).length := by
    rwa [Direction.length_order]
  have hget : (travel.direction.order b.lines)[k + 1] =
      b.line (travel.direction.place b.lines.length (k + 1)) := by
    have hmet := travel.direction.getElem?_order_eq b.lines hk
    rw [List.getElem?_eq_getElem hnext] at hmet
    rw [line, ← hmet]
    rfl
  have hdrop : (travel.direction.order b.lines).zipIdx.drop (k + 1) =
      (b.line (travel.direction.place b.lines.length (k + 1)), k + 1) ::
        (travel.direction.order b.lines).zipIdx.drop (k + 1 + 1) := by
    rw [List.drop_eq_getElem_cons (by rwa [List.length_zipIdx]), List.getElem_zipIdx, hget,
      Nat.zero_add]
  simp only [stopBeyond?, Direction.place_place _ hk,
    Direction.place_place _ (Nat.lt_of_succ_lt hk)]
  rw [hdrop, List.findSome?_cons]
  cases hstop : travel.stopOn? classOf (b.met travel.direction (k + 1)) with
  | none =>
    rw [met] at hstop
    simp only [hstop, Option.map_none]
  | some i =>
    simp only [cellMet, length_met]
    rw [met] at hstop
    simp only [hstop, Option.map_some]
    rfl

/-- Beyond the last line met there is no stop. -/
theorem stopBeyond?_last :
    b.stopBeyond? classOf travel (travel.direction.place b.lines.length b.lastLine) = none := by
  have hlast : b.lastLine < b.lines.length := Nat.sub_lt b.length_pos Nat.one_pos
  have hdrop : (travel.direction.order b.lines).zipIdx.drop b.lines.length = [] :=
    List.drop_eq_nil_of_le (Nat.le_of_eq (by rw [List.length_zipIdx, Direction.length_order]))
  simp only [stopBeyond?, Direction.place_place _ hlast, lastLine_add_one, hdrop,
    List.findSome?_nil]

/-- Where the motion from `p` leads if it has this stop on the line met as number `k`, or none. -/
def stopOrBeyond (p : Position) (k : Nat) : Option Nat → Position
  | some j => b.cellMet travel.direction k j
  | none =>
    (b.stopBeyond? classOf travel (travel.direction.place b.lines.length k)).getD
      (if travel = .nextEnd then p else b.farthestCell travel.direction)

theorem wordStep_cellMet (hi : i ≤ (b.met travel.direction k).length - 1) :
    b.wordStep classOf travel (b.cellMet travel.direction k i) =
      b.stopOrBeyond classOf travel (b.cellMet travel.direction k i) k
        (travel.stopAfter? classOf (b.met travel.direction k) i) := by
  have hlen := b.length_met travel.direction k
  rw [lineLength] at hlen
  simp only [wordStep, cellMet, ← hlen, Direction.place_place_of_le _ hi]
  change (match travel.stopAfter? classOf (b.met travel.direction k) i with
    | some j => b.cellMet travel.direction k j
    | none => _) = _
  cases travel.stopAfter? classOf (b.met travel.direction k) i with
  | some j => rfl
  | none => rfl

/-! ## 4. Stops are in bounds -/

variable {classOf travel} {b}

theorem stopFrom?_lt {cells : List Char} {i j : Nat}
    (h : travel.stopFrom? classOf cells i = some j) : j < cells.length := by
  obtain ⟨c, hc, hj⟩ := Option.map_eq_some_iff.mp h
  obtain ⟨hlt, -⟩ := List.getElem?_eq_some_iff.mp hc
  split at hj
  · rw [← hj]
    exact hlt
  · generalize i + WordTravel.runOf classOf cells .blank i = near at hlt hj
    have hle : near + 1 + WordTravel.runOf classOf cells (classOf c) (near + 1) ≤ cells.length :=
      add_runFrom_le _ hlt
    omega

theorem stopOn?_le {cells : List Char} {j : Nat} (h : travel.stopOn? classOf cells = some j) :
    j ≤ cells.length - 1 := by
  rw [WordTravel.stopOn?] at h
  split at h
  · cases h
    exact Nat.zero_le _
  · exact Nat.le_sub_one_of_lt (stopFrom?_lt h)

theorem inBounds_farthestCell (b : Buffer) (d : Direction) : b.InBounds (b.farthestCell d) := by
  rw [← cellMet_last]
  exact b.inBounds_cellMet d (Nat.sub_lt b.length_pos Nat.one_pos) (Nat.le_refl _)

theorem inBounds_stopBeyond? {q : Position} (hk : k < b.lines.length)
    (h : b.stopBeyond? classOf travel (travel.direction.place b.lines.length k) = some q) :
    b.InBounds q := by
  induction hn : b.lines.length - k generalizing k with
  | zero => omega
  | succ n ih =>
    by_cases hnext : k + 1 < b.lines.length
    · rw [stopBeyond?_met b classOf travel hnext] at h
      split at h
      · rename_i i hi
        cases h
        exact b.inBounds_cellMet _ hnext (stopOn?_le hi)
      · exact ih hnext h (by omega)
    · have hlast : k = b.lastLine := by
        have := b.lastLine_add_one
        omega
      rw [hlast, stopBeyond?_last] at h
      cases h

/-- **A motion by words stays in the buffer.** -/
theorem inBounds_wordStep {p : Position} (h : b.InBounds p) :
    b.InBounds (b.wordStep classOf travel p) := by
  obtain ⟨k, i, hk, hi, rfl⟩ := exists_cellMet h travel.direction
  rw [wordStep_cellMet b classOf travel hi]
  cases hj : travel.stopAfter? classOf (b.met travel.direction k) i with
  | some j => exact b.inBounds_cellMet _ hk (Nat.le_sub_one_of_lt (stopFrom?_lt hj))
  | none =>
    rw [stopOrBeyond]
    cases hstop : b.stopBeyond? classOf travel (travel.direction.place b.lines.length k) with
    | some q => exact inBounds_stopBeyond? hk hstop
    | none =>
      rw [Option.getD_none]
      split
      · exact h
      · exact inBounds_farthestCell b travel.direction

end Words

end Buffer

end MotionTutor
