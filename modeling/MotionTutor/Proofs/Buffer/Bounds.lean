import MotionTutor.Simulation

/-!
# Cells of a buffer

A position is in bounds if it names a cell of the buffer (`Buffer.InBounds`); the nearest cell
always is one, and is the position itself if that is one (`inBounds_clamp`, `clamp_of_inBounds`).
The cursor of a simulation stays in bounds: it starts there, and every command leaves it where it
is or on the nearest cell to where a motion leads (`Simulation.inBounds_runAll`).
-/

namespace MotionTutor

/-! ## 1. Reading order -/

namespace Position

/-- Not after: an earlier line, or the same line and no later column. -/
instance : LE Position := ⟨fun p q => p.line < q.line ∨ p.line = q.line ∧ p.col ≤ q.col⟩

theorem le_def {p q : Position} :
    p ≤ q ↔ p.line < q.line ∨ p.line = q.line ∧ p.col ≤ q.col := Iff.rfl

instance (p q : Position) : Decidable (p ≤ q) := decidable_of_iff _ le_def.symm

theorem le_refl (p : Position) : p ≤ p := .inr ⟨rfl, Nat.le_refl _⟩

theorem le_trans {p q r : Position} (hpq : p ≤ q) (hqr : q ≤ r) : p ≤ r := by
  rw [le_def] at hpq hqr ⊢
  omega

theorem not_lt_of_le {p q : Position} (h : p ≤ q) : ¬ q < p := by
  rw [le_def] at h
  rw [lt_def]
  omega

theorem le_of_not_lt {p q : Position} (h : ¬ q < p) : p ≤ q := by
  rw [lt_def] at h
  rw [le_def]
  omega

theorem le_of_lt {p q : Position} (h : p < q) : p ≤ q := by
  rw [lt_def] at h
  rw [le_def]
  omega

end Position

/-! ## 2. Positions in bounds -/

namespace Buffer

/-- The position names a cell of the buffer. -/
structure InBounds (b : Buffer) (p : Position) : Prop where
  line_le : p.line ≤ b.lastLine
  col_le : p.col ≤ b.lastCol p.line

variable {b : Buffer} {p : Position}

theorem inBounds_clamp (b : Buffer) (p : Position) : b.InBounds (b.clamp p) :=
  ⟨Nat.min_le_right _ _, Nat.min_le_right _ _⟩

theorem clamp_of_inBounds (h : b.InBounds p) : b.clamp p = p := by
  rw [clamp]
  simp only [Nat.min_eq_left h.line_le, Nat.min_eq_left h.col_le]

theorem length_pos (b : Buffer) : 0 < b.lines.length := List.length_pos_iff.mpr b.lines_ne_nil

/-- A column in bounds is on the line, if the line has any character. -/
theorem InBounds.col_lt (h : b.InBounds p) (hlen : b.lineLength p.line ≠ 0) :
    p.col < b.lineLength p.line := by
  have hcol := h.col_le
  rw [lastCol] at hcol
  omega

end Buffer

/-! ## 3. The cursor -/

namespace Simulation

variable {b : Buffer}

theorem inBounds_run {s : Simulation} (h : b.InBounds s.cursor) (t : Token) :
    b.InBounds (run b s t).cursor := by
  unfold run
  cases t.command with
  | motion m =>
    dsimp only
    cases b.destination s.lastSearch m t.count s.cursor with
    | none => exact h
    | some q => exact b.inBounds_clamp q
  | _ => exact h

/-- **The cursor never leaves the buffer.** -/
theorem inBounds_runAll {s : Simulation} (h : b.InBounds s.cursor) (tokens : List Token) :
    b.InBounds (runAll b s tokens).cursor := by
  induction tokens generalizing s with
  | nil => exact h
  | cons t tokens ih => exact ih (inBounds_run h t)

theorem inBounds_start (b : Buffer) (p : Position) : b.InBounds (start b p).cursor :=
  b.inBounds_clamp p

theorem runAll_append (s : Simulation) (before after : List Token) :
    runAll b s (before ++ after) = runAll b (runAll b s before) after := List.foldl_append

end Simulation

/-- Keys lead to where the cursor is after their commands. -/
theorem Buffer.position_simulate (b : Buffer) (start : Position) (keys : Keys) :
    (b.simulate start keys).position =
      (Simulation.runAll b (.start b start) (Token.ofKeys keys)).cursor :=
  clamp_of_inBounds (Simulation.inBounds_runAll (Simulation.inBounds_start b start) _)

end MotionTutor
