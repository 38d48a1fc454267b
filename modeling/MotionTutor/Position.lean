/-!
# Positions

A position names a cell of a text by line and column, both counted from zero; columns count
characters. Positions are compared in reading order: by line, then by column.
-/

namespace MotionTutor

/-- A cell of a text. -/
structure Position where
  line : Nat
  col : Nat
deriving DecidableEq, Repr, Inhabited

namespace Position

/-- Reading order: an earlier line, or the same line and an earlier column. -/
instance : LT Position := ⟨fun p q => p.line < q.line ∨ p.line = q.line ∧ p.col < q.col⟩

theorem lt_def {p q : Position} :
    p < q ↔ p.line < q.line ∨ p.line = q.line ∧ p.col < q.col := Iff.rfl

instance (p q : Position) : Decidable (p < q) := decidable_of_iff _ lt_def.symm

/-- The first cell of every text. -/
def origin : Position := ⟨0, 0⟩

/-- The position as `line:col`. -/
def text (p : Position) : String := toString p.line ++ ":" ++ toString p.col

end Position

end MotionTutor
