import MotionTutor.Practice.Weights
import MotionTutor.Proofs.Practice.Draw
import MotionTutor.Proofs.Stats.Answers

/-!
# Weights follow the answers

By the default rule, a wrong answer to an exercise makes it come up more often and a right one less,
until the row of right answers takes it out (`Weights.byMastery_adapts`). The rule alone does not
promise this: of a history with a long row and no mark of mastery the floor of one would decide, and
one that tells of many misses but of no attempt would weigh more after a right answer. The histories
that answers make are not of this kind. `Weighs` says what they can be, and what they weigh: one
that was tried and is not mastered has a row of two at most, and weighs at least six. What is left
of the exceptions is the largest weight, where an exercise with very many misses stays whatever
comes next.
-/

namespace MotionTutor

variable {h : History} {answers : List Answer}

namespace Weights

/-! ## 1. Histories of answers -/

/-- What a history of answers is, and what it weighs. -/
inductive Weighs (answers : List Answer) (h : History) : Prop
  | untried (hanswers : answers = []) (hwrong : h.wrong = 0) (hrow : h.rightInARow = 0)
    (hweight : byMastery h = 15)
  /-- The floor of one does not decide. -/
  | tried (hanswers : answers ≠ []) (hrow : h.rightInARow ≤ 2)
    (hweight : byMastery h = min maxWeight (10 + 5 * h.wrong - 2 * h.rightInARow))
  | mastered (hanswers : answers ≠ []) (hrow : 3 ≤ h.rightInARow) (hweight : byMastery h = 0)

/-- **Histories of answers weigh so.** -/
theorem weighs (hs : h.SumsUp answers) : Weighs answers h := by
  have hmastered := hs.mastered_iff
  by_cases hnil : answers = []
  · subst hnil
    have hattempts : h.attempts = 0 := hs.attempts
    have hrow : h.rightInARow = 0 := hs.rightInARow
    have hnot : ¬ h.mastered = true := by
      rw [hmastered, hrow]
      decide
    refine .untried rfl hs.wrong hrow ?_
    rw [byMastery, if_neg hnot, if_pos hattempts]
  · by_cases hlong : 3 ≤ h.rightInARow
    · exact .mastered hnil hlong ((byMastery_eq_zero_iff h).mpr (hmastered.mpr hlong))
    · have htried : h.attempts ≠ 0 := by
        rw [hs.attempts]
        exact mt List.length_eq_zero_iff.mp hnil
      have hfloor : max 1 (10 + 5 * h.wrong - 2 * h.rightInARow) =
          10 + 5 * h.wrong - 2 * h.rightInARow := by omega
      refine .tried hnil (Nat.le_of_not_lt hlong) ?_
      rw [byMastery, if_neg (mt hmastered.mp hlong), if_neg htried, hfloor]

/-! ## 2. One more answer -/

theorem byMastery_record_wrong (h : History) (time : Int) :
    byMastery (h.record false time) = min maxWeight (15 + 5 * h.wrong) := by
  show min maxWeight (max 1 (10 + 5 * (h.wrong + 1) - 2 * 0)) = _
  congr 1
  omega

/-- A right answer takes two from what the exercise weighs, or takes it out. -/
theorem byMastery_record_right (hmark : h.mastered = true ↔ 3 ≤ h.rightInARow) (time : Int) :
    byMastery (h.record true time) =
      if 2 ≤ h.rightInARow then 0
      else min maxWeight (10 + 5 * h.wrong - 2 * (h.rightInARow + 1)) := by
  have hafter : (h.record true time).mastered = true ↔ 3 ≤ h.rightInARow + 1 :=
    History.mastered_record_iff hmark true time
  have hattempts : (h.record true time).attempts ≠ 0 := Nat.succ_ne_zero h.attempts
  split
  · rename_i hlong
    exact (byMastery_eq_zero_iff _).mpr (hafter.mpr (Nat.succ_le_succ hlong))
  · rename_i hshort
    have hnot : ¬ (h.record true time).mastered = true := by
      rw [hafter]
      omega
    rw [byMastery, if_neg hnot, if_neg hattempts]
    show min maxWeight (max 1 (10 + 5 * h.wrong - 2 * (h.rightInARow + 1))) = _
    congr 1
    omega

/-- The misses of an exercise come to more than the largest weight. -/
def Clipped (h : History) : Prop := maxWeight < 10 + 5 * h.wrong - 2 * h.rightInARow

namespace Weighs

/-- A wrong answer makes no exercise lighter. -/
theorem le_record_wrong (hw : Weighs answers h) (time : Int) :
    byMastery h ≤ byMastery (h.record false time) := by
  have hmax : 15 ≤ maxWeight := by decide
  rw [byMastery_record_wrong]
  cases hw with
  | untried _ _ _ hweight => omega
  | tried _ _ hweight => omega
  | mastered _ _ hweight => omega

theorem lt_record_wrong (hw : Weighs answers h) (htried : answers ≠ []) (time : Int)
    (hless : byMastery (h.record false time) < maxWeight) :
    byMastery h < byMastery (h.record false time) := by
  rw [byMastery_record_wrong] at hless ⊢
  cases hw with
  | untried hanswers => exact absurd hanswers htried
  | tried _ _ hweight => omega
  | mastered _ _ hweight => omega

/-- A right answer makes no exercise heavier. -/
theorem record_right_le (hw : Weighs answers h) (hmark : h.mastered = true ↔ 3 ≤ h.rightInARow)
    (time : Int) : byMastery (h.record true time) ≤ byMastery h := by
  rw [byMastery_record_right hmark]
  cases hw with
  | untried _ hwrong hrow hweight => split <;> omega
  | tried _ _ hweight => split <;> omega
  | mastered _ hrow hweight =>
    rw [if_pos (Nat.le_of_succ_le hrow)]
    exact Nat.zero_le _

theorem record_right_lt (hw : Weighs answers h) (hmark : h.mastered = true ↔ 3 ≤ h.rightInARow)
    (time : Int) (hne : byMastery h ≠ 0) (hclipped : ¬ Clipped h) :
    byMastery (h.record true time) < byMastery h := by
  have hsum : 10 + 5 * h.wrong - 2 * h.rightInARow ≤ maxWeight := Nat.le_of_not_lt hclipped
  rw [byMastery_record_right hmark]
  cases hw with
  | untried _ hwrong hrow hweight => split <;> omega
  | tried _ _ hweight => split <;> omega
  | mastered _ _ hweight => exact absurd hweight hne

/-- What was tried and is not mastered weighs six or more. -/
theorem six_le (hw : Weighs answers h) (htried : answers ≠ []) (hnot : ¬ 3 ≤ h.rightInARow) :
    6 ≤ 10 + 5 * h.wrong - 2 * h.rightInARow ∧
      byMastery h = min maxWeight (10 + 5 * h.wrong - 2 * h.rightInARow) ∧ 6 ≤ byMastery h := by
  have hmax : 6 ≤ maxWeight := by decide
  cases hw with
  | untried hanswers => exact absurd hanswers htried
  | tried _ hrow hweight =>
    have hsum : 6 ≤ 10 + 5 * h.wrong - 2 * h.rightInARow := by omega
    refine ⟨hsum, hweight, ?_⟩
    rw [hweight]
    exact Nat.le_min.mpr ⟨hmax, hsum⟩
  | mastered _ hrow => exact absurd hrow hnot

end Weighs

/-! ## 3. Any number of answers -/

/-- The default rule follows the answers to an exercise. -/
structure Adapts (answers : List Answer) (h : History) : Prop where
  /-- An exercise weighs nothing if its last three answers were right, and something otherwise. -/
  zero_iff : byMastery h = 0 ↔ LastRight 3 answers
  one_le : ¬ LastRight 3 answers → 1 ≤ byMastery h
  /-- It is never the floor that decides it: what was tried weighs what its answers come to, which
  is six or more. -/
  tried : answers ≠ [] → ¬ LastRight 3 answers →
    6 ≤ 10 + 5 * h.wrong - 2 * h.rightInARow ∧
      byMastery h = min maxWeight (10 + 5 * h.wrong - 2 * h.rightInARow) ∧ 6 ≤ byMastery h
  /-- After a wrong answer it weighs as much as an untried one or more, and no less than before; -/
  wrong_ge : ∀ time, 15 ≤ byMastery (h.record false time)
  wrong_le : ∀ time, byMastery h ≤ byMastery (h.record false time)
  /-- if it was tried before it weighs more, unless the largest weight is reached. -/
  wrong_lt : ∀ time, answers ≠ [] → byMastery (h.record false time) < maxWeight →
    byMastery h < byMastery (h.record false time)
  /-- After a right answer it weighs no more than before, -/
  right_le : ∀ time, byMastery (h.record true time) ≤ byMastery h
  /-- and less, unless it weighed nothing or its misses come to more than the largest weight. -/
  right_lt : ∀ time, byMastery h ≠ 0 → ¬ Clipped h →
    byMastery (h.record true time) < byMastery h

theorem adapts (hs : h.SumsUp answers) : Adapts answers h where
  zero_iff := by rw [byMastery_eq_zero_iff, hs.mastered]
  one_le hnot := by
    rw [← hs.mastered, ← byMastery_eq_zero_iff] at hnot
    exact Nat.one_le_iff_ne_zero.mpr hnot
  tried htried hnot := (weighs hs).six_le htried (mt (hs.lastRight_iff_le 3).mpr hnot)
  wrong_ge time := by
    have hmax : 15 ≤ maxWeight := by decide
    rw [byMastery_record_wrong]
    exact Nat.le_min.mpr ⟨hmax, Nat.le_add_right _ _⟩
  wrong_le := (weighs hs).le_record_wrong
  wrong_lt time htried := (weighs hs).lt_record_wrong htried time
  right_le := (weighs hs).record_right_le hs.mastered_iff
  right_lt := (weighs hs).record_right_lt hs.mastered_iff

/-- **Weights follow the answers.** -/
theorem byMastery_adapts (answers : List Answer) :
    Adapts answers (History.fresh.recordAll answers) := adapts (History.sumsUp_recordAll answers)

/-- The floor decides of a history that no answers make. -/
example : byMastery ⟨8, 8, 0, 8, false, 0⟩ = 1 := rfl

end Weights

end MotionTutor
