import MotionTutor.Proofs.Practice.Ranking
import MotionTutor.Proofs.SortedMap

/-!
# The books of practice

The progress in a module keeps practice twice: answer by answer in the histories of the exercises,
and summed up in counters, an accuracy and a list of the weakest exercises. This file says when the
two agree and that they do:

* `History.Balanced` and `Progress.Balanced` are what a reader may count on;
* an answer changes one history by one record, and the counters by one answer
  (`counts_recordPractice`), whatever the books were before;
* **answers and resets, in any order, leave balanced books** (`balanced_practiseAll`).

What is not practice does not touch the books (`SamePractice`).
-/

namespace MotionTutor

/-! ## 1. Histories -/

namespace History

/-- The counts of a history of at least one answer add up. -/
structure Balanced (h : History) : Prop where
  attempts : h.attempts = h.right + h.wrong
  attempted : 1 ≤ h.attempts
  rightInARow_le : h.rightInARow ≤ h.right

variable {h : History}

theorem attempts_record (h : History) (correct : Bool) (time : Int) :
    (h.record correct time).attempts = h.attempts + 1 := by
  cases correct <;> rfl

theorem right_record (h : History) (correct : Bool) (time : Int) :
    (h.record correct time).right = h.right + correct.toNat := by
  cases correct <;> rfl

theorem wrong_record (h : History) (correct : Bool) (time : Int) :
    (h.record correct time).wrong = h.wrong + (!correct).toNat := by
  cases correct <;> rfl

theorem rightInARow_record (h : History) (correct : Bool) (time : Int) :
    (h.record correct time).rightInARow = if correct then h.rightInARow + 1 else 0 := by
  cases correct <;> rfl

theorem lastAttempted_record (h : History) (correct : Bool) (time : Int) :
    (h.record correct time).lastAttempted = time := by
  cases correct <;> rfl

/-- Where the mark of mastery agrees with the row of right answers, a record keeps it so: a mark
that was set stays set as long as the row goes on. -/
theorem mastered_record_iff (hmark : h.mastered = true ↔ 3 ≤ h.rightInARow) (correct : Bool)
    (time : Int) :
    (h.record correct time).mastered = true ↔ 3 ≤ (h.record correct time).rightInARow := by
  cases correct with
  | true =>
    show (h.mastered || decide (3 ≤ h.rightInARow + 1)) = true ↔ 3 ≤ h.rightInARow + 1
    rw [Bool.or_eq_true, decide_eq_true_eq, hmark]
    omega
  | false => exact iff_of_false Bool.false_ne_true (Nat.not_succ_le_zero 2)

/-- One answer more, and a history is balanced if its counts added up before. -/
theorem balanced_record (hattempts : h.attempts = h.right + h.wrong)
    (hrow : h.rightInARow ≤ h.right) (correct : Bool) (time : Int) :
    (h.record correct time).Balanced := by
  cases correct with
  | true =>
    refine ⟨?_, Nat.succ_le_succ (Nat.zero_le _), Nat.succ_le_succ hrow⟩
    show h.attempts + 1 = h.right + 1 + h.wrong
    omega
  | false =>
    refine ⟨?_, Nat.succ_le_succ (Nat.zero_le _), Nat.zero_le _⟩
    show h.attempts + 1 = h.right + (h.wrong + 1)
    omega

end History

/-! ## 2. Books -/

namespace Progress

/-- The history of an exercise; fresh if it has none. -/
def history (p : Progress) (id : String) : History := (p.history? id).getD .fresh

/-- The exercises that were practised, with their numbers of wrong answers. -/
def misses (p : Progress) : List (String × Nat) :=
  p.histories.entries.map fun e => (e.1, e.2.wrong)

/-- The counters of practice are the sums over the histories, each history adds up, the accuracy is
the share of right answers, and the weakest exercises are the first three of the ranking. -/
structure Balanced (p : Progress) : Prop where
  attempts : p.attempts = p.histories.sum History.attempts
  right : p.right = p.histories.sum History.right
  histories : ∀ h ∈ p.histories.values, h.Balanced
  accuracy : p.accuracy = if 0 < p.attempts then p.right.toFloat / p.attempts.toFloat else 0.0
  weakest : ∃ ranked, IsRanking p.misses ranked ∧ p.weakest = (ranked.take 3).map (·.1)

/-- The books of practice are the same in both. -/
structure SamePractice (p q : Progress) : Prop where
  attempts : q.attempts = p.attempts
  right : q.right = p.right
  histories : q.histories = p.histories
  accuracy : q.accuracy = p.accuracy
  weakest : q.weakest = p.weakest

/-- In `q`, one answer more than in `p` is booked, to one exercise: one more attempt, one more right
answer if it was right, one record in the history of the exercise, and no other history changes. -/
structure CountsAnswer (p : Progress) (id : String) (correct : Bool) (q : Progress) : Prop where
  attempts : q.attempts = p.attempts + 1
  right : q.right = p.right + correct.toNat
  history : ∃ time, q.history? id = some ((p.history id).record correct time)
  others : ∀ id', id' ≠ id → q.history? id' = p.history? id'

variable {p q : Progress}

/-- The exercises come by increasing id. -/
theorem sorted_misses (p : Progress) : p.misses.Pairwise fun a b => a.1 < b.1 := by
  unfold misses
  rw [List.pairwise_map]
  exact p.histories.sorted

theorem isMastered_eq (p : Progress) (id : String) : p.isMastered id = (p.history id).mastered := by
  unfold isMastered history
  cases p.history? id <;> rfl

theorem samePractice_refl (p : Progress) : p.SamePractice p := ⟨rfl, rfl, rfl, rfl, rfl⟩

theorem Balanced.of_samePractice (h : p.Balanced) (hq : p.SamePractice q) : q.Balanced where
  attempts := by
    rw [hq.attempts, hq.histories]
    exact h.attempts
  right := by
    rw [hq.right, hq.histories]
    exact h.right
  histories := by
    rw [hq.histories]
    exact h.histories
  accuracy := by
    rw [hq.accuracy, hq.right, hq.attempts]
    exact h.accuracy
  weakest := by
    unfold misses
    rw [hq.histories, hq.weakest]
    exact h.weakest

/-! ## 3. Answers and resets -/

theorem history?_recordPractice (p : Progress) (id : String) (correct : Bool) (time : Instant)
    (id' : String) :
    (p.recordPractice id correct time).history? id' =
      if id' = id then some ((p.history id).record correct time.seconds) else p.history? id' :=
  SortedMap.find?_modify p.histories id _ id'

/-- Practice counts one answer, whatever the books were before. -/
theorem counts_recordPractice (p : Progress) (id : String) (correct : Bool) (time : Instant) :
    p.CountsAnswer id correct (p.recordPractice id correct time) where
  attempts := rfl
  right := by cases correct <;> rfl
  history := by
    refine ⟨time.seconds, ?_⟩
    rw [history?_recordPractice, if_pos rfl]
  others id' hne := by
    rw [history?_recordPractice, if_neg hne]

/-- A count over all histories grows by what a record adds to it. -/
theorem sum_record (m : SortedMap History) (id : String) (correct : Bool) (time : Int)
    {g : History → Nat} {n : Nat} (hfresh : g .fresh = 0)
    (hrecord : ∀ h, g (h.record correct time) = g h + n) :
    (m.modify id fun h => (h.getD .fresh).record correct time).sum g = m.sum g + n := by
  have hsum := m.sum_modify id (fun h => (h.getD .fresh).record correct time) g
  have hbefore : g ((m.find? id).getD .fresh) = (m.find? id).elim 0 g := by
    cases m.find? id with
    | none => exact hfresh
    | some h => rfl
  rw [hrecord, hbefore] at hsum
  omega

theorem balanced_fresh : fresh.Balanced where
  attempts := rfl
  right := rfl
  histories _ h := absurd h List.not_mem_nil
  accuracy := rfl
  weakest := ⟨[], ⟨.nil, .nil⟩, rfl⟩

theorem Balanced.recordPractice (h : p.Balanced) (id : String) (correct : Bool) (time : Instant) :
    (p.recordPractice id correct time).Balanced where
  attempts := by
    have hsum := sum_record p.histories id correct time.seconds rfl
      fun h => h.attempts_record correct time.seconds
    rw [← h.attempts] at hsum
    exact hsum.symm
  right := by
    have hsum := sum_record p.histories id correct time.seconds rfl
      fun h => h.right_record correct time.seconds
    rw [← h.right] at hsum
    have hright : (p.recordPractice id correct time).right = p.right + correct.toNat :=
      (p.counts_recordPractice id correct time).right
    rw [hright]
    exact hsum.symm
  histories := by
    intro h' hmem
    rcases SortedMap.mem_values_modify hmem with rfl | hold
    · -- the history that is recorded is fresh, or balanced before
      cases hfound : p.histories.find? id with
      | none => exact History.balanced_record rfl (Nat.le_refl 0) correct time.seconds
      | some h₀ =>
        have hbefore := h.histories h₀ (SortedMap.mem_values_of_find? hfound)
        exact History.balanced_record hbefore.attempts hbefore.rightInARow_le correct time.seconds
    · exact h.histories h' hold
  accuracy := by
    have hpos : 0 < (p.recordPractice id correct time).attempts := Nat.succ_pos p.attempts
    rw [if_pos hpos]
    rfl
  weakest := exists_isRanking_mostMissed (p.recordPractice id correct time).sorted_misses

theorem balanced_resetPractice (p : Progress) : p.resetPractice.Balanced where
  attempts := rfl
  right := rfl
  histories _ h := absurd h List.not_mem_nil
  accuracy := rfl
  weakest := ⟨[], ⟨.nil, .nil⟩, rfl⟩

end Progress

/-! ## 4. Runs -/

/-- What can be done with practice in a module. -/
inductive PracticeStep
  | record (id : String) (correct : Bool) (time : Instant)
  | reset

namespace Progress

def practise (p : Progress) : PracticeStep → Progress
  | .record id correct time => p.recordPractice id correct time
  | .reset => p.resetPractice

/-- The progress after some steps of practice. -/
def practiseAll (p : Progress) (steps : List PracticeStep) : Progress := steps.foldl practise p

variable {p : Progress}

theorem Balanced.practise (h : p.Balanced) (step : PracticeStep) : (p.practise step).Balanced := by
  cases step with
  | record id correct time => exact h.recordPractice id correct time
  | reset => exact p.balanced_resetPractice

/-- **Answers and resets keep the books balanced.** -/
theorem balanced_practiseAll (h : p.Balanced) (steps : List PracticeStep) :
    (p.practiseAll steps).Balanced := by
  induction steps generalizing p with
  | nil => exact h
  | cons step steps ih => exact ih (h.practise step)

end Progress

end MotionTutor
