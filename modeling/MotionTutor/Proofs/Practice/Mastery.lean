import MotionTutor.Exercise
import MotionTutor.Proofs.Stats.Practice

/-!
# How far it is to mastery

An exercise is mastered by three right answers in a row, so one that is not mastered lacks what its
present row falls short of three (`Progress.lacking`). This is the measure of practice: **a right
answer to a lesson that is not mastered takes one from what all lessons lack together**
(`Progress.answersLeft_recordPractice`), whichever lesson it was. That needs a mark of mastery that
agrees with the row (`Progress.MarksMastery`), which a right answer keeps, and lessons of different
ids.
-/

namespace MotionTutor

/-! ## 1. Sums over lists -/

section Sums

variable {α β : Type} {l : List α} {f g : α → Nat} {a : α}

theorem foldr_add_eq_zero_iff : l.foldr (fun a n => f a + n) 0 = 0 ↔ ∀ a ∈ l, f a = 0 := by
  induction l with
  | nil => exact iff_of_true rfl fun a ha => absurd ha List.not_mem_nil
  | cons a l ih => rw [List.foldr_cons, Nat.add_eq_zero_iff, ih, List.forall_mem_cons]

theorem foldr_add_congr (h : ∀ a ∈ l, f a = g a) :
    l.foldr (fun a n => f a + n) 0 = l.foldr (fun a n => g a + n) 0 := by
  induction l with
  | nil => rfl
  | cons a l ih =>
    obtain ⟨ha, hl⟩ := List.forall_mem_cons.mp h
    rw [List.foldr_cons, List.foldr_cons, ha, ih hl]

/-- If one element counts one less and the others count the same, the sum is one less. -/
theorem foldr_add_of_succ {key : α → β} (hnodup : (l.map key).Nodup) (ha : a ∈ l)
    (hone : g a + 1 = f a) (hothers : ∀ b ∈ l, key b ≠ key a → g b = f b) :
    l.foldr (fun a n => g a + n) 0 + 1 = l.foldr (fun a n => f a + n) 0 := by
  induction l with
  | nil => cases ha
  | cons head rest ih =>
    obtain ⟨hhead, hrest⟩ := List.nodup_cons.mp hnodup
    rw [List.foldr_cons, List.foldr_cons]
    rcases List.mem_cons.mp ha with rfl | hmem
    · have hsame : rest.foldr (fun a n => g a + n) 0 = rest.foldr (fun a n => f a + n) 0 := by
        refine foldr_add_congr fun b hb => hothers b (List.mem_cons_of_mem _ hb) fun heq => ?_
        exact hhead (heq ▸ List.mem_map_of_mem hb)
      omega
    · have hne : key head ≠ key a := fun heq => hhead (heq ▸ List.mem_map_of_mem hmem)
      have hsame := hothers head List.mem_cons_self hne
      have hless := ih hrest hmem fun b hb => hothers b (List.mem_cons_of_mem _ hb)
      omega

end Sums

/-! ## 2. What is lacking -/

namespace Progress

/-- How many right answers in a row an exercise lacks until it is mastered. -/
def lacking (p : Progress) (id : String) : Nat :=
  if p.isMastered id then 0 else 3 - (p.history id).rightInARow

/-- How many right answers all lessons lack together. -/
def answersLeft (p : Progress) (lessons : List Exercise) : Nat :=
  lessons.foldr (fun e n => p.lacking e.id + n) 0

/-- The exercise is marked as mastered if the last three answers, or more, were right. -/
def MarksMastery (p : Progress) (id : String) : Prop :=
  (p.history id).mastered = true ↔ 3 ≤ (p.history id).rightInARow

instance (p : Progress) (id : String) : Decidable (p.MarksMastery id) := instDecidableIff

variable {p : Progress} {lessons : List Exercise} {id id' : String} {time : Instant}

theorem lacking_of_mastered (h : p.isMastered id = true) : p.lacking id = 0 := by
  rw [lacking, if_pos h]

theorem lacking_of_not (h : ¬ p.isMastered id = true) :
    p.lacking id = 3 - (p.history id).rightInARow := by
  rw [lacking, if_neg h]

/-- What is not mastered has a row of less than three. -/
theorem MarksMastery.lt (h : p.MarksMastery id) (hnot : ¬ p.isMastered id = true) :
    (p.history id).rightInARow < 3 := by
  rw [isMastered_eq] at hnot
  exact Nat.not_le.mp (mt h.mpr hnot)

theorem MarksMastery.lacking_eq_zero_iff (h : p.MarksMastery id) :
    p.lacking id = 0 ↔ p.isMastered id = true := by
  constructor
  · intro hzero
    refine Classical.byContradiction fun hnot => ?_
    have hlt := h.lt hnot
    rw [lacking_of_not hnot] at hzero
    omega
  · exact lacking_of_mastered

/-- Nothing is left to answer when all lessons are mastered. -/
theorem answersLeft_eq_zero_iff (h : ∀ e ∈ lessons, p.MarksMastery e.id) :
    p.answersLeft lessons = 0 ↔ ∀ e ∈ lessons, p.isMastered e.id = true := by
  rw [answersLeft, foldr_add_eq_zero_iff]
  exact forall₂_congr fun e he => (h e he).lacking_eq_zero_iff

/-- Lessons without a history lack three answers each. -/
theorem answersLeft_of_no_history (h : ∀ e ∈ lessons, p.history? e.id = none) :
    p.answersLeft lessons = 3 * lessons.length := by
  induction lessons with
  | nil => rfl
  | cons e lessons ih =>
    obtain ⟨he, hlessons⟩ := List.forall_mem_cons.mp h
    have hlacking : p.lacking e.id = 3 := by
      unfold lacking isMastered history
      rw [he]
      rfl
    have hrest := ih hlessons
    rw [answersLeft] at hrest ⊢
    rw [List.foldr_cons, List.length_cons, hlacking, hrest]
    omega

/-! ## 3. Right answers -/

theorem history_recordPractice (p : Progress) (id : String) (correct : Bool) (time : Instant)
    (id' : String) :
    (p.recordPractice id correct time).history id' =
      if id' = id then (p.history id).record correct time.seconds else p.history id' := by
  unfold history
  rw [history?_recordPractice]
  split <;> rfl

/-- A right answer makes the row longer, and the mark of mastery keeps up with it. -/
theorem MarksMastery.recordPractice (h : p.MarksMastery id') (id : String) (time : Instant) :
    (p.recordPractice id true time).MarksMastery id' := by
  unfold MarksMastery at h ⊢
  rw [history_recordPractice]
  split
  · rename_i heq
    subst heq
    exact History.mastered_record_iff h true time.seconds
  · exact h

/-- A right answer to an exercise that is not mastered takes one from what it lacks. -/
theorem MarksMastery.lacking_recordPractice (h : p.MarksMastery id)
    (hnot : ¬ p.isMastered id = true) :
    (p.recordPractice id true time).lacking id + 1 = p.lacking id := by
  have hlt := h.lt hnot
  have hafter := h.recordPractice id time
  have hrow : ((p.recordPractice id true time).history id).rightInARow =
      (p.history id).rightInARow + 1 := by
    rw [history_recordPractice, if_pos rfl]
    rfl
  rw [lacking_of_not hnot]
  by_cases hmastered : (p.recordPractice id true time).isMastered id = true
  · rw [lacking_of_mastered hmastered]
    rw [isMastered_eq] at hmastered
    have hthree := hafter.mp hmastered
    omega
  · have hfew := hafter.lt hmastered
    rw [lacking_of_not hmastered]
    omega

/-- It leaves what any other lacks. -/
theorem lacking_recordPractice_of_ne (hne : id' ≠ id) (correct : Bool) :
    (p.recordPractice id correct time).lacking id' = p.lacking id' := by
  unfold lacking
  rw [isMastered_eq, isMastered_eq, history_recordPractice, if_neg hne]

/-- **A right answer to a lesson that is not mastered takes one from what is left.** -/
theorem answersLeft_recordPractice (hnodup : (lessons.map (·.id)).Nodup) {e : Exercise}
    (he : e ∈ lessons) (h : p.MarksMastery e.id) (hnot : ¬ p.isMastered e.id = true) :
    (p.recordPractice e.id true time).answersLeft lessons + 1 = p.answersLeft lessons :=
  foldr_add_of_succ hnodup he (h.lacking_recordPractice hnot)
    fun _ _ hne => lacking_recordPractice_of_ne hne true

end Progress

end MotionTutor
