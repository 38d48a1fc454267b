import MotionTutor.Practice.Draw
import MotionTutor.Proofs.Stats.Practice

/-!
# What can be drawn

A draw serves a lesson of positive weight if there is one (`selectBy_of_exists`) and nothing
otherwise (`selectBy_of_forall`). Of the way in which numbers are drawn this asks only that they lie
below the total (`Words.StaysBelow`). By the default weights the lessons are those that are not
mastered (`Weights.of_byMastery_eq_zero_iff`).
-/

namespace MotionTutor

/-! ## 1. Weights -/

namespace Weights

/-- By the default rule, mastered exercises are left out, and no others. -/
theorem byMastery_eq_zero_iff (h : History) : byMastery h = 0 ↔ h.mastered = true := by
  unfold byMastery
  split
  · rename_i hmastered
    exact iff_of_true rfl hmastered
  · rename_i hmastered
    refine iff_of_false ?_ hmastered
    split
    · decide
    · have hpos : 1 ≤ max 1 (10 + 5 * h.wrong - 2 * h.rightInARow) := Nat.le_max_left _ _
      have hmax : 1 ≤ maxWeight := by decide
      have hweight := Nat.le_min.mpr ⟨hmax, hpos⟩
      omega

theorem of_byMastery_eq_zero_iff {p : Progress} {id : String} :
    byMastery.of p id = 0 ↔ p.isMastered id = true := by
  rw [p.isMastered_eq]
  exact byMastery_eq_zero_iff (p.history id)

end Weights

namespace Practice

variable {weights : Weights} {p : Progress} {lessons : List Exercise} {words : Words}

/-! ## 2. The pool -/

theorem mem_pool {e : Exercise × Nat} :
    e ∈ pool weights p lessons ↔ e.1 ∈ lessons ∧ weights.of p e.1.id = e.2 ∧ 0 < e.2 := by
  unfold pool
  rw [List.mem_filter, List.mem_map, decide_eq_true_eq]
  constructor
  · rintro ⟨⟨lesson, hlesson, rfl⟩, hpos⟩
    exact ⟨hlesson, rfl, hpos⟩
  · rintro ⟨hlesson, hweight, hpos⟩
    exact ⟨⟨e.1, hlesson, by rw [hweight]⟩, hpos⟩

theorem totalWeight_eq_zero_iff {l : List (Exercise × Nat)} :
    totalWeight l = 0 ↔ ∀ e ∈ l, e.2 = 0 := by
  induction l with
  | nil => exact iff_of_true rfl fun e he => absurd he List.not_mem_nil
  | cons head rest ih => rw [totalWeight, Nat.add_eq_zero_iff, ih, List.forall_mem_cons]

/-- The pool has no weight if no lesson has any. -/
theorem totalWeight_pool_eq_zero_iff :
    totalWeight (pool weights p lessons) = 0 ↔ ∀ e ∈ lessons, weights.of p e.id = 0 := by
  rw [totalWeight_eq_zero_iff]
  constructor
  · intro h e he
    refine Classical.byContradiction fun hne => hne ?_
    exact h (e, weights.of p e.id) (mem_pool.mpr ⟨he, rfl, Nat.pos_of_ne_zero hne⟩)
  · intro h e he
    obtain ⟨hlesson, hweight, -⟩ := mem_pool.mp he
    rw [← hweight]
    exact h e.1 hlesson

/-- A number below the total weight falls into some weight. -/
theorem exists_pickBeyond {l : List (Exercise × Nat)} {n sum : Nat}
    (h : n < sum + totalWeight l) (hsum : sum ≤ n) : ∃ e ∈ l, pickBeyond n sum l = some e.1 := by
  induction l generalizing sum with
  | nil => exact absurd h (Nat.not_lt.2 hsum)
  | cons head rest ih =>
    obtain ⟨e, weight⟩ := head
    rw [totalWeight, ← Nat.add_assoc] at h
    rw [pickBeyond]
    split
    · exact ⟨(e, weight), List.mem_cons_self, rfl⟩
    · rename_i hge
      obtain ⟨found, hfound, hpick⟩ := ih h (Nat.not_lt.1 hge)
      exact ⟨found, List.mem_cons_of_mem _ hfound, hpick⟩

theorem pick_of_pickBeyond {α : Type} {l : List (α × Nat)} {n : Nat} {a : α}
    (h : pickBeyond n 0 l = some a) : pick l n = some a := by
  rw [pick, h]
  rfl

theorem exists_pick {l : List (Exercise × Nat)} {n : Nat} (h : n < totalWeight l) :
    ∃ e ∈ l, pick l n = some e.1 := by
  have hlt : n < 0 + totalWeight l := by rwa [Nat.zero_add]
  obtain ⟨e, he, hpick⟩ := exists_pickBeyond hlt n.zero_le
  exact ⟨e, he, pick_of_pickBeyond hpick⟩

/-! ## 3. Draws -/

variable {draw : Words → Nat → Nat × Words}

/-- Without a lesson of positive weight nothing is drawn. -/
theorem selectBy_of_forall (h : ∀ e ∈ lessons, weights.of p e.id = 0) :
    selectBy draw weights p lessons words = (none, words) := by
  unfold selectBy
  dsimp only
  rw [if_pos (totalWeight_pool_eq_zero_iff.mpr h)]

/-- **If some lesson has a positive weight, one of these is drawn**, in whatever way numbers are
drawn below the total. -/
theorem selectBy_of_exists (hdraw : Words.StaysBelow draw)
    (h : ∃ e ∈ lessons, weights.of p e.id ≠ 0) (words : Words) :
    ∃ e ∈ lessons, weights.of p e.id ≠ 0 ∧
      (selectBy draw weights p lessons words).1 = some (e.servedAs .practice) := by
  have htotal : totalWeight (pool weights p lessons) ≠ 0 := by
    rw [Ne, totalWeight_pool_eq_zero_iff]
    obtain ⟨e, he, hweight⟩ := h
    exact fun hzero => hweight (hzero e he)
  have hlt := hdraw words _ (Nat.pos_of_ne_zero htotal)
  obtain ⟨drawn, hdrawn, hpick⟩ := exists_pick hlt
  obtain ⟨hlesson, hweight, hpos⟩ := mem_pool.mp hdrawn
  refine ⟨drawn.1, hlesson, by rw [hweight]; exact Nat.pos_iff_ne_zero.mp hpos, ?_⟩
  unfold selectBy
  dsimp only
  rw [if_neg htotal, hpick]
  rfl

theorem select_of_forall (h : ∀ e ∈ lessons, weights.of p e.id = 0) :
    select weights p lessons words = (none, words) :=
  selectBy_of_forall h

theorem select_of_exists (h : ∃ e ∈ lessons, weights.of p e.id ≠ 0) (words : Words) :
    ∃ e ∈ lessons, weights.of p e.id ≠ 0 ∧
      (select weights p lessons words).1 = some (e.servedAs .practice) :=
  selectBy_of_exists Words.staysBelow_below h words

end Practice

end MotionTutor
