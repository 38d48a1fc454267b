import MotionTutor.Practice.Summary
import MotionTutor.Proofs.Practice.Draw
import MotionTutor.Proofs.Practice.Ranking

/-!
# What is left to practise

Four functions say what is left of a chapter, each in its own way: a draw and the list by weight go
by the weights, the summary counts, and `isComplete` asks every lesson. By the default weights they
all mean the same lessons, those that are not mastered (`Practice.left`), whatever the histories
say (`Practice.agrees_on_left`).

`IsHeaviestFirst` says what the list by weight is without a word about sorting, and the list is so by
any weights (`isHeaviestFirst_mergeSort`).
-/

namespace MotionTutor

namespace Practice

/-! ## 1. Heaviest first -/

/-- `ranked` has the elements of `l`, each as often, the heavier ones first, and those that weigh the
same in the order of `l`. -/
structure IsHeaviestFirst {α : Type} (weight : α → Nat) (l ranked : List α) : Prop where
  perm : ranked.Perm l
  ordered : ranked.Pairwise fun a b => weight b ≤ weight a
  ties : ∀ a, (ranked.filter fun b => weight b = weight a) = l.filter fun b => weight b = weight a

section Sorting

variable {α : Type} (weight : α → Nat)

/-- Neither before the other is to weigh the same. -/
theorem le_and_le_eq (a b : α) :
    (decide (weight b ≤ weight a) && decide (weight a ≤ weight b)) =
      decide (weight b = weight a) := by
  rw [← Bool.decide_and, decide_eq_decide]
  exact Nat.le_antisymm_iff.symm

theorem isHeaviestFirst_mergeSort (l : List α) :
    IsHeaviestFirst weight l (l.mergeSort fun a b => weight b ≤ weight a) := by
  have htrans := decide_ge_trans weight
  have htotal := decide_ge_total weight
  refine ⟨List.mergeSort_perm _ _, ?_, fun a => ?_⟩
  · exact (List.pairwise_mergeSort htrans htotal l).imp fun h => of_decide_eq_true h
  · have hties := filter_mergeSort htrans htotal l a
    simp only [le_and_le_eq] at hties
    exact hties

end Sorting

/-! ## 2. By any weights -/

variable {weights : Weights} {p : Progress} {lessons : List Exercise} {words : Words}

theorem select_eq_none_iff :
    (select weights p lessons words).1 = none ↔ ∀ e ∈ lessons, weights.of p e.id = 0 := by
  constructor
  · intro hnone e he
    refine Classical.byContradiction fun hweight => ?_
    obtain ⟨drawn, -, -, hdrawn⟩ := select_of_exists ⟨e, he, hweight⟩ words
    rw [hnone] at hdrawn
    cases hdrawn
  · intro hall
    rw [select_of_forall hall]

/-- The pool has the lessons of positive weight in their order. -/
theorem pool_eq_map : pool weights p lessons =
    (lessons.filter fun e => 0 < weights.of p e.id).map fun e => (e, weights.of p e.id) := by
  unfold pool
  rw [List.filter_map]
  rfl

theorem byWeight_eq_map : byWeight weights p lessons =
    ((lessons.filter fun e => 0 < weights.of p e.id).mergeSort
      fun a b => weights.of p b.id ≤ weights.of p a.id).map (·.servedAs .practice) := by
  -- a lesson stands in the pool with its weight, by which the pool is sorted
  have hsort := List.map_mergeSort (l := lessons.filter fun e => 0 < weights.of p e.id)
    (f := fun e => (e, weights.of p e.id)) (s := fun a b => decide (b.2 ≤ a.2))
    fun _ _ _ _ => rfl
  rw [byWeight, pool_eq_map, ← hsort, List.map_map]
  rfl

theorem byWeight_eq_nil_iff :
    byWeight weights p lessons = [] ↔ ∀ e ∈ lessons, weights.of p e.id = 0 := by
  rw [byWeight_eq_map, List.map_eq_nil_iff, ← List.length_eq_zero_iff, List.length_mergeSort,
    List.length_eq_zero_iff, List.filter_eq_nil_iff]
  refine forall₂_congr fun e _ => ?_
  rw [decide_eq_true_eq, Nat.not_lt, Nat.le_zero]

/-! ## 3. By the default weights -/

/-- The lessons that are not mastered. -/
def left (p : Progress) (lessons : List Exercise) : List Exercise :=
  lessons.filter fun e => !p.isMastered e.id

theorem filter_byMastery_eq_left :
    (lessons.filter fun e => 0 < Weights.byMastery.of p e.id) = left p lessons := by
  refine List.filter_congr fun e _ => ?_
  rw [Bool.eq_iff_iff, decide_eq_true_eq, Nat.pos_iff_ne_zero, Ne,
    Weights.of_byMastery_eq_zero_iff, Bool.not_eq_true', Bool.not_eq_true]

/-- No lesson has a weight if all are mastered. -/
theorem forall_byMastery_eq_zero_iff :
    (∀ e ∈ lessons, Weights.byMastery.of p e.id = 0) ↔ ∀ e ∈ lessons, p.isMastered e.id = true :=
  forall₂_congr fun _ _ => Weights.of_byMastery_eq_zero_iff

/-- The count of the summary comes out if all are mastered. -/
theorem countP_isMastered_iff :
    lessons.countP (fun e => p.isMastered e.id) = lessons.length ↔
      ∀ e ∈ lessons, p.isMastered e.id = true :=
  List.countP_eq_length

theorem isComplete_iff :
    isComplete p lessons = true ↔ lessons ≠ [] ∧ ∀ e ∈ lessons, p.isMastered e.id = true := by
  rw [isComplete, Bool.and_eq_true, List.all_eq_true, Bool.not_eq_true', List.isEmpty_eq_false_iff]

theorem remaining_eq_zero_iff :
    (summary p lessons).remaining = 0 ↔ ∀ e ∈ lessons, p.isMastered e.id = true := by
  have hle : lessons.countP (fun e => p.isMastered e.id) ≤ lessons.length := List.countP_le_length
  rw [← countP_isMastered_iff]
  show lessons.length - lessons.countP (fun e => p.isMastered e.id) = 0 ↔ _
  omega

theorem complete_summary : (summary p lessons).complete = isComplete p lessons := by
  rw [Bool.eq_iff_iff, isComplete_iff, ← countP_isMastered_iff]
  show (!lessons.isEmpty && decide (_ = _)) = true ↔ _
  rw [Bool.and_eq_true, decide_eq_true_eq, Bool.not_eq_true', List.isEmpty_eq_false_iff]

/-- A draw from some words, the list by weight, the summary and the question of completeness agree
on what is left. -/
structure AgreesOnLeft (p : Progress) (lessons : List Exercise) (words : Words) : Prop where
  /-- Nothing is drawn when nothing is listed, -/
  listed_iff : (select .byMastery p lessons words).1 = none ↔ byWeight .byMastery p lessons = []
  /-- and this is when nothing remains. -/
  remaining_iff : byWeight .byMastery p lessons = [] ↔ (summary p lessons).remaining = 0
  complete : (summary p lessons).complete = isComplete p lessons
  /-- A chapter is complete when it has lessons and nothing is drawn. -/
  complete_iff : isComplete p lessons = true ↔
    lessons ≠ [] ∧ (select .byMastery p lessons words).1 = none
  total : (summary p lessons).mastered + (summary p lessons).remaining = (summary p lessons).total
  /-- What is listed is what is left, as practice, heaviest first. -/
  listed : ∃ ranked,
    byWeight .byMastery p lessons = ranked.map (fun e => { e with kind := .practice }) ∧
      IsHeaviestFirst (fun e => Weights.byMastery.of p e.id) (left p lessons) ranked

/-- **All views of what is left agree**, whatever progress was made. -/
theorem agrees_on_left (p : Progress) (lessons : List Exercise) (words : Words) :
    AgreesOnLeft p lessons words where
  listed_iff := by rw [select_eq_none_iff, byWeight_eq_nil_iff]
  remaining_iff := by
    rw [byWeight_eq_nil_iff, remaining_eq_zero_iff, forall_byMastery_eq_zero_iff]
  complete := complete_summary
  complete_iff := by rw [isComplete_iff, select_eq_none_iff, forall_byMastery_eq_zero_iff]
  total := Nat.add_sub_cancel' List.countP_le_length
  listed := by
    refine ⟨_, byWeight_eq_map, ?_⟩
    rw [filter_byMastery_eq_left]
    exact isHeaviestFirst_mergeSort _ (left p lessons)

end Practice

end MotionTutor
