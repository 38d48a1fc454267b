import MotionTutor.Stats.Progress

/-!
# The order of the most missed exercises

Exercises are ranked by sorting them, and what counts as equal keeps the order it had
(`pairwise_mergeSort_of_pairwise`). `IsRanking` says what the ranking is without a word about
sorting: the missed exercises, by decreasing number of wrong answers, and by increasing id where two
numbers are equal. Exercises given by increasing id are ranked so (`isRanking_mergeSort`), which is
how a history of practice lists them.
-/

namespace MotionTutor

/-! ## 1. Sorting keeps the order of equals -/

section Sorting

variable {α : Type} {le : α → α → Bool} {R : α → α → Prop} {l : List α}

/-- What is no less and no more than `a` stays in its order. -/
theorem filter_mergeSort (trans : ∀ a b c, le a b → le b c → le a c)
    (total : ∀ a b, le a b || le b a) (l : List α) (a : α) :
    (l.mergeSort le).filter (fun b => le a b && le b a) =
      l.filter fun b => le a b && le b a := by
  have hperm := (List.mergeSort_perm l le).filter fun b => le a b && le b a
  have hties : (l.filter fun b => le a b && le b a).Pairwise fun b c => le b c = true := by
    refine List.pairwise_of_forall_mem_list fun b hb c hc => ?_
    have hba := (Bool.and_eq_true_iff.mp (List.mem_filter.mp hb).2).2
    have hac := (Bool.and_eq_true_iff.mp (List.mem_filter.mp hc).2).1
    exact trans b a c hba hac
  -- the equals are sorted among themselves, so sorting all keeps them as they are
  have hkept := (List.sublist_mergeSort trans total hties List.filter_sublist).filter
    fun b => le a b && le b a
  rw [List.filter_filter] at hkept
  simp only [Bool.and_self] at hkept
  exact (hkept.eq_of_length hperm.length_eq.symm).symm

/-- **Sorting orders, and of two equals the one that came first stays first.** -/
theorem pairwise_mergeSort_of_pairwise (trans : ∀ a b c, le a b → le b c → le a c)
    (total : ∀ a b, le a b || le b a) (h : l.Pairwise R) :
    (l.mergeSort le).Pairwise fun a b => le a b = true ∧ (le b a = true → R a b) := by
  have hsorted := List.pairwise_mergeSort trans total l
  rw [List.pairwise_iff_forall_sublist] at hsorted h ⊢
  intro a b hab
  refine ⟨hsorted hab, fun hba => h ?_⟩
  have hpair : [a, b].filter (fun c => le a c && le c a) = [a, b] := by
    have haa : le a a = true := trans a b a (hsorted hab) hba
    simp [haa, hsorted hab, hba]
  have hties := hab.filter fun c => le a c && le c a
  rw [hpair, filter_mergeSort trans total] at hties
  exact hties.trans List.filter_sublist

/-- What counts more comes first: this is how the most missed and the heaviest are ranked. -/
theorem decide_ge_trans (count : α → Nat) (a b c : α) (hab : decide (count b ≤ count a) = true)
    (hbc : decide (count c ≤ count b) = true) : decide (count c ≤ count a) = true := by
  rw [decide_eq_true_eq] at hab hbc ⊢
  exact Nat.le_trans hbc hab

theorem decide_ge_total (count : α → Nat) (a b : α) :
    (decide (count b ≤ count a) || decide (count a ≤ count b)) = true := by
  rw [Bool.or_eq_true, decide_eq_true_eq, decide_eq_true_eq]
  exact Nat.le_total (count b) (count a)

/-- Sorting by a number and sorting the numbers comes to the same numbers. -/
theorem map_mergeSort_count (count : α → Nat) (l : List α) :
    (l.mergeSort fun a b => count b ≤ count a).map count =
      (l.map count).mergeSort fun a b => b ≤ a :=
  List.map_mergeSort fun _ _ _ _ => rfl

/-- Numbers are sorted the same way in whatever order they come. -/
theorem mergeSort_eq_of_perm {counts counts' : List Nat} (h : counts.Perm counts') :
    (counts.mergeSort fun a b => b ≤ a) = counts'.mergeSort fun a b => b ≤ a := by
  have hsorted (l : List Nat) : (l.mergeSort fun a b => b ≤ a).Pairwise fun a b => b ≤ a :=
    (List.pairwise_mergeSort (decide_ge_trans id) (decide_ge_total id) l).imp of_decide_eq_true
  have hperm := ((List.mergeSort_perm counts fun a b => b ≤ a).trans h).trans
    (List.mergeSort_perm counts' fun a b => b ≤ a).symm
  exact hperm.eq_of_pairwise (fun _ _ _ _ hab hba => Nat.le_antisymm hba hab) (hsorted counts)
    (hsorted counts')

end Sorting

/-! ## 2. The ranking -/

namespace Progress

/-- `a` comes before `b`: it was missed more often, or as often and has the smaller id. -/
def RanksBefore (a b : String × Nat) : Prop := b.2 < a.2 ∨ (a.2 = b.2 ∧ a.1 < b.1)

/-- The missed exercises among some with their numbers of wrong answers, in the order of the
ranking. -/
structure IsRanking (misses ranked : List (String × Nat)) : Prop where
  perm : ranked.Perm (misses.filter fun m => 0 < m.2)
  ordered : ranked.Pairwise RanksBefore

variable {misses : List (String × Nat)}

/-- Sorted by their misses, exercises given by increasing id are ranked. -/
theorem isRanking_mergeSort (h : misses.Pairwise fun a b => a.1 < b.1) :
    IsRanking misses ((misses.filter fun m => 0 < m.2).mergeSort fun a b => b.2 ≤ a.2) where
  perm := List.mergeSort_perm _ _
  ordered := by
    have hmissed := h.sublist (List.filter_sublist (p := fun m => decide (0 < m.2)))
    have hpairs := pairwise_mergeSort_of_pairwise (decide_ge_trans Prod.snd)
      (decide_ge_total Prod.snd) hmissed
    refine hpairs.imp fun {a b} hab => ?_
    rw [decide_eq_true_eq, decide_eq_true_eq] at hab
    rcases Nat.lt_or_eq_of_le hab.1 with hmore | hequal
    · exact Or.inl hmore
    · exact Or.inr ⟨hequal.symm, hab.2 (Nat.le_of_eq hequal.symm)⟩

/-- **There is one ranking only.** -/
theorem IsRanking.unique {ranked ranked' : List (String × Nat)} (h : IsRanking misses ranked)
    (h' : IsRanking misses ranked') : ranked = ranked' := by
  refine (h.perm.trans h'.perm.symm).eq_of_pairwise (fun a b _ _ hab hba => ?_) h.ordered h'.ordered
  rcases hab with hab | ⟨heq, hab⟩
  · rcases hba with hba | ⟨heq, -⟩
    · exact absurd (Nat.lt_trans hab hba) (Nat.lt_irrefl _)
    · exact absurd heq (Nat.ne_of_lt hab)
  · rcases hba with hba | ⟨-, hba⟩
    · exact absurd heq (Nat.ne_of_lt hba)
    · exact absurd (Std.lt_trans hab hba) Std.lt_irrefl

/-- The most missed of exercises given by increasing id are the first ones of the ranking. -/
theorem exists_isRanking_mostMissed (h : misses.Pairwise fun a b => a.1 < b.1) :
    ∃ ranked, IsRanking misses ranked ∧ mostMissed misses = (ranked.take 3).map (·.1) :=
  ⟨_, isRanking_mergeSort h, rfl⟩

/-- The numbers of the most missed are the greatest ones of the numbers given. -/
theorem map_mostMissed {count : String → Nat} (h : ∀ m ∈ misses, count m.1 = m.2) :
    (mostMissed misses).map count =
      (((misses.map (·.2)).filter (0 < ·)).mergeSort fun a b => b ≤ a).take weakestCount := by
  have hranked : ∀ m ∈ ((misses.filter fun m => 0 < m.2).mergeSort fun a b => b.2 ≤ a.2).take
      weakestCount, count m.1 = m.2 := by
    intro m hm
    exact h m (List.mem_filter.mp (List.mem_mergeSort.mp (List.mem_of_mem_take hm))).1
  rw [mostMissed, List.map_map, List.filter_map]
  have hcounts := List.map_congr_left (f := count ∘ Prod.fst) (g := Prod.snd) hranked
  rw [hcounts, List.map_take, map_mergeSort_count Prod.snd]
  rfl

/-- Whatever the order of the exercises, the most missed of them have the same numbers. -/
theorem map_mostMissed_of_perm {misses' : List (String × Nat)} (hperm : misses.Perm misses')
    {count : String → Nat} (h : ∀ m ∈ misses, count m.1 = m.2) :
    (mostMissed misses).map count = (mostMissed misses').map count := by
  have h' : ∀ m ∈ misses', count m.1 = m.2 := fun m hm => h m (hperm.mem_iff.mpr hm)
  rw [map_mostMissed h, map_mostMissed h',
    mergeSort_eq_of_perm ((hperm.map Prod.snd).filter (0 < ·))]

end Progress

end MotionTutor
