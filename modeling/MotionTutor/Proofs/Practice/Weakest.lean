import MotionTutor.Practice.Summary
import MotionTutor.Proofs.Practice.Ranking
import MotionTutor.Proofs.Stats.Answers

/-!
# The weakest exercises, twice

The most missed exercises of a module are named twice: the progress keeps their ids with every
answer, in the order of its histories, and the summary finds them among the lessons, in the order of
these. What is sorted is the same up to its order (`Practice.perm_lessonMisses`), as long as all
answers were to lessons. So **the two lists are equal for lessons by increasing id**, and otherwise
they differ only among exercises that were missed as often (`Practice.weakest_agrees`).
-/

namespace MotionTutor

namespace Progress

variable {p : Progress} {m : String × Nat}

theorem mem_misses_iff : m ∈ p.misses ↔ ∃ h, p.history? m.1 = some h ∧ h.wrong = m.2 := by
  rw [misses, List.mem_map]
  constructor
  · rintro ⟨e, he, rfl⟩
    exact ⟨e.2, SortedMap.find?_of_mem he, rfl⟩
  · rintro ⟨h, hfound, hwrong⟩
    exact ⟨(m.1, h), SortedMap.mem_of_find? hfound, Prod.ext rfl hwrong⟩

theorem Balanced.weakest_eq (h : p.Balanced) : p.weakest = mostMissed p.misses := by
  obtain ⟨ranked, hranking, hweakest⟩ := h.weakest
  obtain ⟨ranked', hranking', hmost⟩ := exists_isRanking_mostMissed p.sorted_misses
  rw [hweakest, hmost, hranking.unique hranking']

end Progress

namespace Practice

/-! ## 1. The lessons that were tried -/

/-- The lessons that have a history, with their numbers of wrong answers. -/
def lessonMisses (p : Progress) (lessons : List Exercise) : List (String × Nat) :=
  lessons.filterMap fun e => (p.history? e.id).map fun h => (e.id, h.wrong)

/-- Every exercise that was practised is one of the lessons. -/
def Covers (lessons : List Exercise) (p : Progress) : Prop :=
  ∀ id h, p.history? id = some h → ∃ e ∈ lessons, e.id = id

variable {p : Progress} {lessons : List Exercise} {answers : List Answer} {m : String × Nat}

theorem weakest_summary :
    (summary p lessons).weakest = Progress.mostMissed (lessonMisses p lessons) := rfl

theorem mem_lessonMisses_iff : m ∈ lessonMisses p lessons ↔
    (∃ e ∈ lessons, e.id = m.1) ∧ ∃ h, p.history? m.1 = some h ∧ h.wrong = m.2 := by
  unfold lessonMisses
  rw [List.mem_filterMap]
  constructor
  · rintro ⟨e, he, hm⟩
    obtain ⟨h, hfound, rfl⟩ := Option.map_eq_some_iff.mp hm
    exact ⟨⟨e, he, rfl⟩, h, hfound, rfl⟩
  · rintro ⟨⟨e, he, hid⟩, h, hfound, hwrong⟩
    refine ⟨e, he, ?_⟩
    rw [hid, hfound]
    exact congrArg some (Prod.ext rfl hwrong)

/-- Lessons that were all practised are what was practised, if nothing else was. -/
theorem Covers.mem_iff (h : Covers lessons p) : m ∈ lessonMisses p lessons ↔ m ∈ p.misses := by
  rw [mem_lessonMisses_iff, Progress.mem_misses_iff]
  exact and_iff_right_of_imp fun ⟨history, hfound, _⟩ => h m.1 history hfound

/-- Of lessons in an order of their ids, those that were tried are in this order. -/
theorem pairwise_lessonMisses {R : String → String → Prop}
    (h : lessons.Pairwise fun d e => R d.id e.id) :
    (lessonMisses p lessons).Pairwise fun a b => R a.1 b.1 := by
  refine List.Pairwise.filterMap _ (fun d e hde a ha b hb => ?_) h
  obtain ⟨_, -, rfl⟩ := Option.map_eq_some_iff.mp ha
  obtain ⟨_, -, rfl⟩ := Option.map_eq_some_iff.mp hb
  exact hde

/-- **What the summary ranks is what the progress ranks**, up to the order. -/
theorem perm_lessonMisses (hcovers : Covers lessons p) (hnodup : (lessons.map (·.id)).Nodup) :
    (lessonMisses p lessons).Perm p.misses := by
  have hids : (lessonMisses p lessons).Pairwise fun a b => a.1 ≠ b.1 :=
    pairwise_lessonMisses (List.pairwise_map.mp hnodup)
  have hlessons : (lessonMisses p lessons).Nodup :=
    hids.imp fun hne heq => hne (congrArg Prod.fst heq)
  have hmisses := SortedMap.nodup_of_sorted p.sorted_misses
  exact (List.perm_ext_iff_of_nodup hlessons hmisses).mpr fun _ => hcovers.mem_iff

/-- Answers to lessons are all that was practised. -/
theorem covers_recordAll (h : ∀ a ∈ answers, ∃ e ∈ lessons, e.id = a.id) :
    Covers lessons (Progress.fresh.recordAll answers) := by
  intro id history hfound
  rw [Progress.history?_recordAll] at hfound
  split at hfound
  · cases hfound
  · rename_i hne
    obtain ⟨a, ha⟩ := List.exists_mem_of_ne_nil _ hne
    obtain ⟨hanswer, hid⟩ := List.mem_filter.mp ha
    obtain ⟨e, he, heq⟩ := h a hanswer
    exact ⟨e, he, heq.trans (of_decide_eq_true hid)⟩

/-! ## 2. Both lists -/

/-- The summary of some lessons and the progress itself agree on the weakest exercises. -/
structure AgreesOnWeakest (lessons : List Exercise) (p : Progress) : Prop where
  /-- For lessons by increasing id they name the same ones in the same order. -/
  weakest : lessons.Pairwise (fun d e => d.id < e.id) →
    (summary p lessons).weakest = p.weakest
  /-- For lessons of different ids, in any order, they name as many, -/
  length : (lessons.map (·.id)).Nodup → (summary p lessons).weakest.length = p.weakest.length
  /-- and place by place these were missed as often. -/
  wrong : (lessons.map (·.id)).Nodup →
    (summary p lessons).weakest.map (fun id => (p.history id).wrong) =
      p.weakest.map fun id => (p.history id).wrong

theorem wrong_of_mem_misses (hm : m ∈ p.misses) : (p.history m.1).wrong = m.2 := by
  obtain ⟨h, hfound, hwrong⟩ := Progress.mem_misses_iff.mp hm
  rw [Progress.history, hfound]
  exact hwrong

/-- The numbers of wrong answers are the same in both lists. -/
theorem map_wrong_weakest (hp : p.Balanced) (hcovers : Covers lessons p)
    (hnodup : (lessons.map (·.id)).Nodup) :
    (summary p lessons).weakest.map (fun id => (p.history id).wrong) =
      p.weakest.map fun id => (p.history id).wrong := by
  rw [weakest_summary, hp.weakest_eq]
  exact Progress.map_mostMissed_of_perm (perm_lessonMisses hcovers hnodup)
    fun m hm => wrong_of_mem_misses (hcovers.mem_iff.mp hm)

/-- **The two lists of the weakest exercises agree**, after any answers to the lessons. -/
theorem weakest_agrees (h : ∀ a ∈ answers, ∃ e ∈ lessons, e.id = a.id) :
    AgreesOnWeakest lessons (Progress.fresh.recordAll answers) := by
  have hbalanced := Progress.balanced_recordAll answers
  have hcovers := covers_recordAll h
  refine ⟨fun hsorted => ?_, fun hnodup => ?_, map_wrong_weakest hbalanced hcovers⟩
  · -- by increasing id, what is ranked is the same list
    rw [weakest_summary, hbalanced.weakest_eq,
      SortedMap.eq_of_sorted (pairwise_lessonMisses hsorted)
        (Progress.sorted_misses _) fun _ => hcovers.mem_iff]
  · have hwrong := congrArg List.length (map_wrong_weakest hbalanced hcovers hnodup)
    rwa [List.length_map, List.length_map] at hwrong

/-- Of two lessons that were missed once each, the progress names the one with the smaller id first,
and the summary the one that comes first. -/
theorem weakest_agrees_of_ties :
    let lesson (id : String) : Exercise :=
      { id, code := [], cursor := ⟨0, 0⟩, mission := "", solutions := [], optimal := "" }
    let lessons := [lesson "words", lesson "lines"]
    let answers : List Answer := [⟨"lines", false, ⟨0, 0⟩⟩, ⟨"words", false, ⟨0, 0⟩⟩]
    (∀ a ∈ answers, ∃ e ∈ lessons, e.id = a.id) ∧
      AgreesOnWeakest lessons (Progress.fresh.recordAll answers) ∧
        (Progress.fresh.recordAll answers).weakest = ["lines", "words"] ∧
          (summary (Progress.fresh.recordAll answers) lessons).weakest = ["words", "lines"] := by
  intro lesson lessons answers
  have h : ∀ a ∈ answers, ∃ e ∈ lessons, e.id = a.id := by decide
  have hties (a b : String) : Progress.mostMissed [(a, 1), (b, 1)] = [a, b] := by
    simp [Progress.mostMissed, Progress.weakestCount, List.mergeSort_of_pairwise]
  have hmisses : (Progress.fresh.recordAll answers).misses = [("lines", 1), ("words", 1)] := by
    decide +kernel
  have hlessons : lessonMisses (Progress.fresh.recordAll answers) lessons =
      [("words", 1), ("lines", 1)] := by
    decide +kernel
  refine ⟨h, weakest_agrees h, ?_, ?_⟩
  · rw [(Progress.balanced_recordAll answers).weakest_eq, hmisses, hties]
  · rw [weakest_summary, hlessons, hties]

end Practice

end MotionTutor
