import Mathlib.Data.List.DropRight
import MotionTutor.Proofs.Stats.Practice

/-!
# Practice by its answers

What practice in a module has recorded is a function of the answers, and of the answers to each
exercise apart from those to the others:

* the history of an exercise is what the answers to it come to (`Progress.history?_recordAll`), and
  tells of them their numbers, the right ones since the last wrong one, and when the last was given
  (`History.sumsUp_recordAll`);
* balanced books with the same histories are the same books (`Progress.Balanced.samePractice`);
* hence **answers to different exercises commute** (`Progress.recordAll_by_exercise`). Only when
  practice was last is told by the order of all answers.

Counters have no limit here; see `Progress.recordPracticeWith` for those that have.
-/

namespace MotionTutor

/-! ## 1. Answers -/

/-- An answer to an exercise, and when it is recorded in memory. -/
structure Answer where
  id : String
  correct : Bool
  time : Instant

/-- The answers to one exercise. -/
def answersTo (id : String) (answers : List Answer) : List Answer :=
  answers.filter fun a => a.id = id

/-- There are `n` last answers, and they are all right. -/
def LastRight (n : Nat) (answers : List Answer) : Prop :=
  ∃ before last, answers = before ++ last ∧ last.length = n ∧ ∀ a ∈ last, a.correct = true

section Lists

variable {answers : List Answer} {a : Answer} {id : String} {n : Nat}

theorem answersTo_cons_of_eq (h : a.id = id) :
    answersTo id (a :: answers) = a :: answersTo id answers :=
  List.filter_cons_of_pos (decide_eq_true h)

theorem answersTo_cons_of_ne (h : a.id ≠ id) :
    answersTo id (a :: answers) = answersTo id answers := by
  unfold answersTo
  rw [List.filter_cons_of_neg]
  rwa [decide_eq_true_eq]

theorem answersTo_append (id : String) (before after : List Answer) :
    answersTo id (before ++ after) = answersTo id before ++ answersTo id after :=
  List.filter_append ..

/-- Two neighbours that answer different exercises can change places. -/
theorem answersTo_swap {b : Answer} (h : a.id ≠ b.id) (before after : List Answer) (id : String) :
    answersTo id (before ++ b :: a :: after) = answersTo id (before ++ a :: b :: after) := by
  rw [answersTo_append, answersTo_append]
  by_cases ha : a.id = id
  · have hb : b.id ≠ id := fun hb => h (ha.trans hb.symm)
    rw [answersTo_cons_of_ne hb, answersTo_cons_of_eq ha, answersTo_cons_of_eq ha,
      answersTo_cons_of_ne hb]
  · by_cases hb : b.id = id
    · rw [answersTo_cons_of_eq hb, answersTo_cons_of_ne ha, answersTo_cons_of_ne ha,
        answersTo_cons_of_eq hb]
    · rw [answersTo_cons_of_ne hb, answersTo_cons_of_ne ha, answersTo_cons_of_ne ha,
        answersTo_cons_of_ne hb]

/-- A wrong answer ends the row of right ones, and a right one makes it longer. -/
theorem length_rtakeWhile_concat (answers : List Answer) (a : Answer) :
    ((answers ++ [a]).rtakeWhile (·.correct)).length =
      if a.correct then (answers.rtakeWhile (·.correct)).length + 1 else 0 := by
  rw [List.rtakeWhile_concat]
  split
  · exact List.length_append
  · rfl

/-- The last `n` answers are right if as many were right since the last wrong one. -/
theorem lastRight_iff : LastRight n answers ↔ n ≤ (answers.rtakeWhile (·.correct)).length := by
  constructor
  · rintro ⟨before, last, rfl, rfl, hright⟩
    have hall : ∀ a ∈ last.reverse, a.correct = true :=
      fun a ha => hright a (List.mem_reverse.mp ha)
    rw [List.rtakeWhile, List.reverse_append, List.takeWhile_append_of_pos hall,
      List.length_reverse, List.length_append, List.length_reverse]
    exact Nat.le_add_right _ _
  · intro hle
    let row := answers.rtakeWhile (·.correct)
    refine ⟨answers.rdropWhile (·.correct) ++ row.take (row.length - n),
      row.drop (row.length - n), ?_, ?_, fun a ha => ?_⟩
    · rw [List.append_assoc, List.take_append_drop]
      exact List.rdropWhile_append_rtakeWhile.symm
    · rw [List.length_drop]
      exact Nat.sub_sub_self hle
    · exact List.mem_rtakeWhile_imp (List.mem_of_mem_drop ha)

end Lists

/-! ## 2. One history -/

namespace History

/-- The history of an exercise after some answers to it. -/
def recordAll (h : History) (answers : List Answer) : History :=
  answers.foldl (fun h a => h.record a.correct a.time.seconds) h

/-- A history tells of the answers to its exercise how many there are, how many are right, wrong,
and right since the last wrong one, whether the last three are right, and when the last was given;
without answers this is the beginning of 1970. -/
structure SumsUp (h : History) (answers : List Answer) : Prop where
  attempts : h.attempts = answers.length
  right : h.right = answers.countP (·.correct)
  wrong : h.wrong = answers.countP (!·.correct)
  rightInARow : h.rightInARow = (answers.rtakeWhile (·.correct)).length
  mastered : h.mastered = true ↔ LastRight 3 answers
  lastAttempted : h.lastAttempted = (answers.getLast?.map (·.time.seconds)).getD 0

variable {h : History} {answers : List Answer}

theorem sumsUp_fresh : fresh.SumsUp [] where
  attempts := rfl
  right := rfl
  wrong := rfl
  rightInARow := rfl
  mastered := by
    rw [lastRight_iff]
    decide
  lastAttempted := rfl

theorem SumsUp.lastRight_iff_le (hs : h.SumsUp answers) (n : Nat) :
    LastRight n answers ↔ n ≤ h.rightInARow := by
  rw [lastRight_iff, hs.rightInARow]

/-- The mark of mastery agrees with the row of right answers. -/
theorem SumsUp.mastered_iff (hs : h.SumsUp answers) : h.mastered = true ↔ 3 ≤ h.rightInARow := by
  rw [hs.mastered, hs.lastRight_iff_le]

/-- **A record keeps a history up with the answers.** -/
theorem SumsUp.record (hs : h.SumsUp answers) (a : Answer) :
    (h.record a.correct a.time.seconds).SumsUp (answers ++ [a]) where
  attempts := by
    rw [attempts_record, hs.attempts, List.length_append]
    rfl
  right := by
    rw [right_record, hs.right, List.countP_append, List.countP_singleton]
    cases a.correct <;> rfl
  wrong := by
    rw [wrong_record, hs.wrong, List.countP_append, List.countP_singleton]
    cases a.correct <;> rfl
  rightInARow := by rw [rightInARow_record, hs.rightInARow, length_rtakeWhile_concat]
  mastered := by
    rw [mastered_record_iff hs.mastered_iff, rightInARow_record, hs.rightInARow, lastRight_iff,
      length_rtakeWhile_concat]
  lastAttempted := by
    rw [lastAttempted_record, List.getLast?_concat]
    rfl

theorem recordAll_concat (h : History) (answers : List Answer) (a : Answer) :
    h.recordAll (answers ++ [a]) = (h.recordAll answers).record a.correct a.time.seconds :=
  List.foldl_concat ..

/-- **The history of an exercise tells of the answers to it.** -/
theorem sumsUp_recordAll (answers : List Answer) : (fresh.recordAll answers).SumsUp answers := by
  induction answers using List.reverseRecOn with
  | nil => exact sumsUp_fresh
  | append_singleton answers a ih =>
    rw [recordAll_concat]
    exact ih.record a

end History

/-! ## 3. All histories -/

namespace Progress

/-- The progress after some answers. -/
def recordAll (p : Progress) (answers : List Answer) : Progress :=
  answers.foldl (fun p a => p.recordPractice a.id a.correct a.time) p

variable {p q : Progress}

/-- **The answers to one exercise make its history**, whatever stands between them. -/
theorem history?_recordAll (p : Progress) (answers : List Answer) (id : String) :
    (p.recordAll answers).history? id =
      if answersTo id answers = [] then p.history? id
      else some ((p.history id).recordAll (answersTo id answers)) := by
  induction answers generalizing p with
  | nil => rfl
  | cons a answers ih =>
    have hstep := p.history?_recordPractice a.id a.correct a.time id
    show ((p.recordPractice a.id a.correct a.time).recordAll answers).history? id = _
    rw [ih]
    by_cases ha : a.id = id
    · subst ha
      rw [if_pos rfl] at hstep
      rw [answersTo_cons_of_eq rfl, if_neg (List.cons_ne_nil _ _), history, hstep]
      -- after the last answer the history is what it has become
      split
      · rename_i hnil
        rw [hnil]
        rfl
      · rfl
    · rw [if_neg fun h => ha h.symm] at hstep
      rw [answersTo_cons_of_ne ha, history, hstep]
      rfl

theorem history_recordAll_fresh (answers : List Answer) (id : String) :
    (fresh.recordAll answers).history id = History.fresh.recordAll (answersTo id answers) := by
  rw [history, history?_recordAll]
  split
  · rename_i hnil
    rw [hnil]
    rfl
  · rfl

/-! ## 4. All books -/

theorem balanced_recordAll (answers : List Answer) : (fresh.recordAll answers).Balanced := by
  have hsteps : fresh.practiseAll (answers.map fun a => .record a.id a.correct a.time) =
      fresh.recordAll answers := List.foldl_map
  rw [← hsteps]
  exact balanced_practiseAll balanced_fresh _

/-- **Balanced books with the same histories are the same books.** -/
theorem Balanced.samePractice (hp : p.Balanced) (hq : q.Balanced)
    (h : q.histories = p.histories) : p.SamePractice q := by
  have hattempts : q.attempts = p.attempts := by rw [hq.attempts, hp.attempts, h]
  have hright : q.right = p.right := by rw [hq.right, hp.right, h]
  obtain ⟨ranked, hranking, hweakest⟩ := hp.weakest
  obtain ⟨ranked', hranking', hweakest'⟩ := hq.weakest
  have hmisses : q.misses = p.misses := by rw [misses, misses, h]
  rw [hmisses] at hranking'
  refine ⟨hattempts, hright, h, ?_, ?_⟩
  · rw [hq.accuracy, hp.accuracy, hattempts, hright]
  · rw [hweakest, hweakest', hranking.unique hranking']

/-- Answers that are the same for every exercise come to the same books. -/
theorem samePractice_recordAll {answers others : List Answer}
    (h : ∀ id, answersTo id others = answersTo id answers) :
    (fresh.recordAll answers).SamePractice (fresh.recordAll others) := by
  refine (balanced_recordAll answers).samePractice (balanced_recordAll others) ?_
  refine SortedMap.ext_find? fun id => ?_
  show (fresh.recordAll others).history? id = (fresh.recordAll answers).history? id
  rw [history?_recordAll, history?_recordAll, h id]

/-- The progress that answers come to keeps them by exercise. -/
structure KeepsByExercise (answers : List Answer) (p : Progress) : Prop where
  /-- An exercise without answers has no history, any other the one that the answers to it make, -/
  history? : ∀ id, p.history? id =
    if answersTo id answers = [] then none
    else some (History.fresh.recordAll (answersTo id answers))
  /-- which tells of these answers. -/
  sumsUp : ∀ id, (p.history id).SumsUp (answersTo id answers)
  /-- Other answers, but for every exercise the same, come to the same books; -/
  same : ∀ others, (∀ id, answersTo id others = answersTo id answers) →
    p.SamePractice (fresh.recordAll others)
  /-- so neighbours that answer different exercises can change places. -/
  commutes : ∀ before a b after, answers = before ++ a :: b :: after → a.id ≠ b.id →
    p.SamePractice (fresh.recordAll (before ++ b :: a :: after))

/-- **Practice is kept by exercise**, so that the answers to one exercise and the answers to another
can come in any order.

Numbers have no limit here. Answers are counted with 32 bits in fact, so this tells of fewer than
2 ^ 32 answers. -/
theorem recordAll_by_exercise (answers : List Answer) :
    KeepsByExercise answers (fresh.recordAll answers) where
  history? id := fresh.history?_recordAll answers id
  sumsUp id := by
    rw [history_recordAll_fresh]
    exact History.sumsUp_recordAll (answersTo id answers)
  same others h := samePractice_recordAll h
  commutes before a b after heq hne := by
    subst heq
    exact samePractice_recordAll (answersTo_swap hne before after)

end Progress

end MotionTutor
