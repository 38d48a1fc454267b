import MotionTutor.Proofs.Practice.Draw
import MotionTutor.Proofs.Practice.Mastery
import MotionTutor.Proofs.Session.Lessons
import MotionTutor.Proofs.Session.Practice

/-!
# Practice with right answers only

Whoever answers everything right in practice is done after as many answers as the lessons lack until
they are mastered, whatever is drawn (`Session.startPractice_drill`).

The measure is `Progress.answersLeft`. While some are left, the exercise in front of the player is a
lesson that is not mastered, since no other has a weight; so a right answer takes one away, and the
next draw finds such a lesson again or ends practice. This is one round
(`Drilling.answerRight`), and a drill is rounds until practice is complete (`Drilling.drill`).
-/

namespace MotionTutor

/-! ## 1. Modules that can be practised -/

theorem Catalog.exists_chapter? (catalog : Catalog) {module : String}
    (h : module ∈ catalog.order) : ∃ c, catalog.chapter? module = some c := by
  obtain ⟨c, hc, hid⟩ := List.mem_map.mp h
  exact Option.isSome_iff_exists.mp (List.find?_isSome.mpr ⟨c, hc, decide_eq_true hid⟩)

/-- No two lessons of a chapter have one id. -/
theorem Catalog.nodup_lessons (catalog : Catalog) {c : Chapter} (h : c ∈ catalog.chapters) :
    (c.lessons.map (·.id)).Nodup := by
  have hexercises : c.exercises.Sublist (catalog.chapters.flatMap Chapter.exercises) :=
    List.sublist_flatten_of_mem (List.mem_map_of_mem h)
  have hlessons := (List.sublist_append_left c.lessons c.bossExercises).trans hexercises
  exact catalog.coherent.nodup_exercises.sublist (hlessons.map _)

namespace Session

variable {s : Session} {c : Chapter} {module : String} {left : Nat}

/-- An open module has a chapter to start. -/
theorem exists_openChapter (h : s.profile.isUnlocked s.catalog.order module = true) :
    ∃ c, s.openChapter module = .ok c := by
  obtain ⟨i, hi, -⟩ := Profile.isUnlocked_iff.mp h
  have hmem : module ∈ s.catalog.order :=
    List.isSome_idxOf?.mp (Option.isSome_iff_exists.mpr ⟨i, hi⟩)
  obtain ⟨c, hc⟩ := s.catalog.exists_chapter? hmem
  refine ⟨c, ?_⟩
  unfold openChapter
  rw [hc]
  dsimp only
  rw [if_pos h]

/-! ## 2. Drills -/

/-- A right answer, as it is recorded. -/
structure RightAnswer where
  now : Instant
  elapsed : Float
  optimal : Bool

/-- Records a right answer and goes on. -/
def answerRight (s : Session) (a : RightAnswer) : Session :=
  (s.recordCorrect a.now a.elapsed a.optimal).2.advance.2

/-- Answers right and goes on while the sitting is in progress, as far as the answers go. Returns the
answers that were not given. -/
def drill (s : Session) : List RightAnswer → Session × List RightAnswer
  | [] => (s, [])
  | a :: answers =>
    if s.outcome = .inProgress then (s.answerRight a).drill answers else (s, a :: answers)

/-- Practice in a chapter by the default weights, with this number of answers left: if there are
none, practice is complete, and otherwise a lesson that is not mastered is to be answered. -/
structure Drilling (s : Session) (c : Chapter) (left : Nat) : Prop where
  weights : s.weights = .byMastery
  marks : ∀ e ∈ c.lessons, (s.profile.progress c.id).MarksMastery e.id
  left_eq : (s.profile.progress c.id).answersLeft c.lessons = left
  finished : left = 0 → s.sitting.activity = .practice c none true
  goes_on : 0 < left → ∃ e ∈ c.lessons, ¬ (s.profile.progress c.id).isMastered e.id = true ∧
    s.sitting.activity = .practice c (some (e.servedAs .practice)) false

theorem Drilling.outcome_of_zero (h : s.Drilling c 0) : s.outcome = .complete :=
  outcome_of_activity (h.finished rfl)

theorem Drilling.outcome_of_pos (h : s.Drilling c left) (hpos : 0 < left) :
    s.outcome = .inProgress := by
  obtain ⟨e, -, -, ha⟩ := h.goes_on hpos
  exact outcome_of_activity ha

/-- When nothing is left, all lessons are mastered. -/
theorem Drilling.mastered (h : s.Drilling c 0) :
    ∀ e ∈ c.lessons, (s.profile.progress c.id).isMastered e.id = true :=
  (Progress.answersLeft_eq_zero_iff h.marks).mp h.left_eq

/-! ## 3. One round -/

/-- Whatever is drawn in practice, a drill goes on from there. -/
theorem drilling_nextPractice {current : Option Exercise}
    (ha : s.sitting.activity = .practice c current false) (hweights : s.weights = .byMastery)
    (hmarks : ∀ e ∈ c.lessons, (s.profile.progress c.id).MarksMastery e.id) :
    s.nextPractice.2.Drilling c ((s.profile.progress c.id).answersLeft c.lessons) := by
  have hzero := Progress.answersLeft_eq_zero_iff hmarks
  by_cases hany : ∃ e ∈ c.lessons, s.weights.of (s.profile.progress c.id) e.id ≠ 0
  · obtain ⟨e, he, hweight, hdrawn⟩ := Practice.select_of_exists hany s.words
    rw [nextPractice_of_some ha (Prod.ext hdrawn rfl)]
    rw [hweights, Ne, Weights.of_byMastery_eq_zero_iff] at hweight
    exact
      { weights := hweights
        marks := hmarks
        left_eq := rfl
        finished := fun hdone => absurd (hzero.mp hdone e he) hweight
        goes_on := fun _ => ⟨e, he, hweight, rfl⟩ }
  · have hnone : ∀ e ∈ c.lessons, s.weights.of (s.profile.progress c.id) e.id = 0 :=
      fun e he => Classical.byContradiction fun hweight => hany ⟨e, he, hweight⟩
    rw [nextPractice_of_none ha (Practice.select_of_forall hnone)]
    rw [hweights] at hnone
    have hdone := hzero.mpr fun e he => Weights.of_byMastery_eq_zero_iff.mp (hnone e he)
    exact
      { weights := hweights
        marks := hmarks
        left_eq := rfl
        finished := fun _ => rfl
        goes_on := fun hpos => absurd hdone (Nat.ne_of_gt hpos) }

/-- A right answer in practice is recorded for the exercise in front of the player. -/
theorem recordCorrect_of_practice {e : Exercise}
    (ha : s.sitting.activity = .practice c (some e) false) (a : RightAnswer) :
    (s.recordCorrect a.now a.elapsed a.optimal).2 =
      (s.rewarded (s.pointsFor a.elapsed a.optimal)).noted c (.practised e.id true a.now) := by
  unfold recordCorrect
  rw [if_pos (isInProgress_of_practising? (practising?_of_activity ha))]
  dsimp only
  rw [ha]
  rfl

/-- To go on in practice is to draw. -/
theorem advance_of_practice {current : Option Exercise}
    (ha : s.sitting.activity = .practice c current false) : s.advance = s.nextPractice := by
  unfold advance
  rw [if_pos (isInProgress_of_practising? (practising?_of_activity ha)), ha]

/-- **A round of a drill leaves one answer less.** -/
theorem Drilling.answerRight (h : s.Drilling c (left + 1))
    (hnodup : (c.lessons.map (·.id)).Nodup) (a : RightAnswer) :
    (s.answerRight a).Drilling c left := by
  obtain ⟨e, he, hnot, ha⟩ := h.goes_on (Nat.succ_pos left)
  unfold Session.answerRight
  rw [recordCorrect_of_practice ha]
  generalize ht : (s.rewarded (s.pointsFor a.elapsed a.optimal)).noted c
    (.practised (e.servedAs .practice).id true a.now) = t
  have hta : t.sitting.activity = .practice c (some (e.servedAs .practice)) false := ht ▸ ha
  have htweights : t.weights = .byMastery := ht ▸ h.weights
  have hrecord : t.profile.progress c.id =
      (s.profile.progress c.id).recordPractice e.id true a.now := ht ▸ progress_noted_self
  have hmarks : ∀ e' ∈ c.lessons, (t.profile.progress c.id).MarksMastery e'.id := by
    rw [hrecord]
    exact fun e' he' => (h.marks e' he').recordPractice e.id a.now
  have hleft : (t.profile.progress c.id).answersLeft c.lessons = left := by
    rw [hrecord]
    refine Nat.succ.inj (Eq.trans ?_ h.left_eq)
    exact Progress.answersLeft_recordPractice hnodup he (h.marks e he) hnot
  rw [advance_of_practice hta, ← hleft]
  exact drilling_nextPractice hta htweights hmarks

/-! ## 4. The whole drill -/

/-- A drill gives as many answers as are left, or all that there are. -/
theorem Drilling.drill (h : s.Drilling c left) (hnodup : (c.lessons.map (·.id)).Nodup)
    (answers : List RightAnswer) :
    (s.drill answers).2 = answers.drop left ∧
      (s.drill answers).1.Drilling c (left - answers.length) := by
  induction answers generalizing s left with
  | nil => exact ⟨List.drop_nil.symm, h⟩
  | cons a answers ih =>
    cases left with
    | zero =>
      have hdone : s.drill (a :: answers) = (s, a :: answers) := by
        rw [Session.drill, h.outcome_of_zero]
        rfl
      rw [hdone, Nat.zero_sub]
      exact ⟨rfl, h⟩
    | succ left =>
      have hround : s.drill (a :: answers) = (s.answerRight a).drill answers := by
        rw [Session.drill, if_pos (h.outcome_of_pos (Nat.succ_pos left))]
      rw [hround, List.drop_succ_cons, List.length_cons, Nat.add_sub_add_right]
      exact ih (h.answerRight hnodup a)

/-- Practice in an open module starts as a drill. -/
theorem drilling_startPractice (now : Instant)
    (hopen : s.profile.isUnlocked s.catalog.order module = true)
    (hweights : s.weights = .byMastery)
    (hmarks : ∀ e ∈ s.catalog.lessons module, (s.profile.progress module).MarksMastery e.id) :
    ∃ c t, s.IsOpen c ∧ c.id = module ∧ s.startPractice now module = .ok t ∧
      t.Drilling c ((s.profile.progress module).answersLeft (s.catalog.lessons module)) := by
  obtain ⟨c, hc⟩ := exists_openChapter hopen
  obtain ⟨rfl, hcopen⟩ := openChapter_eq_ok hc
  have hstart : s.startPractice now c.id =
      .ok (s.begin now (.practice c none false)).nextPractice.2 := by
    rw [startPractice, hc]
    rfl
  rw [hcopen.lessons_eq] at hmarks ⊢
  exact ⟨c, _, hcopen, rfl, hstart, drilling_nextPractice rfl hweights hmarks⟩

/-- **A drill ends after as many answers as the lessons lack.** Practice can be started in any open
module. If there each lesson is marked as mastered just when three answers or more in a row were
right, and practice goes by the default weights, then every answer that is given and right takes one
from what is lacking, whatever is drawn: with fewer answers practice is still in progress, and with
enough of them it is complete, all lessons are mastered, and the answers beyond are not given. For a
player who has not practised these are three answers for each lesson. -/
theorem startPractice_drill (s : Session) (now : Instant) {module : String}
    (hopen : s.profile.isUnlocked s.catalog.order module = true)
    (hweights : s.weights = .byMastery)
    (hmarks : ∀ e ∈ s.catalog.lessons module, (s.profile.progress module).MarksMastery e.id) :
    let p := s.profile.progress module
    let lessons := s.catalog.lessons module
    (∃ t, s.startPractice now module = .ok t ∧
      ∀ answers, (t.drill answers).2 = answers.drop (p.answersLeft lessons) ∧
        (answers.length < p.answersLeft lessons →
          (t.drill answers).1.outcome = .inProgress) ∧
        (p.answersLeft lessons ≤ answers.length →
          (t.drill answers).1.outcome = .complete ∧
            ∀ e ∈ lessons,
              ((t.drill answers).1.profile.progress module).isMastered e.id = true)) ∧
      ((∀ e ∈ lessons, p.history? e.id = none) →
        p.answersLeft lessons = 3 * lessons.length) := by
  intro p lessons
  refine ⟨?_, Progress.answersLeft_of_no_history⟩
  obtain ⟨c, t, hcopen, rfl, hstart, hdrilling⟩ := drilling_startPractice now hopen hweights hmarks
  have hlessons : lessons = c.lessons := hcopen.lessons_eq
  have hnodup : (c.lessons.map (·.id)).Nodup :=
    s.catalog.nodup_lessons (List.mem_of_find?_eq_some hcopen.listed)
  refine ⟨t, hstart, fun answers => ?_⟩
  obtain ⟨hrest, hafter⟩ := hdrilling.drill hnodup answers
  refine ⟨hrest, fun hfew => ?_, fun henough => ?_⟩
  · exact hafter.outcome_of_pos (Nat.sub_pos_of_lt hfew)
  · rw [Nat.sub_eq_zero_of_le henough] at hafter
    rw [hlessons]
    exact ⟨hafter.outcome_of_zero, hafter.mastered⟩

/-- One lesson of two was practised twice and right, so it lacks one answer and the other three; of
seven answers, three are not given. -/
theorem startPractice_drill_half_done :
    let profile := Profile.fresh.modifyProgress "lines" fun p =>
      (p.recordPractice "right" true ⟨0, 0⟩).recordPractice "right" true ⟨1, 0⟩
    let s := start .twoLessons profile (.ofList [])
    let answers := List.replicate 7 (RightAnswer.mk ⟨2, 0⟩ 1.5 false)
    s.profile.isUnlocked s.catalog.order "lines" = true ∧
      (∀ e ∈ s.catalog.lessons "lines", (s.profile.progress "lines").MarksMastery e.id) ∧
      ∃ t, s.startPractice ⟨2, 0⟩ "lines" = .ok t ∧
        (t.drill answers).1.outcome = .complete ∧ (t.drill answers).2.length = 3 := by
  intro profile s answers
  have hopen : s.profile.isUnlocked s.catalog.order "lines" = true := rfl
  have hmarks : ∀ e ∈ s.catalog.lessons "lines",
      (s.profile.progress "lines").MarksMastery e.id := of_decide_eq_true rfl
  have hleft : (s.profile.progress "lines").answersLeft (s.catalog.lessons "lines") = 4 := rfl
  obtain ⟨⟨t, hstart, hdrill⟩, -⟩ := startPractice_drill s ⟨2, 0⟩ hopen rfl hmarks
  obtain ⟨hrest, -, hcomplete⟩ := hdrill answers
  rw [hleft] at hrest hcomplete
  refine ⟨hopen, hmarks, t, hstart, (hcomplete (by decide)).1, ?_⟩
  rw [hrest]
  rfl

end Session

end MotionTutor
