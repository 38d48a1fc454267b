import MotionTutor.Proofs.Session.Notes

/-!
# How far lessons have come

The progress in a module says how many lessons there are and how many of them are done. It is written
when lessons begin, when an answer is right and behind the last lesson, each time in its own way.
This file says that these agree (`Session.run_keeps_lessons`):

* no more lessons are done than there are, in any module and whatever a session is asked, if that was
  so at the beginning (`lessonsFit_turn`);
* while lessons go on, there are as many as in the chapter, and behind the last one all are done
  (`Progress.AtLessons`);
* lessons that are done stay done (`completed_le_turn`), and a right answer does the lesson that it
  answers (`succ_le_completed_turn`).
-/

namespace MotionTutor

/-! ## 1. Counts of lessons -/

namespace Progress

/-- No more lessons are done than there are. -/
def LessonsFit (p : Progress) : Prop := p.lessonsCompleted ≤ p.lessonsTotal

variable {p : Progress}

theorem lessonsFit_completeLessons (p : Progress) (count : Nat) :
    (p.completeLessons count).LessonsFit :=
  Nat.min_le_right count p.lessonsTotal

/-- Whatever is noted, no more lessons are done than there are. -/
theorem LessonsFit.write (h : p.LessonsFit) (note : Note) : (note.write p).LessonsFit := by
  cases note with
  | lessonsBegun total => exact lessonsFit_completeLessons _ _
  | lessonsDone => exact lessonsFit_completeLessons _ _
  | lessonDone index =>
    dsimp only [Note.write]
    split
    · exact lessonsFit_completeLessons _ _
    · exact h
  | _ => exact h

/-- All lessons are done: then they are complete, if there are any. -/
theorem lessonsComplete_iff (h : p.lessonsCompleted = p.lessonsTotal) :
    p.lessonsComplete = true ↔ 0 < p.lessonsTotal := by
  unfold lessonsComplete
  rw [h, Bool.and_eq_true, decide_eq_true_eq, decide_eq_true_eq]
  exact and_iff_left (Nat.le_refl _)

/-! ## 2. While lessons go on -/

/-- What the progress says while lessons go on: there are so many, and if none is left at this index,
all are done. -/
structure AtLessons (p : Progress) (count index : Nat) : Prop where
  total : p.lessonsTotal = count
  done : count ≤ index → p.lessonsCompleted = p.lessonsTotal

variable {count index : Nat}

/-- When lessons begin there are as many as counted; if there are none, all are done. -/
theorem atLessons_lessonsBegun (p : Progress) (count : Nat) :
    ((Note.lessonsBegun count).write p).AtLessons count 0 where
  total := rfl
  done hnone := by
    show min p.lessonsCompleted count = count
    omega

/-- A right answer leaves the number of lessons. -/
theorem AtLessons.lessonDone (h : p.AtLessons count index) (hlt : index < count) :
    ((Note.lessonDone index).write p).AtLessons count index where
  total := by
    rw [← h.total]
    dsimp only [Note.write]
    split <;> rfl
  done hle := absurd hlt (Nat.not_lt.mpr hle)

/-- Before the last lesson there is one to go on to. -/
theorem AtLessons.next (h : p.AtLessons count index) (hlt : index + 1 < count) :
    p.AtLessons count (index + 1) where
  total := h.total
  done hle := absurd hlt (Nat.not_lt.mpr hle)

/-- Behind the last lesson, all are done. -/
theorem AtLessons.lessonsDone (h : p.AtLessons count index) (index' : Nat) :
    (Note.lessonsDone.write p).AtLessons count index' where
  total := h.total
  done _ := Nat.min_self p.lessonsTotal

/-- A right answer does the lesson at which it is given. -/
theorem AtLessons.succ_le_lessonDone (h : p.AtLessons count index) (hlt : index < count) :
    index + 1 ≤ ((Note.lessonDone index).write p).lessonsCompleted := by
  have htotal := h.total
  dsimp only [Note.write]
  split
  · show index + 1 ≤ min (index + 1) p.lessonsTotal
    omega
  · rename_i hdone
    exact Nat.not_lt.mp hdone

/-- What is noted of lessons that go on takes no lesson back. -/
theorem LessonsFit.le_lessonDone (h : p.LessonsFit) (index : Nat) :
    p.lessonsCompleted ≤ ((Note.lessonDone index).write p).lessonsCompleted := by
  dsimp only [Note.write]
  split
  · rename_i hlt
    exact Nat.le_min.mpr ⟨Nat.le_of_lt hlt, h⟩
  · exact Nat.le_refl _

/-- Neither does it to begin them again. -/
theorem AtLessons.le_lessonsBegun (hp : p.AtLessons count index) (h : p.LessonsFit) :
    p.lessonsCompleted ≤ ((Note.lessonsBegun count).write p).lessonsCompleted := by
  rw [← hp.total]
  exact Nat.le_min.mpr ⟨Nat.le_refl _, h⟩

end Progress

namespace Session

variable {s t : Session} {d : Deed} {c : Chapter} {index : Nat}

theorem lessonsFit_turn (h : ∀ module, (s.profile.progress module).LessonsFit) (ht : s.Turn d t)
    (module : String) : (t.profile.progress module).LessonsFit := by
  rcases progress_turn ht module with hsame | ⟨note, hnote⟩
  · rw [hsame]
    exact h module
  · rw [hnote]
    exact (h module).write note

/-- **While lessons go on, the progress keeps up with them.** -/
theorem atLessons_turn (ht : s.Turn d t)
    (h : ∀ c index, s.sitting.activity = .lesson c index →
      (s.profile.progress c.id).AtLessons c.lessons.length index) :
    ∀ c index, t.sitting.activity = .lesson c index →
      (t.profile.progress c.id).AtLessons c.lessons.length index := by
  intro c index hc
  cases ht with
  | lessons now hopen =>
    cases (show Activity.lesson _ 0 = .lesson c index from hc)
    rw [progress_noted_self]
    exact Progress.atLessons_lessonsBegun _ _
  | rightLesson ha hlt points =>
    cases ha.symm.trans hc
    rw [progress_noted_self]
    exact (h c index ha).lessonDone hlt
  | nextLesson ha hlt =>
    cases (show Activity.lesson _ _ = .lesson c index from hc)
    exact (h _ _ ha).next hlt
  | lastLesson ha hlast =>
    cases (show Activity.lesson _ _ = .lesson c index from hc)
    rw [progress_noted_self]
    exact (h _ _ ha).lessonsDone _
  -- the others take place elsewhere, or write nothing
  | practice now hopen hcurrent words => cases hc
  | fight now hopen hboss => cases hc
  | rightPractice ha now points => cases ha.symm.trans hc
  | wrongPractice ha now => cases ha.symm.trans hc
  | wrongFight ha hfight => cases hc
  | nextStep ha hfight => cases hc
  | drawn ha e words => cases hc
  | exhausted ha words => cases hc
  | chosen ha e => cases hc
  | won ha hfight hfirst => cases hc
  | ended => cases hc
  | _ => exact h c index hc

/-- Two open chapters of one module are the same. -/
theorem IsOpen.eq_of_id {c c' : Chapter} (hc : s.IsOpen c) (hc' : s.IsOpen c')
    (hid : c.id = c'.id) : c = c' := by
  have hlisted := hc.listed
  rw [hid, hc'.listed] at hlisted
  exact (Option.some.inj hlisted).symm

/-- **While lessons go on, those that are done stay done**, also if they are begun again. -/
theorem completed_le_turn (hs : s.Sound) (ha : s.sitting.activity = .lesson c index)
    (hfit : (s.profile.progress c.id).LessonsFit)
    (hat : (s.profile.progress c.id).AtLessons c.lessons.length index) (ht : s.Turn d t) :
    (s.profile.progress c.id).lessonsCompleted ≤
      (t.profile.progress c.id).lessonsCompleted := by
  cases ht with
  | @lessons now c' hopen =>
    rw [progress_noted]
    split
    · rename_i hid
      have hsame : c = c' := (hs.isOpen c (chapter?_of_activity ha rfl)).eq_of_id hopen hid
      rw [← hsame]
      exact hat.le_lessonsBegun hfit
    · exact Nat.le_refl _
  | fight now hopen hboss =>
    rw [progress_noted]
    split <;> exact Nat.le_refl _
  | rightLesson ha' hlt points =>
    cases ha.symm.trans ha'
    rw [progress_noted_self]
    exact hfit.le_lessonDone index
  | lastLesson ha' hlast =>
    cases ha.symm.trans ha'
    rw [progress_noted_self]
    exact Nat.le_min.mpr ⟨hfit, hfit⟩
  | rightPractice ha' now points => cases ha.symm.trans ha'
  | wrongPractice ha' now => cases ha.symm.trans ha'
  | won ha' hfight hfirst => cases ha.symm.trans ha'
  | _ => exact Nat.le_refl _

/-- **A right answer does the lesson that it answers.** -/
theorem succ_le_completed_turn (ha : s.sitting.activity = .lesson c index)
    (hat : (s.profile.progress c.id).AtLessons c.lessons.length index) (ht : s.Turn d t)
    (hd : d.answer? = some true) :
    index + 1 ≤ (t.profile.progress c.id).lessonsCompleted := by
  cases ht with
  | rightLesson ha' hlt points =>
    cases ha.symm.trans ha'
    rw [progress_noted_self]
    exact hat.succ_le_lessonDone hlt
  | rightNowhere hin hnone points =>
    -- there is a lesson to answer
    have hlt := lt_of_isInProgress ha hin
    have hcurrent : s.current = some c.lessons[index] :=
      (current_of_activity ha).trans (List.getElem?_eq_getElem hlt)
    cases hcurrent.symm.trans hnone
  | rightPractice ha' now points => cases ha.symm.trans ha'
  | rightFight ha' hfight points => cases ha.symm.trans ha'
  | _ => cases hd

/-! ## 3. The invariant -/

/-- How far lessons have come, as the progress tells it. -/
structure LessonsKept (s : Session) : Prop where
  fit : ∀ module, (s.profile.progress module).LessonsFit
  at_lessons : ∀ c index, s.sitting.activity = .lesson c index →
    (s.profile.progress c.id).AtLessons c.lessons.length index

theorem lessonsKept_turn (h : s.LessonsKept) (ht : s.Turn d t) : t.LessonsKept where
  fit := lessonsFit_turn h.fit ht
  at_lessons := atLessons_turn ht h.at_lessons

theorem lessonsKept_run (catalog : Catalog) {profile : Profile}
    (h : ∀ module, (profile.progress module).LessonsFit) (words : Words)
    (requests : List Request) : ((start catalog profile words).run requests).LessonsKept :=
  run_invariant (P := LessonsKept) ⟨h, fun _ _ ha => Activity.noConfusion ha⟩
    (fun _ _ _ ht hkept => lessonsKept_turn hkept ht) requests

/-- Lessons are complete when none is left. -/
theorem length_le_of_complete (ha : s.sitting.activity = .lesson c index)
    (h : s.outcome = .complete) : c.lessons.length ≤ index := by
  rw [outcome_of_activity ha, Activity.outcome] at h
  split at h
  · cases h
  · rename_i hdone
    exact Nat.not_lt.mp hdone

/-- **Lessons are never overrun, and complete lessons are all done.** If no more lessons are done
than there are in any module at the beginning, that stays so, whatever a session is asked. While
lessons go on, the progress counts those of the catalog; what is done stays done, whatever comes
next; a right answer does the lesson that it answers; and when the lessons are complete, all are
done, so that they count as complete in the profile if there are any. -/
theorem run_keeps_lessons (catalog : Catalog) {profile : Profile}
    (h : ∀ module, (profile.progress module).lessonsCompleted ≤
      (profile.progress module).lessonsTotal)
    (words : Words) (requests : List Request) :
    let s := (start catalog profile words).run requests
    (∀ module, (s.profile.progress module).lessonsCompleted ≤
        (s.profile.progress module).lessonsTotal) ∧
      ∀ c index, s.sitting.activity = .lesson c index →
        (s.profile.progress c.id).lessonsTotal = (catalog.lessons c.id).length ∧
          (∀ r, (s.profile.progress c.id).lessonsCompleted ≤
            ((s.serve r).2.profile.progress c.id).lessonsCompleted) ∧
          (∀ r, s.outcome = .inProgress → s.verdict? r = some true →
            index + 1 ≤ ((s.serve r).2.profile.progress c.id).lessonsCompleted) ∧
          (s.outcome = .complete →
            (s.profile.progress c.id).lessonsCompleted =
                (s.profile.progress c.id).lessonsTotal ∧
              (s.profile.lessonsComplete c.id = true ↔ catalog.lessons c.id ≠ [])) := by
  intro s
  obtain ⟨hcatalog, hsound⟩ : s.catalog = catalog ∧ s.Sound :=
    sound_run catalog profile words requests
  have hkept : s.LessonsKept := lessonsKept_run catalog h words requests
  refine ⟨hkept.fit, fun c index ha => ?_⟩
  have hat := hkept.at_lessons c index ha
  have hlessons : catalog.lessons c.id = c.lessons := by
    rw [← hcatalog]
    exact hsound.lessons_eq ha rfl
  rw [hlessons]
  refine ⟨hat.total, fun r => ?_, fun r hin hverdict => ?_, fun hcomplete => ?_⟩
  · exact completed_le_turn hsound ha (hkept.fit c.id) hat (turn_serve s r)
  · have hin : s.sitting.isInProgress = true := decide_eq_true hin
    have hd : (s.deed r).answer? = some true := by
      rw [answer?_deed, if_pos hin]
      exact hverdict
    exact succ_le_completed_turn ha hat (turn_serve s r) hd
  · have hdone := hat.done (length_le_of_complete ha hcomplete)
    refine ⟨hdone, ?_⟩
    have hany : s.profile.lessonsComplete c.id = (s.profile.progress c.id).lessonsComplete :=
      s.profile.any_progress? c.id rfl
    rw [hany, Progress.lessonsComplete_iff hdone, hat.total, List.length_pos_iff]

end Session

/-! ## 4. A corpus of two lessons -/

/-- A chapter with two lessons and no boss. -/
def Chapter.twoLessons : Chapter :=
  .assemble { id := "lines", name := "Lines", bossName := "" }
    { lessons :=
        [{ id := "right", code := ["ab"], cursor := ⟨0, 0⟩, mission := "Go right."
           solutions := ["l"], optimal := "l" },
         { id := "left", code := ["ab"], cursor := ⟨0, 1⟩, mission := "Go left."
           solutions := ["h"], optimal := "h" }]
      boss := none }

def Catalog.twoLessons : Catalog where
  chapters := [.twoLessons]
  coherent :=
    { nodup_modules := by decide
      nodup_exercises := by decide
      assembled := by
        intro c hc
        rw [List.mem_singleton.mp hc]
        exact ⟨_, rfl⟩
      optimal_mem := by decide
      fightable := by decide }

/-- The corpus has become smaller since the player was there: one lesson of five was done, and now
there are two. -/
theorem Session.run_keeps_lessons_smaller_corpus :
    let profile := Profile.fresh.modifyProgress "lines" fun p =>
      { p with lessonsCompleted := 1, lessonsTotal := 5 }
    let s := (start .twoLessons profile (.ofList [])).run [.startLesson ⟨0, 0⟩ "lines", .advance]
    let t := (s.serve (.recordCorrect ⟨0, 0⟩ 1.5 true)).2
    (∀ module, (profile.progress module).lessonsCompleted ≤
        (profile.progress module).lessonsTotal) ∧
      s.sitting.activity = .lesson .twoLessons 1 ∧
      (s.profile.progress "lines").lessonsTotal = 2 ∧
      2 ≤ (t.profile.progress "lines").lessonsCompleted := by
  intro profile s t
  have h : ∀ module, (profile.progress module).lessonsCompleted ≤
      (profile.progress module).lessonsTotal := by
    intro module
    have hprogress := Profile.fresh.progress_modifyProgress "lines" module fun p =>
      { p with lessonsCompleted := 1, lessonsTotal := 5 }
    rw [hprogress]
    split
    · exact (by decide : 1 ≤ 5)
    · exact Nat.le_refl 0
  have ha : s.sitting.activity = .lesson .twoLessons 1 := rfl
  obtain ⟨-, hlessons⟩ := run_keeps_lessons .twoLessons h (.ofList [])
    [.startLesson ⟨0, 0⟩ "lines", .advance]
  obtain ⟨htotal, -, hright, -⟩ := hlessons .twoLessons 1 ha
  exact ⟨h, ha, htotal, hright (.recordCorrect ⟨0, 0⟩ 1.5 true) rfl rfl⟩

end MotionTutor
