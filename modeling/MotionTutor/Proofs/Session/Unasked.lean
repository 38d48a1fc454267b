import MotionTutor.Proofs.Session.Answers
import MotionTutor.Proofs.Session.Lessons

/-!
# Answers without an exercise

Where no exercise is up there is nothing to answer, but answers can be recorded all the same. They
bring no points, and after the last lesson, the last step or the end of practice they change nothing
(`Session.run_answer_without_exercise`).

There is one place where they do: a session without a sitting counts as in progress, so an answer
that is recorded there counts, and its streak goes into the profile
(`Session.run_answer_without_exercise_idle`). It is the only such place, because a sitting that is in
progress has an exercise up (`Session.Sound.idle_of_no_exercise`); and the streaks are all that
changes (`Session.profile_serve_of_idle`). An answer that is judged there is wrong whatever it is, so
it ends the streak that the profile has.
-/

namespace MotionTutor

/-- A profile has recorded a streak if it is the latest one and not beyond the best. -/
theorem Profile.recordStreak_eq_self_iff {p : Profile} {streak : Nat} :
    p.recordStreak streak = p ↔ p.currentStreak = streak ∧ streak ≤ p.bestStreak := by
  constructor
  · intro h
    have hcurrent : streak = p.currentStreak := congrArg Profile.currentStreak h
    have hbest : max p.bestStreak streak = p.bestStreak := congrArg Profile.bestStreak h
    exact ⟨hcurrent.symm, hbest ▸ Nat.le_max_right p.bestStreak streak⟩
  · rintro ⟨rfl, hle⟩
    unfold recordStreak
    rw [Nat.max_eq_left hle]

namespace Session

variable {s : Session} {r : Request} {correct : Bool}

/-! ## 1. What is judged and scored -/

/-- An answer without an exercise is judged wrong. -/
theorem correct_judge_of_no_exercise (h : s.current = none) (answer : String) :
    (s.judge answer).correct = false := by
  rw [judge, h]
  rfl

theorem pointsFor_of_no_exercise (h : s.current = none) (elapsed : Float) (optimal : Bool) :
    s.pointsFor elapsed optimal = 0 := by
  rw [pointsFor, h]
  rfl

/-- So a request that has an answer judged records a wrong one. -/
theorem serve_submit_of_no_exercise (h : s.current = none) (now : Instant) (answer : String)
    (elapsed : Float) :
    s.serve (.submit now answer elapsed) =
      (.judged (s.judge answer) 0, s.recordIncorrect now) := by
  rw [serve, submit]
  dsimp only
  rw [correct_judge_of_no_exercise h]
  rfl

/-- **An answer without an exercise brings no points**, whether it counts or not. -/
theorem points_of_no_exercise (h : s.current = none) (hverdict : s.verdict? r = some correct) :
    (s.serve r).1.points = 0 := by
  cases r with
  | submit now answer elapsed => rw [serve_submit_of_no_exercise h]; rfl
  | recordCorrect now elapsed optimal =>
    show (s.recordCorrect now elapsed optimal).1 = 0
    by_cases hin : s.sitting.isInProgress = true
    · rw [recordCorrect_points hin, pointsFor_of_no_exercise h]
    · exact recordCorrect_points_of_not hin now elapsed optimal
  | recordIncorrect now => rfl
  | _ => cases hverdict

/-! ## 2. Sessions without a sitting -/

/-- **What is in progress without an exercise is no sitting.** -/
theorem Sound.idle_of_no_exercise (hs : s.Sound) (h : s.current = none)
    (hin : s.outcome = .inProgress) : s.sitting.activity = .idle := by
  cases ha : s.sitting.activity with
  | idle => rfl
  | lesson c index =>
    obtain ⟨-, e, -, hcurrent⟩ | ⟨hcomplete, -⟩ := hs.standing_lesson ha
    · cases h.symm.trans hcurrent
    · cases hin.symm.trans hcomplete
  | practice c current complete =>
    obtain ⟨-, hcurrent⟩ | hcomplete := hs.standing_practice ha
    · rw [h] at hcurrent
      cases hcurrent
    · cases hin.symm.trans hcomplete
  | boss c fight =>
    obtain ⟨-, hstands⟩ := hs.standing_boss ha
    rw [hin] at hstands
    obtain ⟨-, -, step, -, hcurrent⟩ := hstands
    cases h.symm.trans hcurrent

theorem isInProgress_of_idle (ha : s.sitting.activity = .idle) :
    s.sitting.isInProgress = true := by
  rw [isInProgress_iff, outcome_of_activity ha]
  rfl

theorem profile_recordCorrect_of_idle (ha : s.sitting.activity = .idle) (now : Instant)
    (elapsed : Float) (optimal : Bool) :
    (s.recordCorrect now elapsed optimal).2.profile =
      s.profile.recordStreak (s.sitting.streak + 1) := by
  have hnone : s.current = none := current_of_activity ha
  unfold recordCorrect
  rw [if_pos (isInProgress_of_idle ha), pointsFor_of_no_exercise hnone]
  dsimp only
  rw [ha]
  rfl

theorem profile_recordIncorrect_of_idle (ha : s.sitting.activity = .idle) (now : Instant) :
    (s.recordIncorrect now).profile = s.profile.recordStreak 0 := by
  unfold recordIncorrect
  rw [if_pos (isInProgress_of_idle ha)]
  dsimp only
  rw [ha]
  rfl

/-- **Without a sitting, an answer changes the streaks of the profile and nothing else.** -/
theorem profile_serve_of_idle (ha : s.sitting.activity = .idle)
    (hverdict : s.verdict? r = some correct) :
    (s.serve r).2.profile =
      s.profile.recordStreak (if correct then s.sitting.streak + 1 else 0) := by
  have hnone : s.current = none := current_of_activity ha
  cases r with
  | submit now answer elapsed =>
    have hwrong : correct = false :=
      (Option.some.inj hverdict).symm.trans (correct_judge_of_no_exercise hnone answer)
    rw [serve_submit_of_no_exercise hnone, hwrong]
    exact profile_recordIncorrect_of_idle ha now
  | recordCorrect now elapsed optimal =>
    cases hverdict
    exact profile_recordCorrect_of_idle ha now elapsed optimal
  | recordIncorrect now =>
    cases hverdict
    exact profile_recordIncorrect_of_idle ha now
  | _ => cases hverdict

/-! ## 3. Runs -/

/-- **Answers without an exercise.** Whatever a session was asked, if no exercise is up then an
answer brings no points. If there is a sitting, it changes nothing at all. If there is none, a judged
answer is wrong, and any answer makes its streak the latest one of the profile, and the best one if
that was less, and leaves all else there; so the profile stays the same just when it has that streak
already. -/
theorem run_answer_without_exercise (catalog : Catalog) (profile : Profile) (words : Words)
    (requests : List Request)
    (hnone : ((start catalog profile words).run requests).current = none) :
    let s := (start catalog profile words).run requests
    (∀ answer, (s.judge answer).correct = false) ∧
      ∀ r correct, s.verdict? r = some correct →
        let streak := if correct then s.sitting.streak + 1 else 0
        (s.serve r).1.points = 0 ∧
          (s.sitting.activity ≠ .idle → (s.serve r).2 = s) ∧
          (s.sitting.activity = .idle → (s.serve r).2.profile = s.profile.recordStreak streak) ∧
          ((s.serve r).2.profile = s.profile ↔
            s.sitting.activity = .idle →
              s.profile.currentStreak = streak ∧ streak ≤ s.profile.bestStreak) := by
  intro s
  have hsound : s.Sound := (sound_run catalog profile words requests).2
  refine ⟨correct_judge_of_no_exercise hnone, fun r correct hverdict => ?_⟩
  have hidle : s.sitting.activity = .idle → (s.serve r).2.profile =
      s.profile.recordStreak (if correct then s.sitting.streak + 1 else 0) :=
    fun ha => profile_serve_of_idle ha hverdict
  have hsitting : s.sitting.activity ≠ .idle → (s.serve r).2 = s := by
    intro ha
    have hnot : s.outcome ≠ .inProgress := fun hin => ha (hsound.idle_of_no_exercise hnone hin)
    refine serve_of_not_accepted hverdict ?_
    rw [accepted?, if_neg hnot]
  refine ⟨points_of_no_exercise hnone hverdict, hsitting, hidle, ?_⟩
  by_cases ha : s.sitting.activity = .idle
  · rw [hidle ha, Profile.recordStreak_eq_self_iff]
    exact ⟨fun h _ => h, fun h => h ha⟩
  · rw [hsitting ha]
    exact iff_of_true rfl fun h => absurd h ha

/-- Behind the last of two lessons, a right answer brings nothing and changes nothing. -/
theorem run_answer_without_exercise_after_lessons :
    let s := (start .twoLessons .fresh (.ofList [])).run
      [.startLesson ⟨0, 0⟩ "lines", .advance, .advance]
    let r := Request.recordCorrect ⟨1, 0⟩ 1.5 true
    s.current = none ∧ s.sitting.activity ≠ .idle ∧ s.verdict? r = some true ∧
      (s.serve r).1.points = 0 ∧ (s.serve r).2 = s := by
  intro s r
  have hnone : s.current = none := rfl
  have ha : s.sitting.activity ≠ .idle := Activity.noConfusion
  obtain ⟨-, hanswer⟩ := run_answer_without_exercise .twoLessons .fresh (.ofList []) _ hnone
  obtain ⟨hpoints, hsitting, -⟩ := hanswer r true rfl
  exact ⟨hnone, ha, rfl, hpoints, hsitting ha⟩

/-- A player comes with a streak of four. Without a sitting, any answer that is judged ends it, and a
right answer that is recorded sets it to one. -/
theorem run_answer_without_exercise_idle :
    let profile := { Profile.fresh with currentStreak := 4, bestStreak := 6 }
    let s := (start .twoLessons profile (.ofList [])).run []
    let judged := (s.serve (.submit ⟨0, 0⟩ "l" 1.5)).2
    let recorded := (s.serve (.recordCorrect ⟨0, 0⟩ 1.5 true)).2
    s.current = none ∧ s.profile = profile ∧
      judged.profile = { profile with currentStreak := 0 } ∧ judged.profile ≠ profile ∧
      recorded.profile = { profile with currentStreak := 1 } ∧ recorded.profile ≠ profile := by
  intro profile s judged recorded
  have ha : s.sitting.activity = .idle := rfl
  have hwrong : s.verdict? (.submit ⟨0, 0⟩ "l" 1.5) = some false := rfl
  have hright : s.verdict? (.recordCorrect ⟨0, 0⟩ 1.5 true) = some true := rfl
  have hjudged : judged.profile = profile.recordStreak 0 := profile_serve_of_idle ha hwrong
  have hrecorded : recorded.profile = profile.recordStreak 1 := profile_serve_of_idle ha hright
  have hdiffer : ∀ streak, streak ≠ 4 → profile.recordStreak streak ≠ profile :=
    fun streak hne heq => hne (congrArg Profile.currentStreak heq)
  refine ⟨rfl, rfl, hjudged, ?_, hrecorded, ?_⟩
  · rw [hjudged]
    exact hdiffer 0 (by decide)
  · rw [hrecorded]
    exact hdiffer 1 (by decide)

end Session

end MotionTutor
