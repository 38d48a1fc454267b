import MotionTutor.Proofs.Fields.Session
import MotionTutor.Proofs.Session.Notes

/-!
# The fields stay in step

Whatever a session is asked, its fields, written one after the other, come to what the session
shows (`Session.run_fields`): each request gets the same reply, and leaves the fields of the session
that `Session.serve` comes to. Where counters have a width, this asks that they have room: the
numbers of the session that a request comes to must fit (`Session.Fits`). Nothing is asked of the
numbers on the way, which only grow.

The proof goes request by request (`Session.serve_fields`). It needs the catalog twice: a module is
looked up by its name again and again, and is the same each time because the chapter of the sitting
is one of the catalog (`Session.Sound`); and a fight that begins is in progress, as its field says,
because every boss of a catalog has a step and a life.
-/

namespace MotionTutor

/-! ## 1. Room -/

/-- The numbers of the session fit their counters. -/
@[mk_iff]
structure Session.Fits (o : Overflow) (s : Session) : Prop where
  streak : o.Fits counterLimit s.sitting.streak
  score : o.Fits wordLimit s.sitting.score
  elapsed : o.Fits wordLimit s.sitting.elapsed.seconds
  /-- The number of the lesson at hand. -/
  lesson : o.Fits counterLimit (s.sitting.activity.lessonIndex + 1)
  totalScore : o.Fits wordLimit s.profile.totalScore
  totalTime : o.Fits wordLimit s.profile.totalTime.seconds
  modules : ∀ m ∈ s.profile.modules.values, m.FitsCounters o

instance (o : Overflow) (s : Session) : Decidable (s.Fits o) :=
  decidable_of_iff _ (Session.fits_iff o s).symm

/-- Without a width, all numbers fit. -/
theorem Session.fits_unbounded (s : Session) : s.Fits .unbounded where
  streak := .inl rfl
  score := .inl rfl
  elapsed := .inl rfl
  lesson := .inl rfl
  totalScore := .inl rfl
  totalTime := .inl rfl
  modules _ _ := ⟨.inl rfl, .inl rfl, .inl rfl, .inl rfl, fun _ _ =>
    ⟨.inl rfl, .inl rfl, .inl rfl, .inl rfl⟩⟩

namespace Profile

variable {p : Profile} {module : String}

/-- Changing the progress is putting what becomes of it in its place. -/
theorem modifyProgress_const (p : Profile) (module : String) (f : Progress → Progress) :
    (p.modifyProgress module fun _ => f (p.progress module)) = p.modifyProgress module f := by
  have hmodules : (p.modules.modify module fun _ => f (p.progress module)) =
      p.modules.modify module fun m => f (m.getD .fresh) :=
    SortedMap.ext_find? fun k => by
      rw [SortedMap.find?_modify, SortedMap.find?_modify]
      rfl
  exact congrArg (fun modules => { p with modules }) hmodules

end Profile

namespace Session

variable {o : Overflow} {s t : Session} {c : Chapter} {module : String} {now : Instant}

theorem Fits.progress (h : s.Fits o) (module : String) :
    (s.profile.progress module).FitsCounters o := by
  have hzero : o.Fits counterLimit 0 := .inr (by decide)
  exact SortedMap.holds_getD_find? ⟨hzero, hzero, hzero, hzero, List.forall_mem_nil _⟩ h.modules
    module

/-! ## 2. Parts -/

theorem fields_module (h : s.sitting.activity.chapter? = some c) : s.fields.module = c.id :=
  congrArg (fun chapter : Option Chapter => chapter.elim "" Chapter.id) h

/-- What a note makes of the progress in the module of the sitting is put in its place. -/
theorem fields_noted (s : Session) (note : Note) (h : s.sitting.activity.chapter? = some c) :
    s.fields.setProgress (note.write s.fields.progress) = (s.noted c note).fields := by
  have hprofile : (s.profile.modifyProgress s.fields.module fun _ =>
      note.write (s.profile.progress s.fields.module)) = (s.noted c note).profile := by
    rw [fields_module h, Profile.modifyProgress_const]
    rfl
  exact congrArg (fun profile => { s.fields with profile }) hprofile

theorem fields_addScore {points : Nat} (hscore : o.Fits wordLimit (s.sitting.score + points))
    (htotal : o.Fits wordLimit (s.profile.totalScore + points)) :
    s.fields.addScore o points = some (s.addScore points).fields := by
  have hscored : o.add wordLimit s.fields.score points = some (s.sitting.score + points) :=
    Overflow.add_of_fits hscore
  have htotalled : o.add wordLimit s.fields.profile.totalScore points =
      some (s.profile.totalScore + points) := Overflow.add_of_fits htotal
  simp only [Fields.addScore, hscored, htotalled, Option.bind_eq_bind, Option.bind_some]
  rfl

theorem fields_lengthenStreak (h : o.Fits counterLimit (s.sitting.streak + 1)) :
    s.fields.lengthenStreak o = some (s.setStreak (s.sitting.streak + 1)).fields := by
  have hstreak : o.add counterLimit s.fields.streak 1 = some (s.sitting.streak + 1) :=
    Overflow.add_of_fits h
  simp only [Fields.lengthenStreak, hstreak, Option.bind_eq_bind, Option.bind_some]
  rfl

theorem fields_breakStreak (s : Session) : s.fields.breakStreak = s.failed.fields := by
  have hprofile : { s.profile with currentStreak := 0 } = s.failed.profile := by
    show _ = s.profile.recordStreak 0
    rw [Profile.recordStreak, Nat.max_zero]
  exact congrArg (fun profile => { s.fields with streak := 0, profile, combo := 1 }) hprofile

/-- What a start comes to is the same if its beginning is. -/
theorem fields_begin (s : Session) (now : Instant) (module : String) (mode : Mode) :
    (∃ refusal, s.openChapter module = .error refusal ∧
        s.fields.begin now module mode = (some refusal, s.fields)) ∨
      ∃ c, c.id = module ∧ s.IsOpen c ∧ s.openChapter module = .ok c ∧
        s.fields.begin now module mode = (none, s.fields.enter now module mode) := by
  cases h : s.openChapter module with
  | ok c =>
    obtain ⟨rfl, hopen⟩ := openChapter_eq_ok h
    exact .inr ⟨c, rfl, hopen, rfl,
      Fields.begin_of_open (s := s.fields) hopen.listed hopen.unlocked⟩
  | error refusal =>
    refine .inl ⟨refusal, rfl, ?_⟩
    unfold openChapter at h
    split at h
    · rename_i hnone
      cases h
      exact Fields.begin_of_unknown (s := s.fields) hnone
    · rename_i hsome
      split at h
      · cases h
      · rename_i hlocked
        cases h
        exact Fields.begin_of_locked (s := s.fields) hsome (Bool.eq_false_iff.2 hlocked)

/-! ## 3. Starts -/

theorem fields_startLesson (hfits : (s.started (s.startLesson now module)).2.Fits o) :
    s.fields.startLesson o now module =
      ((s.started (s.startLesson now module)).1,
        (s.started (s.startLesson now module)).2.fields) := by
  unfold startLesson at hfits ⊢
  rcases s.fields_begin now module .lesson with
    ⟨refusal, herror, hbegin⟩ | ⟨c, rfl, hopen, hok, hbegin⟩
  · rw [Fields.startLesson, hbegin, herror]
    rfl
  · rw [hok] at hfits ⊢
    let t := s.begin now (.lesson c 0)
    let note : Note := .lessonsBegun c.lessons.length
    have hlength : o.clamp counterLimit c.lessons.length = c.lessons.length := by
      refine Overflow.clamp_of_fits ?_
      have htotal : o.Fits counterLimit ((t.noted c note).profile.progress c.id).lessonsTotal :=
        (hfits.progress c.id).lessonsTotal
      rw [progress_noted_self] at htotal
      exact htotal
    have hlessons : (s.fields.enter now c.id .lesson).catalog.lessons c.id = c.lessons :=
      hopen.lessons_eq
    have hnoted : t.fields.setProgress (note.write t.fields.progress) = (t.noted c note).fields :=
      t.fields_noted note rfl
    rw [Fields.startLesson, hbegin]
    dsimp only
    rw [hlessons, hlength, Fields.progress_setProgress, Fields.setProgress_setProgress]
    show (_, _) = (_, (t.noted c note).fields)
    rw [← hnoted]
    have hcurrent : c.lessons.head? = t.fields.current := by
      show c.lessons.head? = c.lessons[0]?
      rw [List.head?_eq_getElem?]
    have houtcome : (if c.lessons.head?.isNone then Outcome.complete else .inProgress) =
        t.fields.outcome := by
      show _ = if 0 < c.lessons.length then Outcome.inProgress else .complete
      cases c.lessons <;> rfl
    exact Prod.ext rfl (Fields.eq_of_outcome_current rfl houtcome hcurrent)

theorem setActivity_self {a : Activity} (ha : s.sitting.activity = a) : s.setActivity a = s := by
  subst ha
  rfl

/-- What is drawn from is the same, and so is what comes of a draw. -/
theorem fields_nextPractice_of_practice {current : Option Exercise} {complete : Bool}
    (ha : s.sitting.activity = .practice c current complete)
    (hlessons : s.catalog.lessons c.id = c.lessons) :
    s.fields.nextPractice = (s.nextPractice.1, s.nextPractice.2.fields) := by
  have hmode : s.fields.mode = .practice := congrArg Activity.mode ha
  have hmodule : s.fields.module = c.id := fields_module (congrArg Activity.chapter? ha)
  have hselect : Practice.select s.fields.weights s.fields.progress
      (s.fields.catalog.lessons s.fields.module) s.fields.words =
        Practice.select s.weights (s.profile.progress c.id) c.lessons s.words := by
    rw [Fields.progress, hmodule, ← hlessons]
    rfl
  cases hdrawn : Practice.select s.weights (s.profile.progress c.id) c.lessons s.words with
  | mk drawn words =>
    rw [hdrawn] at hselect
    cases drawn with
    | some e =>
      rw [Fields.nextPractice_of_some hmode hselect, nextPractice_of_some ha hdrawn,
        ← setActivity_self ha]
      rfl
    | none =>
      rw [Fields.nextPractice_of_none hmode hselect, nextPractice_of_none ha hdrawn,
        ← setActivity_self ha]
      rfl

theorem fields_nextPractice (hs : s.Sound) :
    s.fields.nextPractice = (s.nextPractice.1, s.nextPractice.2.fields) := by
  cases ha : s.sitting.activity with
  | practice c current complete => exact fields_nextPractice_of_practice ha (hs.lessons_eq ha rfl)
  | _ =>
    have hmode : s.fields.mode ≠ .practice := by
      rw [show s.fields.mode = _ from congrArg Activity.mode ha]
      exact Mode.noConfusion
    rw [Fields.nextPractice, if_neg hmode, nextPractice, ha]

theorem fields_startPractice :
    s.fields.startPractice now module =
      ((s.started (s.startPractice now module)).1,
        (s.started (s.startPractice now module)).2.fields) := by
  unfold startPractice Fields.startPractice
  rcases s.fields_begin now module .practice with
    ⟨refusal, herror, hbegin⟩ | ⟨c, rfl, hopen, hok, hbegin⟩
  · rw [hbegin, herror]
    rfl
  · rw [hbegin, hok]
    have henter : s.fields.enter now c.id .practice =
        (s.begin now (.practice c none false)).fields := rfl
    have hdraw := fields_nextPractice_of_practice (s := s.begin now (.practice c none false)) rfl
      hopen.lessons_eq
    dsimp only
    rw [henter, hdraw]
    rfl

theorem fields_startBoss (hfits : (s.started (s.startBoss now module)).2.Fits o) :
    s.fields.startBoss o now module =
      some ((s.started (s.startBoss now module)).1,
        (s.started (s.startBoss now module)).2.fields) := by
  unfold startBoss at hfits ⊢
  unfold Fields.startBoss
  have hboss : s.fields.catalog.boss? module = s.catalog.boss? module := rfl
  rw [hboss]
  cases h : s.catalog.boss? module with
  | none => rfl
  | some boss =>
    rw [h] at hfits
    dsimp only at hfits ⊢
    rcases s.fields_begin now module .boss with
      ⟨refusal, herror, hbegin⟩ | ⟨c, rfl, hopen, hok, hbegin⟩
    · rw [hbegin, herror]
      rfl
    · rw [hok] at hfits
      let t := s.begin now (.boss c (.start boss))
      have hattempts : o.add counterLimit (t.profile.progress c.id).bossAttempts 1 =
          some ((t.profile.progress c.id).bossAttempts + 1) := by
        refine Overflow.add_of_fits ?_
        have hcounted :
            o.Fits counterLimit ((t.noted c .challenged).profile.progress c.id).bossAttempts :=
          (hfits.progress c.id).bossAttempts
        rw [progress_noted_self] at hcounted
        exact hcounted
      rw [hbegin, hok]
      show (Option.bind (o.add counterLimit (t.profile.progress c.id).bossAttempts 1) _) =
        some (_, (t.noted c .challenged).fields)
      rw [hattempts, ← t.fields_noted .challenged rfl]
      -- a boss of the catalog has a step and a life
      have houtcome : Outcome.inProgress = t.fields.outcome := by
        obtain ⟨hsteps, hlives⟩ := Catalog.fightable_of_boss? h
        have hleft : ¬ boss.steps.length ≤ 0 := fun hle =>
          hsteps (List.length_eq_zero_iff.1 (Nat.le_zero.1 hle))
        show _ = if boss.steps.length ≤ 0 then Outcome.victory
          else if boss.lives = 0 then .playerDefeated else .inProgress
        rw [if_neg hleft, if_neg (Nat.pos_iff_ne_zero.1 hlives)]
      have hcurrent : boss.steps.head?.map BossStep.exercise = t.fields.current := by
        show boss.steps.head?.map BossStep.exercise = boss.steps[0]?.map BossStep.exercise
        rw [List.head?_eq_getElem?]
      refine congrArg some (Prod.ext rfl ?_)
      exact Fields.eq_of_outcome_current rfl houtcome hcurrent

/-! ## 4. Answers -/

/-- The answer is recorded in the module of the sitting. -/
theorem fields_recordPractice {current : Option Exercise} {complete correct : Bool}
    (ha : s.sitting.activity = .practice c current complete)
    (hfits : (s.recordPractice now c.id current correct).Fits o) :
    s.fields.recordPractice o now correct =
      some (s.recordPractice now c.id current correct).fields := by
  have hcurrent : s.fields.current = current := congrArg Activity.current ha
  have hchapter : s.sitting.activity.chapter? = some c := congrArg Activity.chapter? ha
  unfold Fields.recordPractice
  rw [hcurrent]
  cases current with
  | none => rfl
  | some e =>
    let note : Note := .practised e.id correct now
    have hrecord : s.fields.progress.recordPracticeWith o e.id correct now =
        some (note.write s.fields.progress) := by
      have hprogress : s.fields.progress = s.profile.progress c.id :=
        congrArg s.profile.progress (fields_module hchapter)
      have hcounted : ((s.noted c note).profile.progress c.id).FitsCounters o := hfits.progress c.id
      rw [progress_noted_self] at hcounted
      rw [hprogress]
      exact Progress.recordPracticeWith_of_fits hcounted
    dsimp only
    rw [hrecord]
    exact congrArg some (s.fields_noted note hchapter)

/-- What a right answer means to what goes on. -/
def countRight (s : Session) (now : Instant) : Session :=
  match s.sitting.activity with
  | .idle => s
  | .lesson c index => s.noted c (.lessonDone index)
  | .practice c current _ => s.recordPractice now c.id current true
  | .boss _ _ => s.setCombo (min maxCombo (s.sitting.combo + 1))

theorem recordCorrect_of_inProgress (hin : s.sitting.isInProgress = true) (now : Instant)
    (elapsed : Float) (optimal : Bool) :
    s.recordCorrect now elapsed optimal =
      (s.pointsFor elapsed optimal, (s.rewarded (s.pointsFor elapsed optimal)).countRight now) := by
  rw [recordCorrect, if_pos hin]
  rfl

theorem fields_countRight (hfits : (s.countRight now).Fits o) :
    s.fields.countRight o now = some (s.countRight now).fields := by
  unfold countRight at hfits ⊢
  unfold Fields.countRight
  cases ha : s.sitting.activity with
  | idle =>
    have hmode : s.fields.mode = .idle := congrArg Activity.mode ha
    rw [hmode]
  | lesson c index =>
    have hmode : s.fields.mode = .lesson := congrArg Activity.mode ha
    have hindex : s.fields.lessonIndex = index := congrArg Activity.lessonIndex ha
    have hchapter : s.sitting.activity.chapter? = some c := congrArg Activity.chapter? ha
    have hclamp : o.clamp counterLimit (index + 1) = index + 1 := by
      rw [ha] at hfits
      refine Overflow.clamp_of_fits ?_
      rw [← hindex]
      exact hfits.lesson
    rw [hmode, hindex, hclamp]
    exact congrArg some (s.fields_noted (.lessonDone index) hchapter)
  | practice c current complete =>
    have hmode : s.fields.mode = .practice := congrArg Activity.mode ha
    rw [ha] at hfits
    rw [hmode]
    exact fields_recordPractice ha hfits
  | boss c fight =>
    have hmode : s.fields.mode = .boss := congrArg Activity.mode ha
    rw [hmode]
    dsimp only
    rw [← hmode]
    rfl

/-- Whatever a right answer means, it leaves the streak and the scores. -/
theorem fits_of_countRight (hfits : (s.countRight now).Fits o) :
    o.Fits counterLimit s.sitting.streak ∧ o.Fits wordLimit s.sitting.score ∧
      o.Fits wordLimit s.profile.totalScore := by
  unfold countRight at hfits
  cases ha : s.sitting.activity with
  | practice c current complete =>
    rw [ha] at hfits
    cases current <;> exact ⟨hfits.streak, hfits.score, hfits.totalScore⟩
  | _ =>
    rw [ha] at hfits
    exact ⟨hfits.streak, hfits.score, hfits.totalScore⟩

theorem fields_recordCorrect {elapsed : Float} {optimal : Bool}
    (hfits : (s.recordCorrect now elapsed optimal).2.Fits o) :
    s.fields.recordCorrect o now elapsed optimal =
      some ((s.recordCorrect now elapsed optimal).1,
        (s.recordCorrect now elapsed optimal).2.fields) := by
  by_cases hin : s.sitting.isInProgress = true
  · let points := s.pointsFor elapsed optimal
    let longer := s.setStreak (s.sitting.streak + 1)
    rw [recordCorrect_of_inProgress hin] at hfits ⊢
    obtain ⟨hstreak, hscore, htotal⟩ := fits_of_countRight hfits
    have hlonger : s.fields.lengthenStreak o = some longer.fields := fields_lengthenStreak hstreak
    have hrewarded : longer.fields.addScore o points = some (s.rewarded points).fields :=
      fields_addScore (s := longer) hscore htotal
    have houtcome : s.fields.outcome = .inProgress := of_decide_eq_true hin
    unfold Fields.recordCorrect
    rw [if_pos houtcome, hlonger]
    show Option.bind (longer.fields.addScore o points) _ = _
    rw [hrewarded, Option.bind_some, fields_countRight hfits]
    rfl
  · have houtcome : s.fields.outcome ≠ .inProgress := fun h => hin (decide_eq_true h)
    rw [recordCorrect_of_not hin, Fields.recordCorrect, if_neg houtcome]

/-- A life less is less, and the last one less is a defeat. -/
theorem fields_loseLife {fight : Fight} (ha : s.sitting.activity = .boss c fight)
    (hfight : fight.outcome = .inProgress) :
    s.fields.loseLife =
      (s.setActivity (.boss c { fight with lives := fight.lives - 1 })).fields := by
  obtain ⟨hstep, -⟩ := Fight.outcome_eq_inProgress hfight
  have houtcome : (if fight.lives - 1 = 0 then Outcome.playerDefeated else fight.outcome) =
      Fight.outcome { fight with lives := fight.lives - 1 } := by
    rw [hfight, Fight.outcome, if_neg (Nat.not_le.2 hstep)]
  rw [← setActivity_self ha]
  exact Fields.eq_of_outcome_current rfl houtcome rfl

theorem fields_recordIncorrect (hfits : (s.recordIncorrect now).Fits o) :
    s.fields.recordIncorrect o now = some (s.recordIncorrect now).fields := by
  by_cases hin : s.sitting.isInProgress = true
  · have houtcome : s.fields.outcome = .inProgress := of_decide_eq_true hin
    unfold recordIncorrect at hfits ⊢
    rw [if_pos hin] at hfits ⊢
    unfold Fields.recordIncorrect
    rw [if_pos houtcome, fields_breakStreak]
    dsimp only at hfits ⊢
    cases ha : s.sitting.activity with
    | idle =>
      have hmode : s.failed.fields.mode = .idle := congrArg Activity.mode ha
      rw [hmode]
      rfl
    | lesson c index =>
      have hmode : s.failed.fields.mode = .lesson := congrArg Activity.mode ha
      rw [hmode]
      rfl
    | practice c current complete =>
      have hmode : s.failed.fields.mode = .practice := congrArg Activity.mode ha
      rw [ha] at hfits
      rw [hmode]
      exact fields_recordPractice (s := s.failed) ha hfits
    | boss c fight =>
      have hmode : s.failed.fields.mode = .boss := congrArg Activity.mode ha
      rw [hmode]
      exact congrArg some (fields_loseLife (s := s.failed) ha (fight_of_isInProgress ha hin))
  · have houtcome : s.fields.outcome ≠ .inProgress := fun h => hin (decide_eq_true h)
    rw [recordIncorrect_of_not hin, Fields.recordIncorrect, if_neg houtcome]

theorem fields_submit {answer : String} {elapsed : Float}
    (hfits : (s.submit now answer elapsed).2.Fits o) :
    s.fields.submit o now answer elapsed =
      some ((s.submit now answer elapsed).1, (s.submit now answer elapsed).2.fields) := by
  have hjudge : s.fields.judge answer = s.judge answer := rfl
  cases hcorrect : (s.judge answer).correct with
  | true =>
    have hsubmit : s.submit now answer elapsed =
        ((s.judge answer, (s.recordCorrect now elapsed (s.judge answer).optimal).1),
          (s.recordCorrect now elapsed (s.judge answer).optimal).2) := by
      rw [submit]
      dsimp only
      rw [if_pos hcorrect]
    rw [hsubmit] at hfits ⊢
    rw [Fields.submit, hjudge]
    dsimp only
    rw [if_pos hcorrect, fields_recordCorrect hfits]
    rfl
  | false =>
    have hsubmit : s.submit now answer elapsed =
        ((s.judge answer, 0), s.recordIncorrect now) := by
      rw [submit]
      dsimp only
      rw [hcorrect]
      rfl
    rw [hsubmit] at hfits ⊢
    rw [Fields.submit, hjudge]
    dsimp only
    rw [hcorrect, if_neg Bool.false_ne_true, fields_recordIncorrect hfits]
    rfl

/-! ## 5. Going on -/

/-- Behind the last lesson, all are done. -/
theorem fields_nextLesson {index : Nat} (ha : s.sitting.activity = .lesson c index)
    (hlessons : s.catalog.lessons c.id = c.lessons) (hin : s.sitting.isInProgress = true) :
    s.fields.advance = (s.advance.1, s.advance.2.fields) := by
  have hmode : s.fields.mode = .lesson := congrArg Activity.mode ha
  have houtcome : s.fields.outcome = .inProgress := of_decide_eq_true hin
  have hcurrent : (s.fields.catalog.lessons s.fields.module)[s.fields.lessonIndex + 1]? =
      c.lessons[index + 1]? := by
    have hmodule : s.fields.module = c.id := fields_module (congrArg Activity.chapter? ha)
    have hindex : s.fields.lessonIndex = index := congrArg Activity.lessonIndex ha
    rw [hmodule, hindex, ← hlessons]
    rfl
  rw [advance, if_pos hin, ha]
  dsimp only
  by_cases hlt : index + 1 < c.lessons.length
  · have hnext : c.lessons[index + 1]? = some c.lessons[index + 1] := List.getElem?_eq_getElem hlt
    have hleft : (Activity.lesson c index).outcome = (Activity.lesson c (index + 1)).outcome := by
      rw [← ha]
      exact houtcome.trans (if_pos hlt).symm
    rw [if_pos hlt, Fields.advance_of_nextLesson houtcome hmode (hcurrent.trans hnext),
      ← setActivity_self ha]
    refine Prod.ext rfl ?_
    exact Fields.eq_of_outcome_current rfl hleft hnext.symm
  · have hnext : c.lessons[index + 1]? = none := List.getElem?_eq_none (Nat.le_of_not_lt hlt)
    have hdone : Outcome.complete = (Activity.lesson c (index + 1)).outcome := (if_neg hlt).symm
    let t := s.setActivity (.lesson c (index + 1))
    have hnoted : t.fields.setProgress (t.fields.progress.completeLessons
        t.fields.progress.lessonsTotal) = (t.noted c .lessonsDone).fields :=
      t.fields_noted .lessonsDone rfl
    rw [if_neg hlt, Fields.advance_of_lastLesson houtcome hmode (hcurrent.trans hnext)]
    refine Prod.ext rfl ?_
    show _ = (t.noted c .lessonsDone).fields
    rw [← hnoted, ← setActivity_self ha]
    exact Fields.eq_of_outcome_current rfl hdone hnext.symm

/-- Behind the last step, the fight is won, since a life is left. -/
theorem fields_nextStep {fight : Fight} (ha : s.sitting.activity = .boss c fight)
    (hin : s.sitting.isInProgress = true) :
    s.fields.advance = (s.advance.1, s.advance.2.fields) := by
  have hmode : s.fields.mode = .boss := congrArg Activity.mode ha
  have houtcome : s.fields.outcome = .inProgress := of_decide_eq_true hin
  have hfight : fight.outcome = .inProgress := fight_of_isInProgress ha hin
  obtain ⟨-, hlives⟩ := Fight.outcome_eq_inProgress hfight
  have hstep : (s.fields.boss.bind fun boss => boss.steps[s.fields.bossStep + 1]?) =
      fight.boss.steps[fight.step + 1]? := by
    have hboss : s.fields.boss = some fight.boss := congrArg (fun a => a.fight?.map Fight.boss) ha
    have hat : s.fields.bossStep = fight.step := congrArg (fun a => a.fight?.elim 0 Fight.step) ha
    rw [hboss, hat]
    rfl
  rw [advance, if_pos hin, ha]
  dsimp only
  by_cases hlt : fight.step + 1 < fight.boss.steps.length
  · have hnext : fight.boss.steps[fight.step + 1]? = some fight.boss.steps[fight.step + 1] :=
      List.getElem?_eq_getElem hlt
    have hleft : fight.outcome = Fight.outcome { fight with step := fight.step + 1 } := by
      rw [hfight, Fight.outcome, if_neg (Nat.not_le.2 hlt), if_neg (Nat.pos_iff_ne_zero.1 hlives)]
    have hcurrent : some fight.boss.steps[fight.step + 1].exercise =
        fight.boss.steps[fight.step + 1]?.map BossStep.exercise := by
      rw [hnext]
      rfl
    rw [decide_eq_true hlt, Fields.advance_of_nextStep houtcome hmode (hstep.trans hnext),
      ← setActivity_self ha]
    refine Prod.ext rfl ?_
    exact Fields.eq_of_outcome_current rfl hleft hcurrent
  · have hnext : fight.boss.steps[fight.step + 1]? = none :=
      List.getElem?_eq_none (Nat.le_of_not_lt hlt)
    have hwon : Outcome.victory = Fight.outcome { fight with step := fight.step + 1 } := by
      rw [Fight.outcome, if_pos (Nat.le_of_not_lt hlt)]
    have hcurrent : none = fight.boss.steps[fight.step + 1]?.map BossStep.exercise := by
      rw [hnext]
      rfl
    rw [decide_eq_false hlt, Fields.advance_of_lastStep houtcome hmode (hstep.trans hnext),
      ← setActivity_self ha]
    refine Prod.ext rfl ?_
    exact Fields.eq_of_outcome_current rfl hwon hcurrent

theorem fields_advance (hs : s.Sound) : s.fields.advance = (s.advance.1, s.advance.2.fields) := by
  by_cases hin : s.sitting.isInProgress = true
  · cases ha : s.sitting.activity with
    | lesson c index => exact fields_nextLesson ha (hs.lessons_eq ha rfl) hin
    | boss c fight => exact fields_nextStep ha hin
    | idle =>
      have hmode : s.fields.mode = .idle := congrArg Activity.mode ha
      have houtcome : s.fields.outcome = .inProgress := of_decide_eq_true hin
      rw [Fields.advance, if_pos houtcome, hmode, advance, if_pos hin, ha]
    | practice c current complete =>
      have hmode : s.fields.mode = .practice := congrArg Activity.mode ha
      have houtcome : s.fields.outcome = .inProgress := of_decide_eq_true hin
      rw [Fields.advance, if_pos houtcome, hmode, advance, if_pos hin, ha]
      exact fields_nextPractice hs
  · have houtcome : s.fields.outcome ≠ .inProgress := fun h => hin (decide_eq_true h)
    rw [Fields.advance, if_neg houtcome, advance, if_neg hin]

theorem fields_setPractice (e : Exercise) : s.fields.setPractice e = (s.setPractice e).fields := by
  obtain ⟨catalog, profile, weights, words, ⟨activity, streak, combo, score, elapsed⟩⟩ := s
  cases activity <;> rfl

/-- A won fight is credited, and its boss counts as defeated. -/
theorem fields_credit {fight : Fight} (ha : s.sitting.activity = .boss c fight) :
    { s.fields with
      victoryRecorded := true, profile := s.profile.markBossDefeated s.fields.module } =
    Session.fields { s.setActivity (.boss c { fight with credited := true }) with
      profile := s.profile.markBossDefeated c.id } := by
  rw [← setActivity_self ha]
  rfl

/-- What keeps a win from being credited. -/
theorem fields_not_won_iff {fight : Fight} (ha : s.sitting.activity = .boss c fight) :
    (s.fields.mode ≠ .boss ∨ s.fields.outcome ≠ .victory ∨ s.fields.victoryRecorded = true) ↔
      ¬ (decide (fight.outcome = .victory) && !fight.credited) = true := by
  have hmode : s.fields.mode = .boss := congrArg Activity.mode ha
  have houtcome : s.fields.outcome = fight.outcome := congrArg Activity.outcome ha
  have hrecorded : s.fields.victoryRecorded = fight.credited :=
    congrArg (fun a => a.fight?.any Fight.credited) ha
  rw [hmode, houtcome, hrecorded, Bool.and_eq_true_iff, decide_eq_true_iff, Bool.not_eq_true',
    Classical.not_and_iff_not_or_not, Bool.not_eq_false]
  exact or_iff_right fun hne => hne rfl

/-- The win is recorded in the module of the sitting. -/
theorem fields_recordVictory (hfits : s.recordVictory.2.Fits o) :
    s.fields.recordVictory o = some (s.recordVictory.1, s.recordVictory.2.fields) := by
  cases ha : s.sitting.activity with
  | boss c fight =>
    have hcredits := fields_not_won_iff ha
    unfold recordVictory at hfits ⊢
    rw [ha] at hfits ⊢
    dsimp only at hfits ⊢
    by_cases hwon : (decide (fight.outcome = .victory) && !fight.credited) = true
    · rw [if_pos hwon] at hfits ⊢
      let credited := s.setActivity (.boss c { fight with credited := true })
      let marked : Session := { credited with profile := credited.profile.markBossDefeated c.id }
      let noted := marked.noted c (.won s.sitting.elapsed fight.lives)
      let counted : Fields := { s.fields with
        victoryRecorded := true
        profile := s.profile.markBossDefeated s.fields.module }
      have hlives : s.fields.bossLives = fight.lives :=
        congrArg (fun a => a.fight?.elim 0 Fight.lives) ha
      have hmarked : counted = marked.fields := fields_credit ha
      have hwritten : marked.fields.setProgress
          (marked.fields.progress.recordBossWin s.sitting.elapsed fight.lives) = noted.fields :=
        marked.fields_noted (.won s.sitting.elapsed fight.lives) rfl
      have hscored : noted.fields.addScore o victoryBonus =
          some (noted.addScore victoryBonus).fields :=
        fields_addScore hfits.score hfits.totalScore
      unfold Fields.recordVictory
      rw [if_neg fun hrefuses => hcredits.1 hrefuses hwon]
      show Option.bind ((counted.setProgress
        (counted.progress.recordBossWin s.sitting.elapsed s.fields.bossLives)).addScore o
          victoryBonus) _ = _
      rw [hlives, hmarked, hwritten, hscored]
      rfl
    · rw [if_neg hwon, Fields.recordVictory, if_pos (hcredits.2 hwon)]
  | _ =>
    have hmode : s.fields.mode ≠ .boss := by
      rw [show s.fields.mode = _ from congrArg Activity.mode ha]
      exact Mode.noConfusion
    rw [Fields.recordVictory, if_pos (.inl hmode), recordVictory, ha]

theorem fields_addElapsed {spent : Duration} (hfits : (s.addElapsed spent).Fits o) :
    s.fields.addElapsed o spent = some (s.addElapsed spent).fields := by
  have helapsed : o.addTime s.fields.elapsed spent = some (s.sitting.elapsed + spent) :=
    Overflow.addTime_of_fits hfits.elapsed
  have htotal : o.addTime s.fields.profile.totalTime spent = some (s.profile.totalTime + spent) :=
    Overflow.addTime_of_fits hfits.totalTime
  simp only [Fields.addElapsed, helapsed, htotal, Option.bind_eq_bind, Option.bind_some]
  rfl

/-! ## 6. Requests -/

/-- **Every request gets the same reply and leaves the same fields**, as long as the numbers of the
session that it comes to fit. -/
theorem serve_fields (hs : s.Sound) (r : Request) (hfits : (s.serve r).2.Fits o) :
    s.fields.serve o r = some ((s.serve r).1, (s.serve r).2.fields) := by
  cases r with
  | startLesson now module => exact congrArg some (fields_startLesson hfits)
  | startPractice now module => exact congrArg some fields_startPractice
  | startBoss now module => exact fields_startBoss hfits
  | submit now answer elapsed =>
    rw [Fields.serve, fields_submit hfits]
    rfl
  | recordCorrect now elapsed optimal =>
    rw [Fields.serve, fields_recordCorrect hfits]
    rfl
  | recordIncorrect now =>
    rw [Fields.serve, fields_recordIncorrect hfits]
    rfl
  | advance =>
    rw [Fields.serve, fields_advance hs]
    rfl
  | nextPractice =>
    rw [Fields.serve, fields_nextPractice hs]
    rfl
  | setPractice e =>
    rw [Fields.serve, fields_setPractice]
    rfl
  | recordVictory =>
    rw [Fields.serve, fields_recordVictory hfits]
    rfl
  | addElapsed time =>
    rw [Fields.serve, fields_addElapsed hfits]
    rfl
  | setWeights weights => rfl
  | reset => rfl

/-- **Whatever a session is asked, its fields come to what it shows**, as long as its numbers
fit. -/
theorem run_fields (hs : s.Sound) (requests : List Request)
    (hfits : ∀ n, (s.run (requests.take n)).Fits o) :
    s.fields.run o requests = some (s.run requests).fields := by
  induction requests generalizing s with
  | nil => rfl
  | cons r requests ih =>
    have hstep : s.fields.serve o r = some ((s.serve r).1, (s.serve r).2.fields) :=
      serve_fields hs r (hfits 1)
    rw [Fields.run, hstep]
    exact ih (sound_turn hs (turn_serve s r)) fun n => hfits (n + 1)

end Session

end MotionTutor
