import Mathlib.Data.List.Infix
import MotionTutor.Proofs.Fields.Simulation
import MotionTutor.Proofs.Session.Fight

/-!
# Where the fields stand

The fields of a session are written one after the other, and still they agree with one another, with
the catalog and with the profile (`Fields.Standing`): whatever is asked, in whatever order, and
whether or not a counter goes on from zero on the way (`Fields.run_stands`).

* Most operations only count. They leave everything that says where a session stands
  (`Fields.SamePlace`), and defeated bosses stay defeated, so an open module stays open.
* The others are few: a start, a life lost, a step on, a draw, a choice, the end. A fight begins
  with a step to do and a life to lose because every boss of a catalog has both; from then on a step
  is done, or a life lost, only while the fight goes on.
-/

namespace MotionTutor

namespace Fields

/-! ## 1. Standing -/

section Standing

variable (s : Fields)

/-- The module is in the catalog and open. -/
structure IsOpen : Prop where
  listed : (s.catalog.chapter? s.module).isSome = true
  unlocked : s.profile.isUnlocked s.catalog.order s.module = true

/-- Lessons are at one that is left, or behind the last one. -/
def LessonStands : Prop :=
  let lessons := s.catalog.lessons s.module
  (s.outcome = .inProgress ∧ s.lessonIndex < lessons.length ∧
      s.current = lessons[s.lessonIndex]?) ∨
    (s.outcome = .complete ∧ s.lessonIndex = lessons.length ∧ s.current = none)

/-- Practice goes on with an exercise, or is complete. -/
def PracticeStands : Prop :=
  (s.outcome = .inProgress ∧ s.current.isSome = true) ∨ s.outcome = .complete

/-- A fight with a boss goes on with a step to do and a life to lose, or it is lost with the last
life, or won behind the last step. -/
def FightStands (boss : Boss) : Prop :=
  match s.outcome with
  | .inProgress =>
    1 ≤ s.bossLives ∧ s.bossLives ≤ boss.lives ∧ s.bossStep < boss.steps.length ∧
      s.current = boss.steps[s.bossStep]?.map BossStep.exercise
  | .playerDefeated => s.bossLives = 0 ∧ s.bossStep < boss.steps.length
  | .victory =>
    s.bossStep = boss.steps.length ∧ s.current = none ∧ 1 ≤ s.bossLives ∧ s.bossLives ≤ boss.lives
  | .complete => False

end Standing

/-- The fields agree with one another, with the catalog and with the profile. -/
structure Standing (catalog : Catalog) (s : Fields) : Prop where
  catalog : s.catalog = catalog
  idle : s.mode = .idle →
    s.outcome = .inProgress ∧ s.module = "" ∧ s.current = none ∧ s.boss = none
  isOpen : s.mode ≠ .idle → s.IsOpen
  lesson : s.mode = .lesson → s.LessonStands
  practice : s.mode = .practice → s.PracticeStands
  boss : s.mode = .boss →
    ∃ boss, s.boss = some boss ∧ s.catalog.boss? s.module = some boss ∧ s.FightStands boss

variable {o : Overflow} {catalog : Catalog} {s t : Fields} {now : Instant} {module : String}
  {mode : Mode}

theorem fightStands_iff {boss : Boss} (hin : s.outcome = .inProgress) :
    s.FightStands boss ↔
      1 ≤ s.bossLives ∧ s.bossLives ≤ boss.lives ∧ s.bossStep < boss.steps.length ∧
        s.current = boss.steps[s.bossStep]?.map BossStep.exercise := by
  unfold FightStands
  rw [hin]

theorem Standing.isOpen_of_mode (hs : s.Standing catalog) (hmode : s.mode = mode)
    (hne : mode ≠ .idle) : s.IsOpen :=
  hs.isOpen (hmode ▸ hne)

theorem standing_of_lesson (hcatalog : s.catalog = catalog) (hmode : s.mode = .lesson)
    (hopen : s.IsOpen) (h : s.LessonStands) : s.Standing catalog where
  catalog := hcatalog
  idle hidle := absurd (hmode.symm.trans hidle) Mode.noConfusion
  isOpen _ := hopen
  lesson _ := h
  practice hpractice := absurd (hmode.symm.trans hpractice) Mode.noConfusion
  boss hboss := absurd (hmode.symm.trans hboss) Mode.noConfusion

theorem standing_of_practice (hcatalog : s.catalog = catalog) (hmode : s.mode = .practice)
    (hopen : s.IsOpen) (h : s.PracticeStands) : s.Standing catalog where
  catalog := hcatalog
  idle hidle := absurd (hmode.symm.trans hidle) Mode.noConfusion
  isOpen _ := hopen
  lesson hlesson := absurd (hmode.symm.trans hlesson) Mode.noConfusion
  practice _ := h
  boss hboss := absurd (hmode.symm.trans hboss) Mode.noConfusion

theorem standing_of_boss (hcatalog : s.catalog = catalog) (hmode : s.mode = .boss)
    (hopen : s.IsOpen) {boss : Boss} (hboss : s.boss = some boss)
    (hlisted : s.catalog.boss? s.module = some boss) (h : s.FightStands boss) :
    s.Standing catalog where
  catalog := hcatalog
  idle hidle := absurd (hmode.symm.trans hidle) Mode.noConfusion
  isOpen _ := hopen
  lesson hlesson := absurd (hmode.symm.trans hlesson) Mode.noConfusion
  practice hpractice := absurd (hmode.symm.trans hpractice) Mode.noConfusion
  boss _ := ⟨boss, hboss, hlisted, h⟩

/-! ## 2. Counting -/

/-- Nothing is written that says where the session stands, and no boss recovers. -/
structure SamePlace (s t : Fields) : Prop where
  catalog : t.catalog = s.catalog
  mode : t.mode = s.mode
  outcome : t.outcome = s.outcome
  module : t.module = s.module
  current : t.current = s.current
  lessonIndex : t.lessonIndex = s.lessonIndex
  boss : t.boss = s.boss
  bossStep : t.bossStep = s.bossStep
  bossLives : t.bossLives = s.bossLives
  bossesDefeated : s.profile.bossesDefeated ⊆ t.profile.bossesDefeated

namespace SamePlace

theorem refl (s : Fields) : s.SamePlace s :=
  ⟨rfl, rfl, rfl, rfl, rfl, rfl, rfl, rfl, rfl, List.Subset.refl _⟩

theorem trans {u : Fields} (h : s.SamePlace t) (h' : t.SamePlace u) : s.SamePlace u where
  catalog := h'.catalog.trans h.catalog
  mode := h'.mode.trans h.mode
  outcome := h'.outcome.trans h.outcome
  module := h'.module.trans h.module
  current := h'.current.trans h.current
  lessonIndex := h'.lessonIndex.trans h.lessonIndex
  boss := h'.boss.trans h.boss
  bossStep := h'.bossStep.trans h.bossStep
  bossLives := h'.bossLives.trans h.bossLives
  bossesDefeated := List.Subset.trans h.bossesDefeated h'.bossesDefeated

/-- The fields that may be written, if bosses stay defeated. -/
theorem of_counts {profile : Profile} {weights : Weights} {victoryRecorded : Bool}
    {streak combo score : Nat} {elapsed : Duration}
    (h : s.profile.bossesDefeated ⊆ profile.bossesDefeated) :
    s.SamePlace { s with profile, weights, victoryRecorded, streak, combo, score, elapsed } :=
  ⟨rfl, rfl, rfl, rfl, rfl, rfl, rfl, rfl, rfl, h⟩

theorem setProgress (s : Fields) (p : Progress) : s.SamePlace (s.setProgress p) :=
  of_counts (List.Subset.refl _)

theorem isOpen (h : s.SamePlace t) (hopen : s.IsOpen) : t.IsOpen where
  listed := by
    rw [h.catalog, h.module]
    exact hopen.listed
  unlocked := by
    rw [h.catalog, h.module]
    exact Profile.isUnlocked_mono h.bossesDefeated hopen.unlocked

/-- Where a session stands is a matter of its place. -/
theorem standing (h : s.SamePlace t) (hs : s.Standing catalog) : t.Standing catalog where
  catalog := h.catalog.trans hs.catalog
  idle hmode := by
    rw [h.outcome, h.module, h.current, h.boss]
    exact hs.idle (h.mode ▸ hmode)
  isOpen hmode := h.isOpen (hs.isOpen (h.mode ▸ hmode))
  lesson hmode := by
    unfold LessonStands
    rw [h.outcome, h.module, h.current, h.catalog, h.lessonIndex]
    exact hs.lesson (h.mode ▸ hmode)
  practice hmode := by
    unfold PracticeStands
    rw [h.outcome, h.current]
    exact hs.practice (h.mode ▸ hmode)
  boss hmode := by
    unfold FightStands
    rw [h.outcome, h.module, h.current, h.catalog, h.boss, h.bossStep, h.bossLives]
    exact hs.boss (h.mode ▸ hmode)

theorem lengthenStreak (h : s.lengthenStreak o = some t) : s.SamePlace t := by
  simp only [Fields.lengthenStreak, Option.bind_eq_bind, Option.bind_eq_some_iff] at h
  obtain ⟨streak, -, h⟩ := h
  cases h
  exact of_counts (List.Subset.refl _)

theorem breakStreak (s : Fields) : s.SamePlace s.breakStreak :=
  of_counts (List.Subset.refl _)

theorem addScore {points : Nat} (h : s.addScore o points = some t) : s.SamePlace t := by
  simp only [Fields.addScore, Option.bind_eq_bind, Option.bind_eq_some_iff] at h
  obtain ⟨score, -, total, -, h⟩ := h
  cases h
  exact of_counts (List.Subset.refl _)

theorem recordPractice {correct : Bool} (h : s.recordPractice o now correct = some t) :
    s.SamePlace t := by
  unfold Fields.recordPractice at h
  cases hcurrent : s.current with
  | none =>
    rw [hcurrent] at h
    cases h
    exact refl s
  | some e =>
    rw [hcurrent] at h
    obtain ⟨p, -, h⟩ := Option.bind_eq_some_iff.1 h
    cases h
    exact setProgress s p

theorem addElapsed {spent : Duration} (h : s.addElapsed o spent = some t) : s.SamePlace t := by
  simp only [Fields.addElapsed, Option.bind_eq_bind, Option.bind_eq_some_iff] at h
  obtain ⟨elapsed, -, total, -, h⟩ := h
  cases h
  exact of_counts (List.Subset.refl _)

theorem countRight (h : s.countRight o now = some t) : s.SamePlace t := by
  unfold Fields.countRight at h
  split at h
  · cases h
    exact setProgress s _
  · exact recordPractice h
  · cases h
    exact of_counts (List.Subset.refl _)
  · cases h
    exact refl s

/-- A right answer changes what is counted, and nothing else. -/
theorem recordCorrect {elapsed : Float} {optimal : Bool} {points : Nat}
    (h : s.recordCorrect o now elapsed optimal = some (points, t)) : s.SamePlace t := by
  unfold Fields.recordCorrect at h
  split at h
  · simp only [Option.bind_eq_bind, Option.bind_eq_some_iff] at h
    obtain ⟨s₁, hstreak, s₂, hscore, s₃, hright, h⟩ := h
    cases h
    exact ((lengthenStreak hstreak).trans (addScore hscore)).trans (countRight hright)
  · cases h
    exact refl s

/-- So does the credit for a win, with which one more boss may count as defeated. -/
theorem recordVictory {won : Bool} (h : s.recordVictory o = some (won, t)) : s.SamePlace t := by
  unfold Fields.recordVictory at h
  split at h
  · cases h
    exact refl s
  · obtain ⟨u, hscore, h⟩ := Option.bind_eq_some_iff.1 h
    cases h
    have hmarked : s.SamePlace { s with
        victoryRecorded := true, profile := s.profile.markBossDefeated s.module } :=
      of_counts (s.profile.subset_markBossDefeated s.module)
    exact (hmarked.trans (setProgress _ _)).trans (addScore hscore)

end SamePlace

/-! ## 3. Starts -/

/-- A sitting begins in an open module, or nothing changes. -/
theorem begin_cases (s : Fields) (now : Instant) (module : String) (mode : Mode) :
    (∃ refusal, s.begin now module mode = (some refusal, s)) ∨
      (s.enter now module mode).IsOpen ∧
        s.begin now module mode = (none, s.enter now module mode) := by
  cases hlisted : s.catalog.chapter? module with
  | none => exact .inl ⟨_, begin_of_unknown hlisted⟩
  | some c =>
    cases hopen : s.profile.isUnlocked s.catalog.order module with
    | false => exact .inl ⟨_, begin_of_locked hlisted hopen⟩
    | true =>
      refine .inr ⟨⟨?_, hopen⟩, begin_of_open hlisted hopen⟩
      show (s.catalog.chapter? module).isSome = true
      rw [hlisted]
      rfl

theorem standing_startLesson (hs : s.Standing catalog) :
    (s.startLesson o now module).2.Standing catalog := by
  unfold startLesson
  rcases s.begin_cases now module .lesson with ⟨refusal, hbegin⟩ | ⟨hopen, hbegin⟩
  · rw [hbegin]
    exact hs
  · rw [hbegin]
    refine standing_of_lesson hs.catalog rfl ⟨hopen.listed, hopen.unlocked⟩ ?_
    show ((if (s.catalog.lessons module).head?.isNone then Outcome.complete else .inProgress) =
          .inProgress ∧ 0 < (s.catalog.lessons module).length ∧
          (s.catalog.lessons module).head? = (s.catalog.lessons module)[0]?) ∨
        ((if (s.catalog.lessons module).head?.isNone then Outcome.complete else .inProgress) =
          .complete ∧ 0 = (s.catalog.lessons module).length ∧
          (s.catalog.lessons module).head? = none)
    cases s.catalog.lessons module with
    | nil => exact .inr ⟨rfl, rfl, rfl⟩
    | cons e lessons => exact .inl ⟨rfl, Nat.succ_pos _, rfl⟩

/-- A draw leaves practice with an exercise, or completes it. -/
theorem standing_nextPractice_of_practice (hcatalog : s.catalog = catalog)
    (hmode : s.mode = .practice) (hopen : s.IsOpen)
    (houtcome : s.outcome = .inProgress ∨ s.outcome = .complete) :
    s.nextPractice.2.Standing catalog := by
  cases hdrawn : Practice.select s.weights s.progress (s.catalog.lessons s.module) s.words with
  | mk drawn words =>
    cases drawn with
    | some e =>
      rw [nextPractice_of_some hmode hdrawn]
      exact standing_of_practice hcatalog hmode ⟨hopen.listed, hopen.unlocked⟩
        (houtcome.imp (fun hin => ⟨hin, rfl⟩) id)
    | none =>
      rw [nextPractice_of_none hmode hdrawn]
      exact standing_of_practice hcatalog hmode ⟨hopen.listed, hopen.unlocked⟩ (.inr rfl)

theorem standing_nextPractice (hs : s.Standing catalog) : s.nextPractice.2.Standing catalog := by
  by_cases hmode : s.mode = .practice
  · have hopen : s.IsOpen := hs.isOpen_of_mode hmode Mode.noConfusion
    exact standing_nextPractice_of_practice hs.catalog hmode hopen
      ((hs.practice hmode).imp And.left id)
  · rw [nextPractice, if_neg hmode]
    exact hs

theorem standing_startPractice (hs : s.Standing catalog) :
    (s.startPractice now module).2.Standing catalog := by
  unfold startPractice
  rcases s.begin_cases now module .practice with ⟨refusal, hbegin⟩ | ⟨hopen, hbegin⟩
  · rw [hbegin]
    exact hs
  · rw [hbegin]
    exact standing_nextPractice_of_practice hs.catalog rfl hopen (.inl rfl)

theorem standing_startBoss (hs : s.Standing catalog) {reply : Reply}
    (h : s.startBoss o now module = some (reply, t)) : t.Standing catalog := by
  unfold startBoss at h
  cases hboss : s.catalog.boss? module with
  | none =>
    rw [hboss] at h
    cases h
    exact hs
  | some boss =>
    rw [hboss] at h
    dsimp only at h
    rcases s.begin_cases now module .boss with ⟨refusal, hbegin⟩ | ⟨hopen, hbegin⟩
    · rw [hbegin] at h
      cases h
      exact hs
    · rw [hbegin] at h
      obtain ⟨attempts, -, h⟩ := Option.bind_eq_some_iff.1 h
      cases h
      obtain ⟨hsteps, hlives⟩ := Catalog.fightable_of_boss? hboss
      refine standing_of_boss hs.catalog rfl ⟨hopen.listed, hopen.unlocked⟩ rfl hboss ?_
      refine ⟨hlives, Nat.le_refl _, List.length_pos_iff.2 hsteps, ?_⟩
      show boss.steps.head?.map BossStep.exercise = boss.steps[0]?.map BossStep.exercise
      rw [List.head?_eq_getElem?]

/-! ## 4. Going on -/

/-- A life is lost while the fight goes on; the last one is a defeat. -/
theorem standing_loseLife (hs : s.Standing catalog) (hmode : s.mode = .boss)
    (hin : s.outcome = .inProgress) : s.loseLife.Standing catalog := by
  obtain ⟨boss, hboss, hlisted, hfight⟩ := hs.boss hmode
  have hopen : s.IsOpen := hs.isOpen_of_mode hmode Mode.noConfusion
  obtain ⟨hlives, hle, hstep, hcurrent⟩ := (fightStands_iff hin).1 hfight
  refine standing_of_boss hs.catalog hmode ⟨hopen.listed, hopen.unlocked⟩ hboss hlisted ?_
  by_cases hlast : s.bossLives - 1 = 0
  · have houtcome : s.loseLife.outcome = .playerDefeated := if_pos hlast
    unfold FightStands
    rw [houtcome]
    exact ⟨hlast, hstep⟩
  · have houtcome : s.loseLife.outcome = .inProgress := (if_neg hlast).trans hin
    unfold FightStands
    rw [houtcome]
    exact ⟨Nat.pos_iff_ne_zero.2 hlast, Nat.le_trans (Nat.sub_le _ _) hle, hstep, hcurrent⟩

theorem standing_recordIncorrect (hs : s.Standing catalog)
    (h : s.recordIncorrect o now = some t) : t.Standing catalog := by
  unfold recordIncorrect at h
  split at h
  · rename_i hin
    have hbroken : s.breakStreak.Standing catalog := (SamePlace.breakStreak s).standing hs
    dsimp only at h
    split at h
    · exact (SamePlace.recordPractice h).standing hbroken
    · rename_i hmode
      cases h
      exact standing_loseLife hbroken hmode hin
    · cases h
      exact hbroken
    · cases h
      exact hbroken
  · cases h
    exact hs

theorem standing_submit (hs : s.Standing catalog) {answer : String} {elapsed : Float}
    {judged : Verdict × Nat} (h : s.submit o now answer elapsed = some (judged, t)) :
    t.Standing catalog := by
  unfold submit at h
  dsimp only at h
  split at h
  · obtain ⟨⟨points, u⟩, hcorrect, h⟩ := Option.bind_eq_some_iff.1 h
    cases h
    exact (SamePlace.recordCorrect hcorrect).standing hs
  · obtain ⟨u, hincorrect, h⟩ := Option.bind_eq_some_iff.1 h
    cases h
    exact standing_recordIncorrect hs hincorrect

/-- Lessons go on to the next one, and behind the last one they are complete. -/
theorem standing_nextLesson (hs : s.Standing catalog) (hmode : s.mode = .lesson)
    (hin : s.outcome = .inProgress) : s.advance.2.Standing catalog := by
  have hopen : s.IsOpen := hs.isOpen_of_mode hmode Mode.noConfusion
  have hlt : s.lessonIndex < (s.catalog.lessons s.module).length := by
    rcases hs.lesson hmode with ⟨-, hlt, -⟩ | ⟨hcomplete, -⟩
    · exact hlt
    · cases hin.symm.trans hcomplete
  cases hnext : (s.catalog.lessons s.module)[s.lessonIndex + 1]? with
  | some next =>
    obtain ⟨hleft, -⟩ := List.getElem?_eq_some_iff.1 hnext
    rw [advance_of_nextLesson hin hmode hnext]
    exact standing_of_lesson hs.catalog hmode ⟨hopen.listed, hopen.unlocked⟩
      (.inl ⟨hin, hleft, hnext.symm⟩)
  | none =>
    have hlast := List.getElem?_eq_none_iff.1 hnext
    rw [advance_of_lastLesson hin hmode hnext]
    exact standing_of_lesson hs.catalog hmode ⟨hopen.listed, hopen.unlocked⟩
      (.inr ⟨rfl, Nat.le_antisymm hlt hlast, rfl⟩)

/-- A fight goes on to the next step, and behind the last one it is won. -/
theorem standing_nextStep (hs : s.Standing catalog) (hmode : s.mode = .boss)
    (hin : s.outcome = .inProgress) : s.advance.2.Standing catalog := by
  obtain ⟨boss, hboss, hlisted, hfight⟩ := hs.boss hmode
  have hopen : s.IsOpen := hs.isOpen_of_mode hmode Mode.noConfusion
  obtain ⟨hlives, hle, hstep, -⟩ := (fightStands_iff hin).1 hfight
  have hstepOf : (s.boss.bind fun boss => boss.steps[s.bossStep + 1]?) =
      boss.steps[s.bossStep + 1]? := by
    rw [hboss]
    rfl
  cases hnext : boss.steps[s.bossStep + 1]? with
  | some step =>
    obtain ⟨hleft, -⟩ := List.getElem?_eq_some_iff.1 hnext
    have hcurrent : some step.exercise = boss.steps[s.bossStep + 1]?.map BossStep.exercise := by
      rw [hnext]
      rfl
    let t := { s with bossStep := s.bossStep + 1 }.present step.exercise
    rw [advance_of_nextStep hin hmode (hstepOf.trans hnext)]
    exact standing_of_boss hs.catalog hmode ⟨hopen.listed, hopen.unlocked⟩ hboss hlisted
      ((fightStands_iff (s := t) hin).2 ⟨hlives, hle, hleft, hcurrent⟩)
  | none =>
    have hlast := List.getElem?_eq_none_iff.1 hnext
    rw [advance_of_lastStep hin hmode (hstepOf.trans hnext)]
    exact standing_of_boss hs.catalog hmode ⟨hopen.listed, hopen.unlocked⟩ hboss hlisted
      ⟨Nat.le_antisymm hstep hlast, rfl, hlives, hle⟩

theorem standing_advance (hs : s.Standing catalog) : s.advance.2.Standing catalog := by
  by_cases hin : s.outcome = .inProgress
  · cases hmode : s.mode with
    | lesson => exact standing_nextLesson hs hmode hin
    | boss => exact standing_nextStep hs hmode hin
    | idle =>
      rw [advance, if_pos hin, hmode]
      exact hs
    | practice =>
      rw [advance, if_pos hin, hmode]
      exact standing_nextPractice hs
  · rw [advance, if_neg hin]
    exact hs

theorem standing_setPractice (hs : s.Standing catalog) (e : Exercise) :
    (s.setPractice e).Standing catalog := by
  by_cases hmode : s.mode = .practice
  · have hopen : s.IsOpen := hs.isOpen_of_mode hmode Mode.noConfusion
    rw [setPractice, if_pos hmode]
    exact standing_of_practice hs.catalog hmode ⟨hopen.listed, hopen.unlocked⟩ (.inl ⟨rfl, rfl⟩)
  · rw [setPractice, if_neg hmode]
    exact hs

/-! ## 5. Requests -/

theorem standing_of_idle (hcatalog : s.catalog = catalog) (hmode : s.mode = .idle)
    (houtcome : s.outcome = .inProgress) (hmodule : s.module = "") (hcurrent : s.current = none)
    (hboss : s.boss = none) : s.Standing catalog where
  catalog := hcatalog
  idle _ := ⟨houtcome, hmodule, hcurrent, hboss⟩
  isOpen hne := absurd hmode hne
  lesson hlesson := absurd (hmode.symm.trans hlesson) Mode.noConfusion
  practice hpractice := absurd (hmode.symm.trans hpractice) Mode.noConfusion
  boss hboss := absurd (hmode.symm.trans hboss) Mode.noConfusion

/-- **Every request keeps the fields in agreement.** -/
theorem standing_serve (hs : s.Standing catalog) {r : Request} {reply : Reply}
    (h : s.serve o r = some (reply, t)) : t.Standing catalog := by
  cases r with
  | startLesson now module =>
    have ht : (s.startLesson o now module).2 = t := congrArg Prod.snd (Option.some.inj h)
    rw [← ht]
    exact standing_startLesson hs
  | startPractice now module =>
    have ht : (s.startPractice now module).2 = t := congrArg Prod.snd (Option.some.inj h)
    rw [← ht]
    exact standing_startPractice hs
  | startBoss now module => exact standing_startBoss hs h
  | submit now answer elapsed =>
    obtain ⟨⟨judged, u⟩, hsubmit, h⟩ := Option.map_eq_some_iff.1 h
    cases h
    exact standing_submit hs hsubmit
  | recordCorrect now elapsed optimal =>
    obtain ⟨⟨points, u⟩, hcorrect, h⟩ := Option.map_eq_some_iff.1 h
    cases h
    exact (SamePlace.recordCorrect hcorrect).standing hs
  | recordIncorrect now =>
    obtain ⟨u, hincorrect, h⟩ := Option.map_eq_some_iff.1 h
    cases h
    exact standing_recordIncorrect hs hincorrect
  | advance =>
    cases h
    exact standing_advance hs
  | nextPractice =>
    cases h
    exact standing_nextPractice hs
  | setPractice e =>
    cases h
    exact standing_setPractice hs e
  | recordVictory =>
    obtain ⟨⟨won, u⟩, hvictory, h⟩ := Option.map_eq_some_iff.1 h
    cases h
    exact (SamePlace.recordVictory hvictory).standing hs
  | addElapsed time =>
    obtain ⟨u, helapsed, h⟩ := Option.map_eq_some_iff.1 h
    cases h
    exact (SamePlace.addElapsed helapsed).standing hs
  | setWeights weights =>
    cases h
    have hplace : s.SamePlace (s.setWeights weights) := .of_counts (List.Subset.refl _)
    exact hplace.standing hs
  | reset =>
    cases h
    exact standing_of_idle hs.catalog rfl rfl rfl rfl rfl

theorem standing_run {profile : Profile} {words : Words} {requests : List Request}
    (h : (start catalog profile words).run o requests = some t) : t.Standing catalog :=
  run_induction h (standing_of_idle rfl rfl rfl rfl rfl rfl) fun _ _ _ _ hs hserve =>
    standing_serve hs hserve

/-- **Whatever a session is asked, its fields agree.** They do with counters of any width, for as
long as the program goes on; they do for what `Session.run` comes to; and that is what the fields
are as long as all numbers fit. -/
theorem run_stands (o : Overflow) (catalog : Catalog) (profile : Profile) (words : Words)
    (requests : List Request) :
    let session := fun n => (Session.start catalog profile words).run (requests.take n)
    (∀ t, (start catalog profile words).run o requests = some t → t.Standing catalog) ∧
      (∀ n, (session n).fields.Standing catalog) ∧
      ((∀ n, (session n).Fits o) →
        (start catalog profile words).run o requests =
          some ((Session.start catalog profile words).run requests).fields) := by
  intro session
  have hsound : (Session.start catalog profile words).Sound := Session.sound_of_idle rfl
  refine ⟨fun t => standing_run, fun n => ?_, fun hfits => ?_⟩
  · exact standing_run (Session.run_fields hsound (requests.take n) fun _ =>
      Session.fits_unbounded _)
  · exact Session.run_fields hsound requests hfits

/-- The player loses both lives at the first step, with counters that go on from zero. -/
theorem run_stands_defeated :
    let requests : List Request :=
      [.startBoss ⟨0, 0⟩ "lines", .recordIncorrect ⟨1, 0⟩, .recordIncorrect ⟨2, 0⟩]
    (∀ n, ((Session.start .twoLives .fresh (.ofList [])).run (requests.take n)).Fits .wraps) ∧
      ∃ t, (start .twoLives .fresh (.ofList [])).run .wraps requests = some t ∧
        t.Standing .twoLives ∧ t.outcome = .playerDefeated ∧ t.bossLives = 0 := by
  intro requests
  have hinits : ∀ served ∈ requests.inits,
      ((Session.start .twoLives .fresh (.ofList [])).run served).Fits .wraps := by
    decide +revert
  have hfits : ∀ n,
      ((Session.start .twoLives .fresh (.ofList [])).run (requests.take n)).Fits .wraps :=
    fun n => hinits _ ((List.mem_inits _ _).2 (List.take_prefix n requests))
  obtain ⟨hstands, -, hfields⟩ := run_stands .wraps .twoLives .fresh (.ofList []) requests
  exact ⟨hfits, _, hfields hfits, hstands _ (hfields hfits), rfl, rfl⟩

end Fields

end MotionTutor
