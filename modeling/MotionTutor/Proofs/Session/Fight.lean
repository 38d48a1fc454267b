import MotionTutor.Proofs.Session.Answers

/-!
# Fights by their answers

Between its challenge and the next sitting, a fight is a function of the answers that counted in it
(`Session.startBoss_fought`): the wrong ones are the lives that are lost, the right ones since the
last wrong one are the streak, and the streak makes the combo, by which a right answer brings points.

The invariant is `Session.Fought`. It says nothing of the steps: going on, credits and time are quiet
moves in a fight (`Session.FightMove`), and only a right or a wrong answer makes another history.
Counters have no limit here; see `Session.run_fields` for those that have.
-/

namespace MotionTutor

/-! ## 1. Histories -/

/-- The right answers since the last wrong one. The latest answer comes first. -/
def rightInARow (answers : List Bool) : Nat := (answers.takeWhile id).length

@[simp]
theorem rightInARow_right (answers : List Bool) :
    rightInARow (true :: answers) = rightInARow answers + 1 := rfl

@[simp]
theorem rightInARow_wrong (answers : List Bool) : rightInARow (false :: answers) = 0 := rfl

namespace Event

variable {e : Event} {past : List Event}

theorem answers_cons :
    answers (e :: past) = (e.answer?.elim (answers past) (· :: answers past)) := by
  unfold answers
  rw [List.filterMap_cons]
  cases e.answer? <;> rfl

end Event

/-! ## 2. Moves in a fight -/

namespace Session

/-- What a turn with this verdict does to a fight that goes on, with the session after it. -/
inductive FightMove (s : Session) (c : Chapter) (fight : Fight) : Option Bool → Session → Prop
  /-- A right answer makes streak and combo grow. -/
  | right {t : Session} (hin : fight.outcome = .inProgress)
    (ha : t.sitting.activity = .boss c fight)
    (hstreak : t.sitting.streak = s.sitting.streak + 1)
    (hcombo : t.sitting.combo = min maxCombo (s.sitting.combo + 1)) :
    FightMove s c fight (some true) t
  /-- A wrong one costs a life and ends both. -/
  | wrong {t : Session} (hin : fight.outcome = .inProgress)
    (ha : t.sitting.activity = .boss c { fight with lives := fight.lives - 1 })
    (hstreak : t.sitting.streak = 0) (hcombo : t.sitting.combo = 1) :
    FightMove s c fight (some false) t
  /-- Anything else leaves the lives, and it does not save a fight that is lost. -/
  | quiet {t : Session} (fight' : Fight) (ha : t.sitting.activity = .boss c fight')
    (hboss : fight'.boss = fight.boss) (hlives : fight'.lives = fight.lives)
    (hlost : fight.outcome = .playerDefeated → fight'.outcome = .playerDefeated)
    (hstreak : t.sitting.streak = s.sitting.streak) (hcombo : t.sitting.combo = s.sitting.combo) :
    FightMove s c fight none t

variable {s t : Session} {d : Deed} {c : Chapter} {fight : Fight}

theorem current_of_fight (ha : s.sitting.activity = .boss c fight)
    (hin : fight.outcome = .inProgress) :
    ∃ step, fight.boss.steps[fight.step]? = some step ∧ s.current = some step.exercise := by
  obtain ⟨hstep, -⟩ := Fight.outcome_eq_inProgress hin
  have hsome : fight.boss.steps[fight.step]? = some fight.boss.steps[fight.step] :=
    List.getElem?_eq_getElem hstep
  refine ⟨_, hsome, ?_⟩
  rw [current_of_activity ha, Activity.current, Fight.currentStep, hsome]
  rfl

/-- **Until the next sitting, every turn is one of these moves in the fight.** -/
theorem fightMove_turn (ha : s.sitting.activity = .boss c fight) (ht : s.Turn d t)
    (hd : d.opens = false) : s.FightMove c fight d.answer? t := by
  cases ht with
  | stay => exact .quiet fight ha rfl rfl id rfl rfl
  | rightFight ha' hin points =>
    cases ha.symm.trans ha'
    exact .right hin ha rfl rfl
  | wrongFight ha' hin =>
    cases ha.symm.trans ha'
    exact .wrong hin rfl rfl rfl
  | nextStep ha' hin =>
    cases ha.symm.trans ha'
    exact .quiet _ rfl rfl rfl (fun hlost => nomatch hin.symm.trans hlost) rfl rfl
  | won ha' hwon hfirst =>
    cases ha.symm.trans ha'
    exact .quiet _ rfl rfl rfl (fun hlost => nomatch hwon.symm.trans hlost) rfl rfl
  | spent time => exact .quiet fight ha rfl rfl id rfl rfl
  | reweighed weights => exact .quiet fight ha rfl rfl id rfl rfl
  | rightNowhere hin h points =>
    obtain ⟨step, -, hstep⟩ := current_of_fight ha (fight_of_isInProgress ha hin)
    cases hstep.symm.trans h
  | wrongNowhere hin h =>
    obtain ⟨step, -, hstep⟩ := current_of_fight ha (fight_of_isInProgress ha hin)
    cases hstep.symm.trans h
  | lessons now hopen => cases hd
  | practice now hopen hcurrent words => cases hd
  | fight now hopen hboss => cases hd
  | ended => cases hd
  -- the others take place in lessons or in practice
  | rightLesson ha' hlt points => cases ha.symm.trans ha'
  | rightPractice ha' now points => cases ha.symm.trans ha'
  | wrongLesson ha' hlt => cases ha.symm.trans ha'
  | wrongPractice ha' now => cases ha.symm.trans ha'
  | nextLesson ha' hlt => cases ha.symm.trans ha'
  | lastLesson ha' hlast => cases ha.symm.trans ha'
  | drawn ha' e words => cases ha.symm.trans ha'
  | exhausted ha' words => cases ha.symm.trans ha'
  | chosen ha' e => cases ha.symm.trans ha'

/-- **What holds at the start, and is kept by every turn that opens no other sitting, holds as long
as the sitting lasts.** -/
theorem run_induction_sitting {motive : Session → List Event → Prop} (start : motive s [])
    (turn : ∀ e past t, e.deed.opens = false → e.session.Turn e.deed t →
      motive e.session past → motive t (e :: past))
    (requests : List Request) (hrun : ∀ e ∈ s.events requests, e.deed.opens = false) :
    motive (s.run requests) (s.events requests) := by
  revert hrun
  refine run_induction (motive := fun u past => (∀ e ∈ past, e.deed.opens = false) → motive u past)
    (fun _ => start) (fun e past u ht ih hrun => ?_) requests
  obtain ⟨hnow, hbefore⟩ := List.forall_mem_cons.mp hrun
  exact turn e past u hnow ht (ih hbefore)

/-! ## 3. What the answers tell of a fight -/

/-- How a fight stands after these answers, the latest first. -/
structure Fought (s : Session) (c : Chapter) (fight : Fight) (answers : List Bool) : Prop where
  activity : s.sitting.activity = .boss c fight
  sound : (Activity.boss c fight).Sound
  lives : fight.lives + answers.count false = fight.boss.lives
  streak : s.sitting.streak = rightInARow answers
  combo : s.sitting.combo = min maxCombo (1 + rightInARow answers)

variable {answers : List Bool} {module : String} {now : Instant} {r : Request}

/-- **Every move keeps the account**, with its answer if there is one. -/
theorem Fought.turn (h : s.Fought c fight answers) (ht : s.Turn d t) (hd : d.opens = false) :
    ∃ fight', t.Fought c fight' (d.answer?.elim answers (· :: answers)) := by
  have hsound : t.sitting.activity.Sound :=
    activity_sound_turn (by rw [h.activity]; exact h.sound) ht
  have hmove := fightMove_turn h.activity ht hd
  generalize d.answer? = answer at hmove
  cases hmove with
  | right hin ha hstreak hcombo =>
    refine ⟨fight, ha, h.sound, ?_, ?_, ?_⟩
    · simpa using h.lives
    · simp [hstreak, h.streak]
    · rw [hcombo, h.combo]
      simp only [Option.elim_some, rightInARow_right, maxCombo]
      omega
  | wrong hin ha hstreak hcombo =>
    obtain ⟨-, hlives⟩ := Fight.outcome_eq_inProgress hin
    refine ⟨_, ha, activity_sound_of_eq hsound ha, ?_, ?_, ?_⟩
    · have := h.lives
      simp only [Option.elim_some, List.count_cons_self]
      omega
    · simp [hstreak]
    · simp [hcombo, maxCombo]
  | quiet fight' ha hboss hlives hlost hstreak hcombo =>
    refine ⟨fight', ha, activity_sound_of_eq hsound ha, ?_, ?_, ?_⟩
    · rw [hlives, hboss]
      exact h.lives
    · rw [hstreak]
      exact h.streak
    · rw [hcombo]
      exact h.combo

/-- A fight that was started stands without an answer. -/
theorem fought_startBoss (h : s.startBoss now module = .ok t) :
    ∃ c fight, c.id = module ∧ s.catalog.boss? module = c.boss ∧ t.Fought c fight [] := by
  obtain ⟨c, boss, rfl, hopen, hboss, rfl⟩ := startBoss_eq_ok h
  have hlisted : s.catalog.boss? c.id = c.boss := hopen.boss?_eq
  obtain ⟨hsteps, hlives⟩ := Catalog.fightable_of_boss? (hlisted.trans hboss)
  have hsound : (Activity.boss c (.start boss)).Sound := ⟨hboss, Fight.sound_start hsteps hlives⟩
  exact ⟨c, .start boss, rfl, hlisted, rfl, hsound, rfl, rfl, rfl⟩

/-- **A fight stands as its answers tell**, until the next sitting. -/
theorem fought_run (h : s.Fought c fight []) (requests : List Request)
    (hrun : ∀ e ∈ s.events requests, e.deed.opens = false) :
    ∃ fight', (s.run requests).Fought c fight' (Event.answers (s.events requests)) := by
  refine run_induction_sitting (motive := fun u past =>
    ∃ fight', u.Fought c fight' (Event.answers past)) ⟨fight, h⟩ ?_ requests hrun
  rintro e past u hnow ht ⟨fight', hfought⟩
  rw [Event.answers_cons, ← Event.answer?_deed]
  exact hfought.turn ht hnow

/-! ## 4. Fights that are lost -/

/-- A fight is lost just when the wrong answers have cost all lives. -/
theorem Fought.outcome_iff (h : s.Fought c fight answers) :
    s.outcome = .playerDefeated ↔ answers.count false = fight.boss.lives := by
  have hlives := h.lives
  have hleft := h.sound.2.step_lt
  rw [outcome_of_activity h.activity, Activity.outcome, Fight.outcome]
  split
  · rename_i hdone
    refine iff_of_false Outcome.noConfusion fun hcount => ?_
    -- without a life, not all steps can be done
    have hlt := hleft (by omega)
    omega
  · split
    · exact iff_of_true rfl (by omega)
    · exact iff_of_false Outcome.noConfusion (by omega)

/-- **No answer counts after a fight was lost**, until the next sitting. -/
theorem answers_of_lost (ha : s.sitting.activity = .boss c fight)
    (hlost : fight.outcome = .playerDefeated) (later : List Request)
    (hlater : ∀ e ∈ s.events later, e.deed.opens = false) :
    Event.answers (s.events later) = [] := by
  have hrun := run_induction_sitting (motive := fun u past =>
    Event.answers past = [] ∧ ∃ fight', u.sitting.activity = .boss c fight' ∧
      fight'.outcome = .playerDefeated) ⟨rfl, fight, ha, hlost⟩ ?_ later hlater
  · exact hrun.1
  · rintro e past u hnow ht ⟨hnone, fight', ha', hlost'⟩
    have hmove := fightMove_turn ha' ht hnow
    rw [Event.answers_cons, ← Event.answer?_deed]
    generalize e.deed.answer? = answer at hmove
    cases hmove with
    | right hin => cases hin.symm.trans hlost'
    | wrong hin => cases hin.symm.trans hlost'
    | quiet fight'' ha'' hboss hlives hstays => exact ⟨hnone, fight'', ha'', hstays hlost'⟩

/-! ## 5. Fights as functions of their answers -/

/-- What a right answer brings in a fight that stands so. -/
theorem Fought.gain_of_right (h : s.Fought c fight answers) (hr : s.accepted? r = some true) :
    ∃ step elapsed optimal, fight.boss.steps[fight.step]? = some step ∧
      s.scoring? r = some (elapsed, optimal) ∧
      r.gain (s.serve r).1 =
        step.exercise.pointsFor elapsed optimal (min maxCombo (1 + rightInARow answers)) := by
  have hin : fight.outcome = .inProgress :=
    (outcome_of_activity h.activity).symm.trans (outcome_of_accepted? hr)
  obtain ⟨step, hstep, hcurrent⟩ := current_of_fight h.activity hin
  obtain ⟨elapsed, optimal, hscoring, hgain⟩ := Session.gain_of_right hr
  refine ⟨step, elapsed, optimal, hstep, hscoring, ?_⟩
  rw [hgain, pointsFor, hcurrent, h.combo]
  rfl

/-- **A fight is a function of its answers.** After the start of a fight and whatever was asked in
the same sitting, take the answers that counted. The lives that are lost are the wrong ones, the
streak is the right ones since the last wrong one, and the combo is one more, up to its limit. If the
next request is a right answer that counts, it brings the points of the step at hand for this combo.
The fight is lost just when there are as many wrong answers as the boss has lives, and then the
answers stay the same, whatever is asked later in this sitting.

Numbers have no limit here. The streak is counted with 32 bits in fact, so this tells of runs of
fewer than 2 ^ 32 requests, in which no streak is longer. -/
theorem startBoss_fought (hstart : s.startBoss now module = .ok t) (requests : List Request)
    (hrun : ∀ e ∈ t.events requests, e.deed.opens = false) :
    let u := t.run requests
    let answers := Event.answers (t.events requests)
    ∃ c fight, c.id = module ∧ s.catalog.boss? module = some fight.boss ∧
      u.sitting.activity = .boss c fight ∧
      fight.lives + answers.count false = fight.boss.lives ∧
      u.sitting.streak = rightInARow answers ∧
      u.sitting.combo = min maxCombo (1 + rightInARow answers) ∧
      (∀ r, u.accepted? r = some true →
        ∃ step elapsed optimal, fight.boss.steps[fight.step]? = some step ∧
          u.scoring? r = some (elapsed, optimal) ∧
          r.gain (u.serve r).1 =
            step.exercise.pointsFor elapsed optimal (min maxCombo (1 + rightInARow answers))) ∧
      (u.outcome = .playerDefeated ↔ answers.count false = fight.boss.lives) ∧
      (u.outcome = .playerDefeated →
        ∀ later, (∀ e ∈ t.events (requests ++ later), e.deed.opens = false) →
          Event.answers (t.events (requests ++ later)) = answers) := by
  intro u answers
  obtain ⟨c, fight, hid, hboss, hbegun⟩ := fought_startBoss hstart
  obtain ⟨fight', hfought⟩ := fought_run hbegun requests hrun
  refine ⟨c, fight', hid, hboss.trans hfought.sound.1, hfought.activity, hfought.lives,
    hfought.streak, hfought.combo, fun r => hfought.gain_of_right, hfought.outcome_iff, ?_⟩
  intro hlost later hlater
  rw [events_append] at hlater ⊢
  have hnone : Event.answers (u.events later) = [] :=
    answers_of_lost hfought.activity ((outcome_of_activity hfought.activity).symm.trans hlost) later
      fun e he => hlater e (List.mem_append_left _ he)
  show Event.answers (u.events later ++ t.events requests) = answers
  rw [Event.answers, List.filterMap_append]
  exact congrArg (· ++ answers) hnone

end Session

/-! ## 6. A boss with two lives -/

/-- A chapter with a boss of two steps and two lives, and no lesson. -/
def Chapter.twoLives : Chapter :=
  .assemble { id := "lines", name := "Lines", bossName := "Ruler" }
    { lessons := []
      boss := some
        { id := "ruler", name := "Ruler", lives := 2
          steps :=
            [⟨30, { id := "right", code := ["ab"], cursor := ⟨0, 0⟩, mission := "Go right."
                    solutions := ["l"], optimal := "l" }⟩,
             ⟨30, { id := "left", code := ["ab"], cursor := ⟨0, 1⟩, mission := "Go left."
                    solutions := ["h"], optimal := "h" }⟩] } }

def Catalog.twoLives : Catalog where
  chapters := [.twoLives]
  coherent :=
    { nodup_modules := by decide
      nodup_exercises := by decide
      assembled := by
        intro c hc
        rw [List.mem_singleton.mp hc]
        exact ⟨_, rfl⟩
      optimal_mem := by decide
      fightable := by decide }

/-- One life is lost at the first step; then both steps are answered right, so one life is left and
the combo has grown twice. -/
theorem Session.startBoss_fought_one_life_left :
    let s := start .twoLives .fresh (.ofList [])
    let t := (s.serve (.startBoss ⟨0, 0⟩ "lines")).2
    let requests : List Request :=
      [.recordIncorrect ⟨1, 0⟩, .recordCorrect ⟨2, 0⟩ 1.5 true, .advance,
        .recordCorrect ⟨3, 0⟩ 2.5 false]
    s.startBoss ⟨0, 0⟩ "lines" = .ok t ∧
      (∀ e ∈ t.events requests, e.deed.opens = false) ∧
      Event.answers (t.events requests) = [true, true, false] ∧
      (t.run requests).sitting.combo = 3 ∧ (t.run requests).outcome ≠ .playerDefeated := by
  intro s t requests
  have hstart : s.startBoss ⟨0, 0⟩ "lines" = .ok t := rfl
  have hrun : ∀ e ∈ t.events requests, e.deed.opens = false := of_decide_eq_true rfl
  have hanswers : Event.answers (t.events requests) = [true, true, false] := rfl
  obtain ⟨c, fight, -, hboss, -, -, -, hcombo, -, hlost, -⟩ := startBoss_fought hstart requests hrun
  have hlives : fight.boss.lives = 2 := congrArg Boss.lives (Option.some.inj hboss).symm
  rw [hanswers] at hcombo hlost
  rw [hlives] at hlost
  exact ⟨hstart, hrun, hanswers, hcombo, fun h => absurd (hlost.mp h) (by decide)⟩

end MotionTutor
