import MotionTutor.Proofs.Practice.Draw
import MotionTutor.Proofs.Session.Answers
import MotionTutor.Proofs.Session.Lessons
import MotionTutor.Proofs.Session.Practice

/-!
# Practice with an exercise up

In practice, answers count while it is in progress, and then an exercise is up. The converse fails at
one place: a draw in practice that is complete may find a lesson again, after the weights were
changed, and puts it up without taking practice up again (`Session.run_practice_up_late`). To choose
an exercise does take it up.

This file says when an exercise is up and its answers do not count: just if it came from such a draw
(`Event.drawnLate`). A sitting in which the weights are never changed while practice is complete has
none, since complete practice has no lesson to draw (`Session.Exhausted`), and what changes that is a
change of the weights. `Session.PracticeMove` lists what a request can do to practice, and both facts
are kept move by move (`Session.run_practice_up`).
-/

namespace MotionTutor

/-! ## 1. What happened -/

namespace Event

/-- Another exercise may be up after the event, or none. Going on draws too, but never late. -/
def replaces (e : Event) : Bool :=
  e.deed.opens ||
    match e.request with
    | .nextPractice | .setPractice _ => true
    | _ => false

/-- An exercise was drawn although the sitting was complete. -/
def drawsLate (e : Event) : Bool :=
  match e.request with
  | .nextPractice => e.session.outcome = .complete && e.session.nextPractice.1
  | _ => false

/-- The exercise that is up was drawn although the sitting was complete. -/
def drawnLate (past : List Event) : Bool := (past.find? replaces).any drawsLate

/-- The weights were changed although the sitting was complete. -/
def reweighsLate (e : Event) : Bool :=
  match e.request with
  | .setWeights _ => e.session.outcome = .complete
  | _ => false

variable {e : Event} {past : List Event}

theorem drawnLate_cons :
    drawnLate (e :: past) = if e.replaces then e.drawsLate else drawnLate past := by
  unfold drawnLate
  rw [List.find?_cons]
  cases e.replaces <;> rfl

/-- A sitting does not begin with a late draw. -/
theorem drawsLate_of_opens (h : e.deed.opens = true) : e.drawsLate = false := by
  obtain ⟨s, r⟩ := e
  cases r with
  | nextPractice => cases h
  | _ => rfl

end Event

/-! ## 2. Moves in practice -/

namespace Activity

/-- In practice: the chapter, the exercise that is up, and whether practice is complete. -/
def practice? : Activity → Option (Chapter × Option Exercise × Bool)
  | practice c current complete => some (c, current, complete)
  | _ => none

/-- An exercise is up in practice that is complete. -/
def upLate (a : Activity) : Bool := a.practice?.any fun p => p.2.1.isSome && p.2.2

theorem practice?_eq_some_iff {a : Activity} {c : Chapter} {current : Option Exercise}
    {complete : Bool} :
    a.practice? = some (c, current, complete) ↔ a = .practice c current complete := by
  cases a <;> simp [practice?]

end Activity

namespace Session

/-- Nothing is up in complete practice, and there is nothing to draw. -/
def Exhausted (s : Session) : Prop :=
  ∀ c current, s.sitting.activity.practice? = some (c, current, true) →
    current = none ∧ ∀ e ∈ c.lessons, s.weights.of (s.profile.progress c.id) e.id = 0

/-- What a request can do to practice, with the session after it. -/
inductive PracticeMove (s : Session) : Request → Session → Prop
  /-- Another sitting began that is not practice, or none goes on. -/
  | left {r : Request} {t : Session} (hopens : (s.deed r).opens = true)
    (h : t.sitting.activity.practice? = none) : PracticeMove s r t
  /-- Practice began with a draw. -/
  | begun {r : Request} (hopens : (s.deed r).opens = true) {b : Session} {c : Chapter}
    (h : b.sitting.activity = .practice c none false) : PracticeMove s r b.nextPractice.2
  | drawn : PracticeMove s .nextPractice s.nextPractice.2
  /-- Going on in practice draws. -/
  | advanced {c : Chapter} {current : Option Exercise}
    (h : s.sitting.activity = .practice c current false) : PracticeMove s .advance s.nextPractice.2
  | chosen (e : Exercise) : PracticeMove s (.setPractice e) (s.setPractice e)
  | reweighed (weights : Weights) : PracticeMove s (.setWeights weights) (s.setWeights weights)
  /-- Anything else leaves practice, and in complete practice what a draw goes by. -/
  | kept {r : Request} {t : Session} (hreplaces : (Event.mk s r).replaces = false)
    (hsame : t.sitting.activity.practice? = s.sitting.activity.practice?)
    (hcomplete : ∀ c current, s.sitting.activity.practice? = some (c, current, true) →
      t.weights = s.weights ∧ t.profile.progress c.id = s.profile.progress c.id) :
    PracticeMove s r t

variable {s t : Session} {r : Request} {c : Chapter} {current : Option Exercise} {correct : Bool}
  {module : String}

/-- What leaves the session as it is leaves practice. -/
theorem practiceMove_same (hreplaces : (Event.mk s r).replaces = false) : s.PracticeMove r s :=
  .kept hreplaces rfl fun _ _ _ => ⟨rfl, rfl⟩

/-- What goes on outside of practice leaves it. -/
theorem practiceMove_elsewhere (hreplaces : (Event.mk s r).replaces = false)
    (hs : s.sitting.activity.practice? = none) (ht : t.sitting.activity.practice? = none) :
    s.PracticeMove r t :=
  .kept hreplaces (ht.trans hs.symm) fun _ _ h => nomatch hs.symm.trans h

theorem practice?_of_activity {a : Activity} (ha : s.sitting.activity = a) :
    s.sitting.activity.practice? = a.practice? := by
  rw [ha]

/-! ## 3. Every request is a move -/

/-- A request that is refused changes nothing. -/
theorem practiceMove_refused {refusal : Refusal} (h : (s.serve r).1 = .refused refusal) :
    s.PracticeMove r (s.serve r).2 := by
  have hother : s.deed r = .other := by
    rw [deed, h]
    cases r <;> first | rfl | cases h
  have hreplaces : (Event.mk s r).replaces = false := by
    unfold Event.replaces Event.deed
    rw [hother]
    cases r <;> first | rfl | cases h
  rw [serve_of_refused h]
  exact practiceMove_same hreplaces

/-- A start is a move in practice if it is one when it is not refused. -/
theorem practiceMove_started {start : Except Refusal Session} (hserve : s.serve r = s.started start)
    (hopens : ∀ inProgress, (r.deed inProgress .done).opens = true)
    (hdone : ∀ t, start = .ok t → (s.deed r).opens = true → s.PracticeMove r t) :
    s.PracticeMove r (s.serve r).2 := by
  cases start with
  | error refusal => exact practiceMove_refused (congrArg Prod.fst hserve)
  | ok t =>
    have hdeed : (s.deed r).opens = true := by
      rw [deed, hserve]
      exact hopens _
    rw [hserve]
    exact hdone t rfl hdeed

theorem practiceMove_startLesson (now : Instant) (module : String) :
    s.PracticeMove (.startLesson now module) (s.serve (.startLesson now module)).2 := by
  refine practiceMove_started rfl (fun _ => rfl) fun t h hopens => ?_
  obtain ⟨c, -, -, rfl⟩ := startLesson_eq_ok h
  exact .left hopens rfl

theorem practiceMove_startPractice (now : Instant) (module : String) :
    s.PracticeMove (.startPractice now module) (s.serve (.startPractice now module)).2 := by
  refine practiceMove_started rfl (fun _ => rfl) fun t h hopens => ?_
  obtain ⟨c, -, -, rfl⟩ := startPractice_eq_ok h
  exact .begun hopens rfl

theorem practiceMove_startBoss (now : Instant) (module : String) :
    s.PracticeMove (.startBoss now module) (s.serve (.startBoss now module)).2 := by
  refine practiceMove_started rfl (fun _ => rfl) fun t h hopens => ?_
  obtain ⟨c, boss, -, -, -, rfl⟩ := startBoss_eq_ok h
  exact .left hopens rfl

/-- An answer that counts leaves practice. -/
theorem practice?_turn_of_answer {d : Deed} (ht : s.Turn d t) (hd : d.answer? = some correct) :
    t.sitting.activity.practice? = s.sitting.activity.practice? := by
  cases ht with
  | wrongFight ha hfight => rw [ha]; rfl
  | rightNowhere hin h points => rfl
  | rightLesson ha hlt points => rfl
  | rightPractice ha now points => rfl
  | rightFight ha hfight points => rfl
  | wrongNowhere hin h => rfl
  | wrongLesson ha hlt => rfl
  | wrongPractice ha now => rfl
  | _ => cases hd

theorem replaces_of_verdict? (h : s.verdict? r = some correct) :
    (Event.mk s r).replaces = false := by
  have hopens : (s.deed r).opens = false := by
    unfold deed
    cases r with
    | submit now answer elapsed =>
      simp only [serve, Request.deed]
      split
      · split <;> rfl
      · rfl
    | recordCorrect now elapsed optimal =>
      simp only [serve, Request.deed]
      split <;> rfl
    | recordIncorrect now =>
      simp only [Request.deed]
      split <;> rfl
    | _ => cases h
  unfold Event.replaces Event.deed
  rw [hopens]
  cases r <;> first | rfl | cases h

theorem outcome_of_practice? {complete : Bool}
    (h : s.sitting.activity.practice? = some (c, current, complete)) :
    s.outcome = if complete then .complete else .inProgress :=
  outcome_of_activity (Activity.practice?_eq_some_iff.mp h)

/-- An answer is no move in practice. -/
theorem practiceMove_answer (h : s.verdict? r = some correct) :
    s.PracticeMove r (s.serve r).2 := by
  have hreplaces := replaces_of_verdict? h
  by_cases hin : s.outcome = .inProgress
  · have haccepted : s.accepted? r = some correct := by rw [accepted?, if_pos hin, h]
    rw [← answer?_deed_eq_accepted?] at haccepted
    refine .kept hreplaces (practice?_turn_of_answer (turn_serve s r) haccepted) ?_
    -- an answer that counts is none in complete practice
    intro c current hpractice
    cases hin.symm.trans (outcome_of_practice? hpractice)
  · have haccepted : s.accepted? r = none := if_neg hin
    rw [serve_of_not_accepted h haccepted]
    exact practiceMove_same hreplaces

theorem practiceMove_advance : s.PracticeMove .advance s.advance.2 := by
  unfold advance
  split
  · rename_i hin
    cases h : s.sitting.activity with
    | idle => exact practiceMove_same rfl
    | practice c current complete =>
      cases practice_of_isInProgress h hin
      exact .advanced h
    | lesson c index =>
      dsimp only
      split <;> exact practiceMove_elsewhere rfl (practice?_of_activity h) rfl
    | boss c fight => exact practiceMove_elsewhere rfl (practice?_of_activity h) rfl
  · exact practiceMove_same rfl

theorem practiceMove_recordVictory : s.PracticeMove .recordVictory s.recordVictory.2 := by
  have hreplaces : (Event.mk s .recordVictory).replaces = false := by
    show ((Request.deed _ .recordVictory (.told s.recordVictory.1)).opens || false) = false
    cases s.recordVictory.1 <;> rfl
  unfold recordVictory
  split
  · rename_i h
    split
    · exact practiceMove_elsewhere hreplaces (practice?_of_activity h) rfl
    · exact practiceMove_same hreplaces
  · exact practiceMove_same hreplaces

/-- **Every request is one of these moves in practice.** -/
theorem practiceMove_serve (s : Session) (r : Request) : s.PracticeMove r (s.serve r).2 := by
  cases r with
  | startLesson now module => exact practiceMove_startLesson now module
  | startPractice now module => exact practiceMove_startPractice now module
  | startBoss now module => exact practiceMove_startBoss now module
  | submit now answer elapsed => exact practiceMove_answer rfl
  | recordCorrect now elapsed optimal => exact practiceMove_answer rfl
  | recordIncorrect now => exact practiceMove_answer rfl
  | advance => exact practiceMove_advance
  | nextPractice => exact .drawn
  | setPractice e => exact .chosen e
  | recordVictory => exact practiceMove_recordVictory
  | addElapsed time => exact .kept rfl rfl fun _ _ _ => ⟨rfl, rfl⟩
  | setWeights weights => exact .reweighed weights
  | reset => exact .left rfl rfl

/-! ## 4. What a draw comes to -/

/-- Outside of practice nothing is drawn. -/
theorem nextPractice_elsewhere (h : s.sitting.activity.practice? = none) :
    s.nextPractice = (false, s) := by
  unfold nextPractice
  cases ha : s.sitting.activity with
  | practice c current complete =>
    rw [ha] at h
    cases h
  | _ => rfl

/-- An exercise is drawn in practice only, and put up there. -/
theorem nextPractice_of_told (h : s.nextPractice.1 = true) :
    ∃ c current complete e words, s.sitting.activity = .practice c current complete ∧
      s.nextPractice.2 = { s with words }.setActivity (.practice c (some e) complete) := by
  cases hp : s.sitting.activity.practice? with
  | none =>
    rw [nextPractice_elsewhere hp] at h
    cases h
  | some p =>
    have ha := Activity.practice?_eq_some_iff.mp hp
    obtain ⟨words, ⟨e, hdrawn⟩ | hdrawn⟩ := nextPractice_of_practice ha
    · exact ⟨_, _, _, e, words, ha, by rw [hdrawn]⟩
    · rw [hdrawn] at h
      cases h

/-- In practice, an exercise is drawn if some lesson has a weight. -/
theorem told_of_exists {complete : Bool} (ha : s.sitting.activity = .practice c current complete)
    (hany : ∃ e ∈ c.lessons, s.weights.of (s.profile.progress c.id) e.id ≠ 0) :
    s.nextPractice.1 = true := by
  obtain ⟨e, -, -, hdrawn⟩ := Practice.select_of_exists hany s.words
  rw [nextPractice_of_some ha (Prod.ext hdrawn rfl)]

/-- A draw does not take practice up again. -/
theorem outcome_nextPractice (h : s.nextPractice.1 = true) :
    s.nextPractice.2.outcome = s.outcome := by
  obtain ⟨c, current, complete, e, words, ha, hdrawn⟩ := nextPractice_of_told h
  rw [hdrawn, outcome_of_activity ha]
  rfl

/-- What is up after a draw is up late if practice was complete and something was drawn. -/
theorem upLate_nextPractice (s : Session) :
    s.nextPractice.2.sitting.activity.upLate =
      (s.outcome = .complete && s.nextPractice.1) := by
  cases hp : s.sitting.activity.practice? with
  | none => rw [nextPractice_elsewhere hp, Bool.and_false, Activity.upLate, hp, Option.any_none]
  | some p =>
    rw [outcome_of_practice? hp]
    obtain ⟨words, ⟨e, hdrawn⟩ | hdrawn⟩ :=
      nextPractice_of_practice (Activity.practice?_eq_some_iff.mp hp)
    · rw [hdrawn]
      cases p.2.2 <;> rfl
    · rw [hdrawn, Bool.and_false]
      rfl

theorem exhausted_of_not_complete (h : s.outcome ≠ .complete) : s.Exhausted :=
  fun _ _ hpractice => absurd (outcome_of_practice? hpractice) h

/-- Practice that is exhausted draws only while it is in progress. -/
theorem Exhausted.inProgress_of_told (hs : s.Exhausted) (h : s.nextPractice.1 = true) :
    s.outcome = .inProgress := by
  obtain ⟨c, current, complete, e, words, ha, -⟩ := nextPractice_of_told h
  cases complete with
  | false => exact outcome_of_activity ha
  | true =>
    obtain ⟨-, hnone⟩ := hs c current (practice?_of_activity ha)
    rw [nextPractice_of_none ha (Practice.select_of_forall hnone)] at h
    cases h

/-- **A draw leaves practice in progress or exhausted.** -/
theorem Exhausted.nextPractice (hs : s.Exhausted) : s.nextPractice.2.Exhausted := by
  cases hp : s.sitting.activity.practice? with
  | none =>
    rw [nextPractice_elsewhere hp]
    exact hs
  | some p =>
    obtain ⟨c, current, complete⟩ := p
    have ha := Activity.practice?_eq_some_iff.mp hp
    by_cases hany : ∃ e ∈ c.lessons, s.weights.of (s.profile.progress c.id) e.id ≠ 0
    · -- there is something to draw, so practice was not complete, and a draw does not complete it
      have htold := told_of_exists ha hany
      refine exhausted_of_not_complete ?_
      rw [outcome_nextPractice htold, hs.inProgress_of_told htold]
      exact Outcome.noConfusion
    · have hnone : ∀ e ∈ c.lessons, s.weights.of (s.profile.progress c.id) e.id = 0 :=
        fun e he => Classical.byContradiction fun hweight => hany ⟨e, he, hweight⟩
      rw [nextPractice_of_none ha (Practice.select_of_forall hnone)]
      intro c' current' hpractice
      cases hpractice
      exact ⟨rfl, hnone⟩

/-- To choose an exercise takes practice up again. -/
theorem practice?_setPractice (s : Session) (e : Exercise) :
    (s.setPractice e).sitting.activity.practice? =
      s.sitting.activity.practice?.map fun p => (p.1, some e, false) := by
  unfold setPractice
  cases h : s.sitting.activity with
  | practice c current complete => rfl
  | _ =>
    dsimp only
    rw [h]
    rfl

/-! ## 5. What every move keeps -/

/-- **What is up late was drawn late**, one move later. -/
theorem upLate_move {e : Event} {past : List Event} (ht : e.session.PracticeMove e.request t)
    (h : e.session.sitting.activity.upLate = Event.drawnLate past) :
    t.sitting.activity.upLate = Event.drawnLate (e :: past) := by
  obtain ⟨s, r⟩ := e
  rw [Event.drawnLate_cons]
  cases ht with
  | left hopens hnone =>
    have hreplaces : (Event.mk s r).replaces = true := Bool.or_eq_true_iff.mpr (.inl hopens)
    rw [hreplaces, if_pos rfl, Event.drawsLate_of_opens hopens, Activity.upLate, hnone]
    rfl
  | begun hopens hb =>
    have hreplaces : (Event.mk s r).replaces = true := Bool.or_eq_true_iff.mpr (.inl hopens)
    rw [hreplaces, if_pos rfl, Event.drawsLate_of_opens hopens, upLate_nextPractice,
      outcome_of_activity hb]
    rfl
  | drawn => exact upLate_nextPractice s
  | advanced ha =>
    -- practice goes on only while it is in progress, when nothing is late
    have hin := outcome_of_activity ha
    have hbefore : s.sitting.activity.upLate = false := by
      rw [Activity.upLate, practice?_of_activity ha]
      exact Bool.and_false _
    refine Eq.trans ?_ (hbefore.symm.trans h)
    rw [upLate_nextPractice, hin]
    rfl
  | chosen e =>
    show (s.setPractice e).sitting.activity.upLate = false
    rw [Activity.upLate, practice?_setPractice]
    cases s.sitting.activity.practice? <;> rfl
  | reweighed weights => exact h
  | kept hreplaces hsame hcomplete =>
    rw [hreplaces, Activity.upLate, hsame]
    exact h

/-- Practice stays exhausted as long as the weights are not changed in complete practice. -/
theorem exhausted_move {e : Event} (ht : e.session.PracticeMove e.request t)
    (h : e.deed.opens = false → e.session.Exhausted ∧ e.reweighsLate = false) :
    t.Exhausted := by
  obtain ⟨s, r⟩ := e
  cases ht with
  | left hopens hnone => exact fun c current hpractice => nomatch hnone.symm.trans hpractice
  | begun hopens hb =>
    refine (exhausted_of_not_complete ?_).nextPractice
    rw [outcome_of_activity hb]
    exact Outcome.noConfusion
  | drawn => exact (h rfl).1.nextPractice
  | advanced ha => exact (h rfl).1.nextPractice
  | chosen e =>
    intro c current hpractice
    rw [practice?_setPractice] at hpractice
    cases hbefore : s.sitting.activity.practice? <;> rw [hbefore] at hpractice <;> cases hpractice
  | reweighed weights => exact exhausted_of_not_complete (of_decide_eq_false (h rfl).2)
  | kept hreplaces hsame hcomplete =>
    have hopens : (s.deed r).opens = false := (Bool.or_eq_false_iff.mp hreplaces).1
    intro c current hpractice
    rw [hsame] at hpractice
    obtain ⟨hw, hp⟩ := hcomplete c current hpractice
    rw [hw, hp]
    exact (h hopens).1 c current hpractice

/-- What is known of practice by what happened. -/
structure TellsPractice (s : Session) (past : List Event) : Prop where
  late : s.sitting.activity.upLate = Event.drawnLate past
  exhausted : (∀ e ∈ Event.sitting past, e.reweighsLate = false) → s.Exhausted

theorem tellsPractice_start (catalog : Catalog) (profile : Profile) (words : Words) :
    (start catalog profile words).TellsPractice [] where
  late := rfl
  exhausted _ := exhausted_of_not_complete Outcome.noConfusion

theorem TellsPractice.serve {e : Event} {past : List Event} (h : e.session.TellsPractice past) :
    (e.session.serve e.request).2.TellsPractice (e :: past) where
  late := upLate_move (practiceMove_serve e.session e.request) h.late
  exhausted hweights := by
    refine exhausted_move (practiceMove_serve e.session e.request) fun hopens => ?_
    rw [Event.sitting_cons, hopens] at hweights
    obtain ⟨hnow, hbefore⟩ := List.forall_mem_cons.mp hweights
    exact ⟨h.exhausted hbefore, hnow⟩

theorem tellsPractice_run (catalog : Catalog) (profile : Profile) (words : Words)
    (requests : List Request) :
    ((start catalog profile words).run requests).TellsPractice
      ((start catalog profile words).events requests) :=
  run_induction_serve (tellsPractice_start catalog profile words) (fun _ _ h => h.serve) requests

/-! ## 6. When an exercise is up -/

/-- In practice, answers count just when an exercise is up that was not put up late. -/
theorem inProgress_iff_of_practice (hs : s.Sound) {complete : Bool}
    (ha : s.sitting.activity = .practice c current complete) :
    s.outcome = .inProgress ↔
      s.current.isSome = true ∧ s.sitting.activity.upLate = false := by
  have hsome : complete = false → current.isSome = true := activity_sound_of_eq hs.activity ha
  rw [outcome_of_activity ha, current_of_activity ha, Activity.upLate, practice?_of_activity ha]
  cases complete with
  | false => simp [Activity.outcome, Activity.current, Activity.practice?, hsome rfl]
  | true => cases current <;> simp [Activity.outcome, Activity.current, Activity.practice?]

theorem Exhausted.upLate_eq_false (hs : s.Exhausted) {complete : Bool}
    (ha : s.sitting.activity = .practice c current complete) :
    s.sitting.activity.upLate = false := by
  rw [Activity.upLate, practice?_of_activity ha]
  cases complete with
  | false => exact Bool.and_false _
  | true =>
    obtain ⟨rfl, -⟩ := hs c current (practice?_of_activity ha)
    rfl

/-- In practice in progress, an answer is recorded once. -/
theorem attempts_serve_of_practice (hs : s.Sound) {complete : Bool}
    (ha : s.sitting.activity = .practice c current complete) (hin : s.outcome = .inProgress)
    (hverdict : s.verdict? r = some correct) :
    ((s.serve r).2.profile.progress c.id).attempts =
      (s.profile.progress c.id).attempts + 1 := by
  have hpractises : s.practises c.id r = true := by
    cases practice_of_isInProgress ha (isInProgress_iff.mpr hin)
    rw [practises, hverdict, practising?_of_activity ha]
    simp [Activity.practising?]
  rw [(countsPractice_turn hs (turn_serve s r) c.id).attempts, hpractises, if_pos rfl]

/-- What a draw leaves to the answer recorded next: it counts if practice was in progress, and
otherwise changes nothing. -/
theorem answer_of_told (hs : s.Sound) (h : s.nextPractice.1 = true)
    (ha : s.module? = some module) (hverdict : s.nextPractice.2.verdict? r = some correct) :
    (s.outcome = .inProgress →
      ((s.nextPractice.2.serve r).2.profile.progress module).attempts =
        (s.profile.progress module).attempts + 1) ∧
      (s.outcome = .complete → (s.nextPractice.2.serve r).2 = s.nextPractice.2) := by
  have hsound : s.nextPractice.2.Sound := sound_turn hs turn_nextPractice
  have houtcome := outcome_nextPractice h
  obtain ⟨c, current, complete, e, words, hpractice, hdrawn⟩ := nextPractice_of_told h
  cases (module?_of_activity hpractice).symm.trans ha
  refine ⟨fun hin => ?_, fun hcomplete => ?_⟩
  · have hprogress : s.nextPractice.2.profile = s.profile := by rw [hdrawn]; rfl
    have hdrawnActivity : s.nextPractice.2.sitting.activity = .practice c (some e) complete := by
      rw [hdrawn]
      rfl
    rw [attempts_serve_of_practice hsound hdrawnActivity (houtcome.trans hin) hverdict, hprogress]
  · refine serve_of_not_accepted hverdict ?_
    rw [accepted?, houtcome, hcomplete]
    rfl

/-- **In practice, answers count just when an exercise is up that was not drawn late.** Whatever a
session was asked, practice is in progress just when an exercise is up, except one that was drawn
when practice was complete. There is no such exercise in a sitting in which the weights were never
changed while practice was complete. After a draw, the next answer is recorded once if practice is in
progress; if it is complete, the answer is lost and nothing changes. -/
theorem run_practice_up (catalog : Catalog) (profile : Profile) (words : Words)
    (requests : List Request) :
    let s := (start catalog profile words).run requests
    let past := (start catalog profile words).events requests
    ∀ c current complete, s.sitting.activity = .practice c current complete →
      (s.outcome = .inProgress ↔ s.current.isSome = true ∧ Event.drawnLate past = false) ∧
      ((∀ e ∈ Event.sitting past, e.reweighsLate = false) →
        (s.outcome = .inProgress ↔ s.current.isSome = true) ∧
          (s.nextPractice.1 = true → s.outcome = .inProgress)) ∧
      (s.nextPractice.1 = true → ∀ r correct, s.nextPractice.2.verdict? r = some correct →
        (s.outcome = .inProgress →
          ((s.nextPractice.2.serve r).2.profile.progress c.id).attempts =
            (s.profile.progress c.id).attempts + 1) ∧
        (s.outcome = .complete → (s.nextPractice.2.serve r).2 = s.nextPractice.2)) := by
  intro s past c current complete ha
  have hsound : s.Sound := (sound_run catalog profile words requests).2
  have htells : s.TellsPractice past := tellsPractice_run catalog profile words requests
  have hup := inProgress_iff_of_practice hsound ha
  refine ⟨?_, fun hweights => ?_, fun htold r correct hverdict => ?_⟩
  · rw [← htells.late]
    exact hup
  · have hexhausted := htells.exhausted hweights
    rw [hexhausted.upLate_eq_false ha] at hup
    exact ⟨hup.trans (and_iff_left rfl), hexhausted.inProgress_of_told⟩
  · exact answer_of_told hsound htold (module?_of_activity ha) hverdict

/-- Practice that was complete at once is taken up again by a choice, and only then are the weights
changed. So what is drawn next can be answered, and the answer is recorded. -/
theorem run_practice_up_chosen :
    let chosen := Chapter.twoLessons.lessons.head (by decide)
    let requests : List Request :=
      [.setWeights (·.attempts), .startPractice ⟨0, 0⟩ "lines", .setPractice chosen,
        .setWeights .byMastery]
    let s := (start .twoLessons .fresh (.ofList [])).run requests
    let past := (start .twoLessons .fresh (.ofList [])).events requests
    s.sitting.activity = .practice .twoLessons (some chosen) false ∧
      (∀ e ∈ Event.sitting past, e.reweighsLate = false) ∧ s.nextPractice.1 = true ∧
      ((s.nextPractice.2.serve (.recordIncorrect ⟨1, 0⟩)).2.profile.progress "lines").attempts = 1 := by
  intro chosen requests s past
  have ha : s.sitting.activity = .practice .twoLessons (some chosen) false := rfl
  have hweights : ∀ e ∈ Event.sitting past, e.reweighsLate = false := of_decide_eq_true rfl
  have hany : ∃ e ∈ Chapter.twoLessons.lessons,
      s.weights.of (s.profile.progress "lines") e.id ≠ 0 :=
    ⟨_, List.mem_cons_self, (by decide : 15 ≠ 0)⟩
  have htold : s.nextPractice.1 = true := told_of_exists ha hany
  obtain ⟨-, hearly, hnext⟩ := run_practice_up .twoLessons .fresh (.ofList []) requests _ _ _ ha
  obtain ⟨-, hin⟩ := hearly hweights
  obtain ⟨hrecorded, -⟩ := hnext htold (.recordIncorrect ⟨1, 0⟩) false rfl
  exact ⟨ha, hweights, htold, hrecorded (hin htold)⟩

/-- Weighed by their attempts, fresh lessons leave nothing to draw, so practice is complete at once; by
the default weights there is one to draw then. It is up, but practice is not in progress, and its
right answer is not recorded. -/
theorem run_practice_up_late :
    let s := (start .twoLessons .fresh (.ofList [])).run
      [.setWeights (·.attempts), .startPractice ⟨0, 0⟩ "lines", .setWeights .byMastery]
    let t := s.nextPractice.2
    s.nextPractice.1 = true ∧ t.sitting.activity.practice?.isSome = true ∧
      t.current.isSome = true ∧ t.outcome = .complete ∧
      ((t.serve (.recordCorrect ⟨1, 0⟩ 1.5 true)).2.profile.progress "lines").attempts = 0 := by
  intro s t
  have ha : s.sitting.activity = .practice .twoLessons none true := rfl
  have hany : ∃ e ∈ Chapter.twoLessons.lessons,
      s.weights.of (s.profile.progress "lines") e.id ≠ 0 :=
    ⟨_, List.mem_cons_self, (by decide : 15 ≠ 0)⟩
  have htold : s.nextPractice.1 = true := told_of_exists ha hany
  have hcomplete : t.outcome = .complete := outcome_nextPractice htold
  have hlost : (t.serve (.recordCorrect ⟨1, 0⟩ 1.5 true)).2 = t :=
    serve_of_not_accepted rfl (by rw [accepted?, hcomplete]; rfl)
  obtain ⟨_, _, _, e, words, -, hdrawn⟩ := nextPractice_of_told htold
  have ht : t = _ := hdrawn
  refine ⟨htold, by rw [ht]; rfl, by rw [ht]; rfl, hcomplete, ?_⟩
  rw [hlost, ht]
  rfl

end Session

end MotionTutor
