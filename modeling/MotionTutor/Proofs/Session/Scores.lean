import MotionTutor.Proofs.Session.Victory

/-!
# Scores and times add up

A session keeps two scores and two times: one of each for the sitting, one for all time. Both are
written at the same places and forgotten at different ones. After any requests each is what the
replies since its beginning brought, no more and no less (`Session.run_conserves_scores`).

* What an event brought is read off its reply (`Event.gain`): the points that an answer was given,
  and the bonus for a victory that was credited. The time it added is that of the request
  (`Deed.time`).
* `Session.gain_deed` ties the reply to what the request came to, so that the two step lemmas
  (`totalScore_turn`, `score_turn`) can go turn by turn.
* A start that is refused leaves the session as it is (`Session.serve_of_refused`).
-/

namespace MotionTutor

/-! ## 1. What happened -/

/-- The points that a reply grants. -/
def Reply.points : Reply → Nat
  | judged _ points | brought points => points
  | _ => 0

/-- What a request with this reply brings: the points of an answer, or the bonus for a victory. -/
def Request.gain : Request → Reply → Nat
  | .recordVictory, .told true => Session.victoryBonus
  | _, reply => reply.points

namespace Event

/-- What an event brought. -/
def gain (e : Event) : Nat := e.request.gain (e.session.serve e.request).1

/-- What some events brought together. -/
def gained (past : List Event) : Nat := past.foldr (fun e n => n + e.gain) 0

/-- The time that some events added together. -/
def timeAdded (past : List Event) : Duration :=
  past.foldr (fun e time => time + e.deed.time) .zero

variable {e : Event} {past : List Event}

theorem gained_cons : gained (e :: past) = gained past + e.gain := rfl

theorem timeAdded_cons : timeAdded (e :: past) = timeAdded past + e.deed.time := rfl

/-- What a sitting brought, one event later. -/
theorem gained_sitting_cons :
    gained (sitting (e :: past)) =
      if e.deed.opens then 0 else gained (sitting past) + e.gain := by
  rw [sitting_cons]
  split
  · rfl
  · exact gained_cons

end Event

/-! ## 2. Replies and what they stand for -/

/-- What a request that came to this brought. -/
def Deed.gain : Deed → Nat
  | right points => points
  | won => Session.victoryBonus
  | _ => 0

namespace Session

variable {s t : Session} {d : Deed}

/-- A start brings nothing, whatever it comes to. -/
theorem gain_started (start : Except Refusal Session) {r : Request}
    (hr : ∀ reply, r.gain reply = reply.points) : r.gain (s.started start).1 = 0 := by
  rw [hr]
  cases start <;> rfl

theorem gain_deed_started (start : Except Refusal Session) {r : Request} (inProgress : Bool)
    (hrefused : ∀ refusal, r.deed inProgress (.refused refusal) = .other)
    (hdone : (r.deed inProgress .done).gain = 0) :
    (r.deed inProgress (s.started start).1).gain = 0 := by
  cases start with
  | ok t => exact hdone
  | error refusal =>
    show (r.deed inProgress (.refused refusal)).gain = 0
    rw [hrefused]
    rfl

/-- An answer that does not count brings no points. -/
theorem recordCorrect_points_of_not (hin : ¬ s.sitting.isInProgress = true) (now : Instant)
    (elapsed : Float) (optimal : Bool) : (s.recordCorrect now elapsed optimal).1 = 0 := by
  rw [recordCorrect_of_not hin]

/-- **What a reply brings is what the request came to.** -/
theorem gain_deed (s : Session) (r : Request) : r.gain (s.serve r).1 = (s.deed r).gain := by
  unfold deed
  cases r with
  | startLesson now module =>
    exact (gain_started _ fun _ => rfl).trans (gain_deed_started _ _ (fun _ => rfl) rfl).symm
  | startPractice now module =>
    exact (gain_started _ fun _ => rfl).trans (gain_deed_started _ _ (fun _ => rfl) rfl).symm
  | startBoss now module =>
    exact (gain_started _ fun _ => rfl).trans (gain_deed_started _ _ (fun _ => rfl) rfl).symm
  | recordCorrect now elapsed optimal =>
    show (s.recordCorrect now elapsed optimal).1 =
      (if s.sitting.isInProgress then Deed.right (s.recordCorrect now elapsed optimal).1
        else .other).gain
    split
    · rfl
    · rename_i hin
      exact recordCorrect_points_of_not hin now elapsed optimal
  | submit now answer elapsed =>
    cases hcorrect : (s.judge answer).correct with
    | false =>
      have hreply : (s.serve (.submit now answer elapsed)).1 = .judged (s.judge answer) 0 := by
        rw [serve, submit]
        dsimp only
        rw [hcorrect]
        rfl
      rw [hreply, Request.deed, hcorrect]
      cases s.sitting.isInProgress <;> rfl
    | true =>
      have hreply : (s.serve (.submit now answer elapsed)).1 =
          .judged (s.judge answer) (s.recordCorrect now elapsed (s.judge answer).optimal).1 := by
        rw [serve, submit]
        dsimp only
        rw [if_pos hcorrect]
      rw [hreply, Request.deed, hcorrect]
      split
      · rfl
      · rename_i hin
        exact recordCorrect_points_of_not hin now elapsed _
  | recordIncorrect now =>
    show 0 = (if s.sitting.isInProgress then Deed.wrong else .other).gain
    cases s.sitting.isInProgress <;> rfl
  | recordVictory =>
    show Request.gain .recordVictory (.told s.recordVictory.1) =
      (Request.deed _ .recordVictory (.told s.recordVictory.1)).gain
    cases s.recordVictory.1 <;> rfl
  | _ => rfl

/-- A request that is refused changes nothing. -/
theorem serve_of_refused {r : Request} {refusal : Refusal}
    (h : (s.serve r).1 = .refused refusal) : (s.serve r).2 = s := by
  have hstarted : ∀ start : Except Refusal Session,
      (s.started start).1 = .refused refusal → (s.started start).2 = s := by
    rintro (refusal' | t) hrefused
    · rfl
    · cases hrefused
  cases r with
  | startLesson now module => exact hstarted _ h
  | startPractice now module => exact hstarted _ h
  | startBoss now module => exact hstarted _ h
  | _ => cases h

end Session

/-! ## 3. Turns -/

namespace Profile

theorem totalScore_markBossDefeated (p : Profile) (module : String) :
    (p.markBossDefeated module).totalScore = p.totalScore := by
  unfold markBossDefeated
  split <;> rfl

theorem totalTime_markBossDefeated (p : Profile) (module : String) :
    (p.markBossDefeated module).totalTime = p.totalTime := by
  unfold markBossDefeated
  split <;> rfl

end Profile

namespace Session

variable {s t : Session} {d : Deed}

/-- The score of all time grows by what a turn brings. -/
theorem totalScore_turn (ht : s.Turn d t) :
    t.profile.totalScore = s.profile.totalScore + d.gain := by
  cases ht with
  | @won c fight ha hfight hfirst =>
    exact congrArg (· + victoryBonus) (s.profile.totalScore_markBossDefeated c.id)
  | _ => rfl

/-- So does the score of the sitting, which begins at nothing. -/
theorem score_turn (ht : s.Turn d t) :
    t.sitting.score = if d.opens then 0 else s.sitting.score + d.gain := by
  cases ht <;> rfl

theorem totalTime_turn (ht : s.Turn d t) :
    t.profile.totalTime = s.profile.totalTime + d.time := by
  cases ht with
  | @won c fight ha hfight hfirst =>
    exact s.profile.totalTime_markBossDefeated c.id
  | _ => rfl

/-! ## 4. Runs -/

/-- The scores and times of a session, against what happened since the profile was taken. -/
structure AddsUp (s : Session) (profile : Profile) (past : List Event) : Prop where
  totalScore : s.profile.totalScore = profile.totalScore + Event.gained past
  score : s.sitting.score = Event.gained (Event.sitting past)
  totalTime : s.profile.totalTime = profile.totalTime + Event.timeAdded past
  elapsed : s.sitting.elapsed = Event.timeAdded (Event.sitting past)

theorem addsUp_start (catalog : Catalog) (profile : Profile) (words : Words) :
    (start catalog profile words).AddsUp profile [] where
  totalScore := rfl
  score := rfl
  totalTime := rfl
  elapsed := rfl

/-- **Every turn keeps the sums.** -/
theorem AddsUp.turn {profile : Profile} {e : Event} {past : List Event}
    (h : e.session.AddsUp profile past) (ht : e.session.Turn e.deed t) :
    t.AddsUp profile (e :: past) := by
  have hgain : e.gain = e.deed.gain := gain_deed e.session e.request
  refine ⟨?_, ?_, ?_, ?_⟩
  · rw [totalScore_turn ht, h.totalScore, Event.gained_cons, hgain, Nat.add_assoc]
  · rw [score_turn ht, h.score, Event.gained_sitting_cons, hgain]
  · rw [totalTime_turn ht, h.totalTime, Event.timeAdded_cons]
    exact Duration.add_assoc _ _ _
  · rw [elapsed_turn ht, h.elapsed]
    exact Event.timeSpent_cons.symm

/-- **Scores and times are conserved.** Whatever a session is asked, the score of all time is the one
of the beginning and what the replies brought since, and the score of the sitting is what the
replies brought since the sitting began; likewise for the time of all time and the time of the
sitting. A request that is refused changes none of the four. -/
theorem run_conserves_scores (catalog : Catalog) (profile : Profile) (words : Words)
    (requests : List Request) :
    let s := (start catalog profile words).run requests
    let past := (start catalog profile words).events requests
    s.profile.totalScore = profile.totalScore + Event.gained past ∧
      s.sitting.score = Event.gained (Event.sitting past) ∧
      s.profile.totalTime = profile.totalTime + Event.timeAdded past ∧
      s.sitting.elapsed = Event.timeAdded (Event.sitting past) ∧
      ∀ r refusal, (s.serve r).1 = .refused refusal →
        (s.serve r).2.profile.totalScore = s.profile.totalScore ∧
        (s.serve r).2.sitting.score = s.sitting.score ∧
        (s.serve r).2.profile.totalTime = s.profile.totalTime ∧
        (s.serve r).2.sitting.elapsed = s.sitting.elapsed := by
  intro s past
  have hsums : s.AddsUp profile past :=
    run_induction (motive := fun t past => t.AddsUp profile past)
      (addsUp_start catalog profile words) (fun _ _ _ ht h => h.turn ht) requests
  refine ⟨hsums.totalScore, hsums.score, hsums.totalTime, hsums.elapsed, ?_⟩
  intro r refusal hrefused
  rw [serve_of_refused hrefused]
  exact ⟨rfl, rfl, rfl, rfl⟩

end Session

end MotionTutor
