import MotionTutor.Proofs.Session.Scores

/-!
# Answers that count

An answer is recorded with or without being judged, and it counts while the sitting is in progress
(`Session.accepted?`). One that does not count changes nothing (`Session.serve_of_not_accepted`). One
that counts and is right brings the points of the exercise at hand for the combo at hand
(`Session.gain_of_right`). The answers that counted are read off the events, the latest first
(`Event.answers`).
-/

namespace MotionTutor

namespace Session

variable {s : Session} {r : Request} {correct : Bool}

/-! ## 1. Answers -/

/-- The verdict on the answer that a request records, if it counts. -/
def accepted? (s : Session) (r : Request) : Option Bool :=
  if s.outcome = .inProgress then s.verdict? r else none

/-- What counts is answered while the sitting is in progress. -/
theorem outcome_of_accepted? (h : s.accepted? r = some correct) : s.outcome = .inProgress := by
  refine Classical.byContradiction fun hnot => ?_
  rw [accepted?, if_neg hnot] at h
  cases h

theorem isInProgress_iff : s.sitting.isInProgress = true ↔ s.outcome = .inProgress :=
  decide_eq_true_iff

/-- What counts as an answer is what came to one. -/
theorem answer?_deed_eq_accepted? (s : Session) (r : Request) :
    (s.deed r).answer? = s.accepted? r := by
  rw [answer?_deed, accepted?]
  simp only [isInProgress_iff]

/-- An answer that does not count changes nothing. -/
theorem serve_of_not_accepted (hverdict : s.verdict? r = some correct)
    (h : s.accepted? r = none) : (s.serve r).2 = s := by
  have hin : ¬ s.sitting.isInProgress = true := by
    rw [isInProgress_iff]
    intro hin
    rw [accepted?, if_pos hin, hverdict] at h
    cases h
  cases r with
  | submit now answer elapsed =>
    rw [serve, submit]
    dsimp only
    split
    · rw [recordCorrect_of_not hin]
    · rw [recordIncorrect_of_not hin]
  | recordCorrect now elapsed optimal => exact congrArg Prod.snd (recordCorrect_of_not hin ..)
  | recordIncorrect now => exact recordIncorrect_of_not hin now
  | _ => cases hverdict

/-! ## 2. Points -/

/-- What the points for a right answer go by, beside the exercise and the combo. -/
def scoring? (s : Session) : Request → Option (Float × Bool)
  | .submit _ answer elapsed => some (elapsed, (s.judge answer).optimal)
  | .recordCorrect _ elapsed optimal => some (elapsed, optimal)
  | _ => none

theorem recordCorrect_points (hin : s.sitting.isInProgress = true) (now : Instant)
    (elapsed : Float) (optimal : Bool) :
    (s.recordCorrect now elapsed optimal).1 = s.pointsFor elapsed optimal := by
  rw [recordCorrect, if_pos hin]

/-- **A right answer brings the points of the exercise at hand**, for the combo at hand. -/
theorem gain_of_right (h : s.accepted? r = some true) :
    ∃ elapsed optimal, s.scoring? r = some (elapsed, optimal) ∧
      r.gain (s.serve r).1 = s.pointsFor elapsed optimal := by
  have hin := outcome_of_accepted? h
  rw [accepted?, if_pos hin] at h
  rw [← isInProgress_iff] at hin
  cases r with
  | submit now answer elapsed =>
    have hcorrect : (s.judge answer).correct = true := Option.some.inj h
    refine ⟨elapsed, _, rfl, ?_⟩
    rw [serve, submit]
    dsimp only
    rw [if_pos hcorrect]
    exact recordCorrect_points hin now elapsed _
  | recordCorrect now elapsed optimal =>
    exact ⟨elapsed, optimal, rfl, recordCorrect_points hin now elapsed optimal⟩
  | recordIncorrect now => cases h
  | _ => cases h

end Session

/-! ## 3. Events -/

namespace Event

/-- The verdict on the answer that an event recorded, if it counted. -/
def answer? (e : Event) : Option Bool := e.session.accepted? e.request

/-- The verdicts on the answers that counted, the latest first. -/
def answers (past : List Event) : List Bool := past.filterMap answer?

variable {e : Event} {past : List Event}

theorem answer?_deed (e : Event) : e.deed.answer? = e.answer? :=
  e.session.answer?_deed_eq_accepted? e.request

end Event

end MotionTutor
