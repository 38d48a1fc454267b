import MotionTutor.Proofs.SortedMap
import MotionTutor.Proofs.Session.Standing

/-!
# What a turn writes, and what it answers

The progress in modules is written by notes only. This file says what a note does to the progress in
each module (`Session.progress?_noted`, `Session.progress_noted`) and that **a turn writes in the
module of the sitting only**, whatever it writes (`Session.progress?_turn`).

It also ties requests to what they come to: a request may record an answer (`Session.verdict?`), and
the answer counts if the sitting is in progress (`Session.answer?_deed`).
-/

namespace MotionTutor

/-! ## 1. Progress by modules -/

namespace Profile

theorem progress?_modifyProgress (p : Profile) (module module' : String)
    (f : Progress → Progress) :
    (p.modifyProgress module f).progress? module' =
      if module' = module then some (f (p.progress module)) else p.progress? module' :=
  SortedMap.find?_modify p.modules module (fun m => f (m.getD .fresh)) module'

theorem progress_modifyProgress (p : Profile) (module module' : String)
    (f : Progress → Progress) :
    (p.modifyProgress module f).progress module' =
      if module' = module then f (p.progress module') else p.progress module' := by
  unfold progress
  rw [progress?_modifyProgress]
  split
  · rename_i heq
    rw [heq]
    rfl
  · rfl

theorem progress?_markBossDefeated (p : Profile) (module module' : String) :
    (p.markBossDefeated module).progress? module' = p.progress? module' := by
  unfold progress?
  rw [modules_markBossDefeated]

theorem progress_markBossDefeated (p : Profile) (module module' : String) :
    (p.markBossDefeated module).progress module' = p.progress module' := by
  unfold progress
  rw [progress?_markBossDefeated]

/-- A test that fresh progress fails does not see whether there is progress. -/
theorem any_progress? (p : Profile) (module : String) {test : Progress → Bool}
    (hfresh : test .fresh = false) :
    (p.progress? module).any test = test (p.progress module) := by
  unfold progress
  cases p.progress? module with
  | none => exact hfresh.symm
  | some m => rfl

end Profile

/-! ## 2. Notes -/

namespace Session

variable {s t : Session} {d : Deed} {c : Chapter} {module : String}

/-- The module of the sitting. -/
def module? (s : Session) : Option String := s.sitting.activity.chapter?.map Chapter.id

theorem progress?_noted (s : Session) (c : Chapter) (note : Note) (module : String) :
    (s.noted c note).profile.progress? module =
      if module = c.id then some (note.write (s.profile.progress c.id))
      else s.profile.progress? module :=
  Profile.progress?_modifyProgress s.profile c.id module note.write

/-- A note in one module leaves the progress in all others. -/
theorem progress_noted (s : Session) (c : Chapter) (note : Note) (module : String) :
    (s.noted c note).profile.progress module =
      if module = c.id then note.write (s.profile.progress module)
      else s.profile.progress module :=
  Profile.progress_modifyProgress s.profile c.id module note.write

theorem progress_noted_self {note : Note} :
    (s.noted c note).profile.progress c.id = note.write (s.profile.progress c.id) := by
  rw [progress_noted, if_pos rfl]

theorem progress_addScore (s : Session) (points : Nat) (module : String) :
    (s.addScore points).profile.progress module = s.profile.progress module := rfl

/-- A note in the module of the sitting leaves the progress in every other module. -/
theorem progress?_noted_of_ne {note : Note} (hc : (s.noted c note).module? = some c.id)
    (h : (s.noted c note).module? ≠ some module) :
    (s.noted c note).profile.progress? module = s.profile.progress? module := by
  rw [progress?_noted, if_neg]
  rintro rfl
  exact h hc

theorem module?_of_activity {a : Activity} (ha : s.sitting.activity = a) :
    s.module? = a.chapter?.map Chapter.id := by
  unfold module?
  rw [ha]

/-- **A turn leaves the progress in every module but that of the sitting.** -/
theorem progress?_turn (ht : s.Turn d t) (h : t.module? ≠ some module) :
    t.profile.progress? module = s.profile.progress? module := by
  cases ht with
  | lessons now hopen => exact progress?_noted_of_ne rfl h
  | fight now hopen hboss => exact progress?_noted_of_ne rfl h
  | rightLesson ha hlt points => exact progress?_noted_of_ne (module?_of_activity ha) h
  | rightPractice ha now points => exact progress?_noted_of_ne (module?_of_activity ha) h
  | wrongPractice ha now => exact progress?_noted_of_ne (module?_of_activity ha) h
  | lastLesson ha hlast => exact progress?_noted_of_ne rfl h
  | won ha hfight hfirst =>
    refine (progress?_noted_of_ne rfl h).trans ?_
    exact s.profile.progress?_markBossDefeated _ module
  | _ => rfl

theorem progress_noted_cases (s : Session) (c : Chapter) (note : Note) (module : String) :
    (s.noted c note).profile.progress module = s.profile.progress module ∨
      ∃ note' : Note,
        (s.noted c note).profile.progress module = note'.write (s.profile.progress module) := by
  rw [progress_noted]
  split
  · exact Or.inr ⟨note, rfl⟩
  · exact Or.inl rfl

/-- A turn writes one note at most into the progress in a module. -/
theorem progress_turn (ht : s.Turn d t) (module : String) :
    t.profile.progress module = s.profile.progress module ∨
      ∃ note : Note, t.profile.progress module = note.write (s.profile.progress module) := by
  cases ht with
  | lessons now hopen => exact progress_noted_cases _ _ _ module
  | fight now hopen hboss => exact progress_noted_cases _ _ _ module
  | rightLesson ha hlt points => exact progress_noted_cases _ _ _ module
  | rightPractice ha now points => exact progress_noted_cases _ _ _ module
  | wrongPractice ha now => exact progress_noted_cases _ _ _ module
  | lastLesson ha hlast => exact progress_noted_cases _ _ _ module
  | @won c fight ha hfight hfirst =>
    rw [progress_addScore, ← s.profile.progress_markBossDefeated c.id module]
    exact progress_noted_cases _ _ _ module
  | _ => exact Or.inl rfl

end Session

/-! ## 3. Answers -/

/-- The verdict on an answer that counted. -/
def Deed.answer? : Deed → Option Bool
  | right _ => some true
  | wrong => some false
  | _ => none

namespace Session

variable (s : Session)

/-- The verdict on the answer that a request records. -/
def verdict? : Request → Option Bool
  | .submit _ answer _ => some (s.judge answer).correct
  | .recordCorrect _ _ _ => some true
  | .recordIncorrect _ => some false
  | _ => none

/-- Whatever a start comes to, it is no answer. -/
theorem answer?_started (start : Except Refusal Session) {r : Request} (inProgress : Bool)
    (hr : ∀ refusal, r.deed inProgress (.refused refusal) = .other)
    (hdone : (r.deed inProgress .done).answer? = none) :
    (r.deed inProgress (s.started start).1).answer? = none := by
  cases start with
  | ok t => exact hdone
  | error refusal =>
    show (r.deed inProgress (.refused refusal)).answer? = none
    rw [hr]
    rfl

/-- **The answer that a request records counts while the sitting is in progress.** -/
theorem answer?_deed (r : Request) :
    (s.deed r).answer? = if s.sitting.isInProgress then s.verdict? r else none := by
  -- a request that records no answer has none that could count
  have hnone : (if s.sitting.isInProgress then (none : Option Bool) else none) = none :=
    ite_self none
  unfold deed
  cases r with
  | startLesson now module => exact (s.answer?_started _ _ (fun _ => rfl) rfl).trans hnone.symm
  | startPractice now module => exact (s.answer?_started _ _ (fun _ => rfl) rfl).trans hnone.symm
  | startBoss now module => exact (s.answer?_started _ _ (fun _ => rfl) rfl).trans hnone.symm
  | submit now answer elapsed =>
    have hreply : ∃ points, (s.serve (.submit now answer elapsed)).1 =
        .judged (s.judge answer) points := by
      rw [serve, submit]
      dsimp only
      split <;> exact ⟨_, rfl⟩
    obtain ⟨points, hreply⟩ := hreply
    rw [hreply, Request.deed, verdict?]
    cases s.sitting.isInProgress <;> cases (s.judge answer).correct <;> rfl
  | recordCorrect now elapsed optimal =>
    show (if s.sitting.isInProgress then Deed.right _ else .other).answer? = _
    cases s.sitting.isInProgress <;> rfl
  | recordIncorrect now =>
    show (if s.sitting.isInProgress then Deed.wrong else .other).answer? = _
    cases s.sitting.isInProgress <;> rfl
  | recordVictory =>
    refine Eq.trans ?_ hnone.symm
    show (Request.deed _ .recordVictory (.told s.recordVictory.1)).answer? = none
    cases s.recordVictory.1 <;> rfl
  | _ => exact hnone.symm

end Session

end MotionTutor
