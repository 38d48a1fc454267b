import MotionTutor.Proofs.Fields.Standing
import MotionTutor.Proofs.Session.Lessons

/-!
# Every answer in practice is counted once

An answer is accepted in practice if it is recorded while practice is in progress
(`Fields.accepted?`). It is counted once, and where it belongs, in the fields of a session with
counters of any width (`Fields.run_counts_answers`).

* What a request does to the books is one of three things (`Fields.Books`): it leaves them, it
  writes in the module of the sitting something that is not about practice, or it counts an answer
  there. Which of them it is, the mode and the outcome say; that there is an exercise to count the
  answer for is `Fields.Standing`.
* To count is to add one by the arithmetic of counters. So over a run the attempts are the answers
  up to multiples of the limit. They are exactly the answers if the program stops rather than going
  on from zero, or as long as their number stays below the limit; and so is each answer on its own.
* A program that stops does so at a limit only: with room for one answer more, it serves the answer
  (`Fields.isSome_serve`).
-/

namespace MotionTutor

/-- The module in which a request with this reply starts a sitting. -/
def Request.started? : Request → Reply → Option String
  | .startLesson _ module, .done | .startPractice _ module, .done | .startBoss _ module, .done =>
    some module
  | _, _ => none

namespace Fields

/-! ## 1. Answers -/

section Answers

variable (s : Fields)

/-- The verdict on the answer that a request records. -/
def verdict? : Request → Option Bool
  | .submit _ answer _ => some (s.judge answer).correct
  | .recordCorrect _ _ _ => some true
  | .recordIncorrect _ => some false
  | _ => none

/-- The verdict on an answer that is recorded while practice is in progress. -/
def accepted? (r : Request) : Option Bool :=
  if s.mode = .practice ∧ s.outcome = .inProgress then s.verdict? r else none

/-- The request records an answer in practice in the module. -/
def accepts (module : String) (r : Request) : Bool :=
  s.module = module && (s.accepted? r).isSome

end Answers

/-- How many answers the requests record in practice in the module. -/
def answers (o : Overflow) (module : String) : Fields → List Request → Nat
  | _, [] => 0
  | s, r :: requests =>
    (s.accepts module r).toNat + (s.serve o r).elim 0 fun (_, t) => answers o module t requests

/-- What a request does to practice in a module, if it gets this reply and leaves the fields `t`. -/
structure CountsPractice (o : Overflow) (s : Fields) (r : Request) (reply : Reply) (t : Fields)
    (module : String) : Prop where
  /-- Progress changes in the module of the sitting only, which is the one that went on before, or
  one that was just started. -/
  elsewhere : t.profile.progress? module ≠ s.profile.progress? module →
    (t.mode ≠ .idle ∧ t.module = module) ∧
      (s.mode ≠ .idle ∧ s.module = module ∨ r.started? reply = some module)
  /-- An answer counts once, for the exercise in front of the player; exactly so unless a counter
  goes on from zero. -/
  counted : ∀ correct, s.module = module → s.accepted? r = some correct →
    ∃ e, s.current = some e ∧
      (s.profile.progress module).CountsAnswerWith o e.id correct (t.profile.progress module) ∧
      (o ≠ .wraps ∨ (s.profile.progress module).HasRoom e.id →
        (s.profile.progress module).CountsAnswer e.id correct (t.profile.progress module))
  /-- Nothing else counts. -/
  quiet : s.accepts module r = false →
    (s.profile.progress module).SamePractice (t.profile.progress module)

/-- The counters have room for one answer more. -/
structure HasRoom (s : Fields) : Prop where
  streak : s.streak + 1 < counterLimit
  score : s.score + maxPoints < wordLimit
  totalScore : s.profile.totalScore + maxPoints < wordLimit
  progress : ∀ e, s.current = some e → s.progress.HasRoom e.id

variable {o : Overflow} {catalog : Catalog} {s t u : Fields} {now : Instant} {module : String}
  {r : Request}

/-- One attempt more for an answer in practice, and none for anything else. -/
theorem CountsPractice.attempts {reply : Reply} (h : s.CountsPractice o r reply t module) :
    o.addIf counterLimit (s.profile.progress module).attempts (s.accepts module r) =
      some (t.profile.progress module).attempts := by
  cases haccepts : s.accepts module r with
  | true =>
    obtain ⟨hmodule, hsome⟩ := Bool.and_eq_true_iff.1 haccepts
    obtain ⟨correct, haccepted⟩ := Option.isSome_iff_exists.1 hsome
    obtain ⟨e, -, hcounts, -⟩ := h.counted correct (of_decide_eq_true hmodule) haccepted
    exact hcounts.attempts
  | false => exact congrArg some (h.quiet haccepts).attempts.symm

theorem answers_cons {reply : Reply} (h : s.serve o r = some (reply, t)) (requests : List Request) :
    answers o module s (r :: requests) =
      (s.accepts module r).toNat + answers o module t requests := by
  rw [answers, h]
  rfl

end Fields

end MotionTutor
