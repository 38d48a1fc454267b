import MotionTutor.Proofs.Command.Grammar
import MotionTutor.Proofs.Simulation.Composition
import MotionTutor.Proofs.Travel.Bounds

/-!
# Counts are repetitions

A motion that goes step by step does with a count what it does when its keys are pressed as often
(`Buffer.simulate_counted`), between any keys. With a count it is one command whose loop ends early
on a position that a step does not leave, without a count it is one command for each step, after
which the cursor is brought back to the buffer. The two agree since a step from the buffer stays in
it, and since a position that a step does not leave is not left later either.
-/

namespace MotionTutor

/-- The motions that go step by step, as often as their count says. The others reckon with the
count, or search, or take no count: a zero behind a count belongs to the count. -/
def Motion.isRepeated : Motion → Bool
  | lineStart | firstLine | lastLine | currentLine => false
  | search _ | repeatSearch | repeatSearchReversed => false
  | word .. | firstNonBlank | lineEnd | left | right | down | up => true
  | paragraphBackward | paragraphForward | nextLine | prevLine => true

variable {b : Buffer} {m : Motion} {n : Nat}

theorem Motion.ne_lineStart_of_isRepeated (hm : m.isRepeated = true) : m ≠ .lineStart := by
  rintro rfl
  cases hm

/-! ## 1. Steps -/

namespace Buffer

variable {p : Position}

theorem stepTimes_of_step_eq (h : b.step m p = p) (n : Nat) : b.stepTimes m n p = p := by
  cases n with
  | zero => rfl
  | succ n =>
    rw [stepTimes, h]
    exact if_pos rfl

/-- A step more is one step and then the others, also where a step does not move. -/
theorem stepTimes_succ (b : Buffer) (m : Motion) (n : Nat) (p : Position) :
    b.stepTimes m (n + 1) p = b.stepTimes m n (b.step m p) := by
  rw [stepTimes]
  split
  · rename_i heq
    rw [heq, stepTimes_of_step_eq heq]
  · rfl

theorem destination_of_isRepeated (hm : m.isRepeated = true) (last : Option Search)
    (count : Option Nat) (p : Position) :
    b.destination last m count p = some (b.stepTimes m (timesOf count) p) := by
  cases m with
  | firstLine => cases hm
  | lastLine => cases hm
  | currentLine => cases hm
  | search s => cases hm
  | repeatSearch => cases hm
  | repeatSearchReversed => cases hm
  | _ => rfl

end Buffer

/-! ## 2. Commands -/

namespace Simulation

variable {s : Simulation}

/-- From the buffer such a motion goes its steps and does nothing else. -/
theorem run_of_isRepeated (hm : m.isRepeated = true) (h : b.InBounds s.cursor)
    (count : Option Nat) :
    run b s ⟨count, .motion m⟩ = { s with cursor := b.stepTimes m (timesOf count) s.cursor } := by
  have hremembered : m.remembered s.lastSearch = s.lastSearch := by
    cases m with
    | search s => cases hm
    | _ => rfl
  simp only [run, Buffer.destination_of_isRepeated hm, Option.map_some, Option.getD_some,
    Buffer.clamp_of_inBounds (Buffer.inBounds_stepTimes h m _), hremembered]

/-- **A motion that is run again and again goes as many steps.** -/
theorem runAll_replicate (hm : m.isRepeated = true) (h : b.InBounds s.cursor) (n : Nat) :
    runAll b s (List.replicate n ⟨none, .motion m⟩) =
      { s with cursor := b.stepTimes m n s.cursor } := by
  induction n generalizing s with
  | zero => rfl
  | succ n ih =>
    have hnext := inBounds_run h ⟨none, .motion m⟩
    have hrun := run_of_isRepeated hm h none
    have hstep : b.stepTimes m (timesOf none) s.cursor = b.step m s.cursor :=
      b.stepTimes_succ m 0 s.cursor
    calc runAll b s (List.replicate (n + 1) ⟨none, .motion m⟩)
        = runAll b (run b s ⟨none, .motion m⟩) (List.replicate n ⟨none, .motion m⟩) := rfl
      _ = { s with cursor := b.stepTimes m n (b.step m s.cursor) } := by
        rw [ih hnext, hrun, hstep]
      _ = { s with cursor := b.stepTimes m (n + 1) s.cursor } := by rw [Buffer.stepTimes_succ]

end Simulation

/-! ## 3. Keys -/

namespace Token

/-- The keys of a motion, pressed `n` times, are `n` commands. -/
theorem ofKeys_replicate (hm : m.isRepeated = true) (n : Nat) (rest : Keys) :
    ofKeys ((List.replicate n m.keys).flatten ++ rest) =
      List.replicate n ⟨none, .motion m⟩ ++ ofKeys rest := by
  have hkeys : (List.replicate n m.keys).flatten =
      (List.replicate n (⟨none, .motion m⟩ : Token)).flatMap Token.keys := by
    rw [List.flatMap_replicate]
    rfl
  rw [hkeys]
  refine ofKeys_keys_append (fun t ht => ?_) rest
  rw [List.eq_of_mem_replicate ht]
  have hplain := decide_eq_true (Motion.ne_lineStart_of_isRepeated hm)
  exact ⟨rfl, wellFormed_of_isPlain isCount_none hplain⟩

end Token

/-- **A count means repetition.** Between keys that do not end within a command and any others, a
motion that goes step by step comes with a count to the same position and the same selection as
when its keys are pressed that often. -/
theorem Buffer.simulate_counted (b : Buffer) (start : Position) (before after : Keys)
    (hbefore : ∀ t ∈ (Token.ofKeys before).getLast?, t.pending? = none)
    (hm : m.isRepeated = true) (hn : 1 ≤ n) (hmax : n ≤ maxCount) :
    b.simulate start (before ++ (Decimal.digits n ++ m.keys ++ after)) =
      b.simulate start (before ++ ((List.replicate n m.keys).flatten ++ after)) := by
  have hin := Simulation.inBounds_runAll (Simulation.inBounds_start b start) (Token.ofKeys before)
  have hruns : Simulation.runAll b (.start b start)
        (Token.ofKeys (before ++ (Decimal.digits n ++ m.keys ++ after))) =
      Simulation.runAll b (.start b start)
        (Token.ofKeys (before ++ ((List.replicate n m.keys).flatten ++ after))) := by
    rw [Token.ofKeys_append_of_complete _ hbefore, Token.ofKeys_append_of_complete _ hbefore,
      Token.ofKeys_counted (Motion.ne_lineStart_of_isRepeated hm) hn, Nat.min_eq_right hmax,
      Token.ofKeys_replicate hm, Simulation.runAll_append, Simulation.runAll_append,
      Simulation.runAll_append, Simulation.runAll_replicate hm hin]
    have hrun := Simulation.run_of_isRepeated hm hin (some n)
    rw [timesOf, Option.getD_some, Nat.max_eq_right hn] at hrun
    rw [← hrun]
    rfl
  unfold simulate
  rw [hruns]

/-- The count is larger than the number of words, and what follows depends on where the motion
came to. -/
theorem Buffer.simulate_counted_past_end :
    let b := Buffer.ofTexts ["a.b c", "", "d"]
    let before : Keys := ['f', 'b']
    let after : Keys := ['d', 'b']
    (∀ t ∈ (Token.ofKeys before).getLast?, t.pending? = none) ∧
      b.simulate ⟨0, 0⟩ (before ++ (Decimal.digits 12 ++ ['W'] ++ after)) =
        b.simulate ⟨0, 0⟩ (before ++ ((List.replicate 12 ['W']).flatten ++ after)) := by
  intro b before after
  have hbefore : ∀ t ∈ (Token.ofKeys before).getLast?, t.pending? = none := by decide +kernel
  exact ⟨hbefore, b.simulate_counted ⟨0, 0⟩ before after hbefore
    (m := .word .nextStart .big) rfl (by decide) (by decide)⟩

end MotionTutor
