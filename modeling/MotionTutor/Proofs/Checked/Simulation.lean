import MotionTutor.Proofs.Checked.Scanner
import MotionTutor.Proofs.Checked.Selection

/-!
# No run faults

Keys are run with checked operations throughout: the tokens are cut out of the keys by places, and
every command looks at the buffer through them. A command from a cursor in bounds does not fault and
comes to the state of `Simulation.run`, which has its cursor in bounds again (`run_eq`,
`Simulation.inBounds_run`); so no run of commands faults (`runAll_eq`), and the simulation of keys
never leaves the buffer and never faults, from wherever it starts
(`Buffer.simulate_never_faults`).
-/

namespace MotionTutor

namespace Checked

variable {b : Buffer} {s : Simulation}

/-- Runs one command. -/
def run (b : Buffer) (s : Simulation) (t : Token) : Checked Simulation := do
  match t.command with
  | .motion m =>
    match ← destination b s.lastSearch m t.count s.cursor with
    | none => return { s with lastSearch := m.remembered s.lastSearch }
    | some q =>
      return { s with cursor := ← clamp b q, lastSearch := m.remembered s.lastSearch }
  | .object operator o =>
    return { s with selection := ← selectObject b (operator.getD .visual) o s.cursor }
  | .operate operator m =>
    return { s with
      selection := ← selectMotion b s.lastSearch operator m t.count s.cursor
      lastSearch := m.remembered s.lastSearch }
  | .wholeLines operator =>
    return { s with selection := some (← selectWholeLines b operator t.count s.cursor) }
  | .toLineEnd operator =>
    return { s with selection := ← selectToLineEnd b operator s.cursor }
  | .incomplete _ | .unknown _ => return s

/-- Runs commands in order. -/
def runAll (b : Buffer) (s : Simulation) : List Token → Checked Simulation
  | [] => return s
  | t :: tokens => do runAll b (← run b s t) tokens

/-- Runs keys from a start position. -/
def simulate (b : Buffer) (start : Position) (keys : Keys) : Checked Effect := do
  let tokens ← tokensFrom keys 0
  let s ← runAll b ⟨← clamp b start, none, none⟩ tokens
  return ⟨← clamp b s.cursor, s.selection⟩

/-- **A command from a cursor in bounds never faults.** -/
theorem run_eq (h : b.InBounds s.cursor) (t : Token) :
    run b s t = .ok (Simulation.run b s t) := by
  unfold run Simulation.run
  cases t.command with
  | motion m =>
    simp only [destination_eq s.lastSearch m t.count h, ok_bind]
    cases b.destination s.lastSearch m t.count s.cursor with
    | none => rfl
    | some q =>
      simp only [clamp_eq]
      rfl
  | object operator o =>
    simp only [selectObject_eq (operator.getD .visual) o h]
    rfl
  | operate operator m =>
    simp only [selectMotion_eq s.lastSearch operator m t.count h]
    rfl
  | wholeLines operator =>
    simp only [selectWholeLines_eq]
    rfl
  | toLineEnd operator =>
    simp only [selectToLineEnd_eq]
    rfl
  | incomplete keys => rfl
  | unknown keys => rfl

/-- **A run of commands from a cursor in bounds never faults.** -/
theorem runAll_eq (h : b.InBounds s.cursor) (tokens : List Token) :
    runAll b s tokens = .ok (Simulation.runAll b s tokens) := by
  induction tokens generalizing s with
  | nil => rfl
  | cons t tokens ih =>
    rw [runAll, run_eq h t, ok_bind]
    exact ih (Simulation.inBounds_run h t)

end Checked

/-- **The simulation never leaves the buffer and never faults.** For every buffer, every start
position and all keys: the cursor is in bounds after every token, so bringing it back to the buffer
at the end changes nothing; and the run whose look-ups and differences are all checked, from the
cuts of the keys on, comes to the same effect without a fault. -/
theorem Buffer.simulate_never_faults (b : Buffer) (start : Position) (keys : Keys) :
    (∀ n, b.InBounds (Simulation.runAll b (.start b start) ((Token.ofKeys keys).take n)).cursor) ∧
      (b.simulate start keys).position =
        (Simulation.runAll b (.start b start) (Token.ofKeys keys)).cursor ∧
      Checked.simulate b start keys = .ok (b.simulate start keys) := by
  have hstart := Simulation.inBounds_start b start
  have hend := Simulation.inBounds_runAll hstart (Token.ofKeys keys)
  refine ⟨fun n => Simulation.inBounds_runAll hstart _, clamp_of_inBounds hend, ?_⟩
  rw [Checked.simulate, Checked.tokensFrom_eq (Nat.zero_le _), List.drop_zero, Checked.ok_bind,
    Checked.clamp_eq, Checked.ok_bind]
  have hrun := Checked.runAll_eq hstart (Token.ofKeys keys)
  rw [Simulation.start] at hrun
  rw [hrun, Checked.ok_bind, Checked.clamp_eq]
  rfl

end MotionTutor
