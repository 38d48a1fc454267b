import MotionTutor.Proofs.Buffer.Bounds

/-!
# Selecting leaves the cursor where it is

Of a sequence of commands only some concern the cursor: the plain motions, and the searches under an
operator, of which no more than the search is remembered (`Token.errand?`). Where keys lead is where
these errands lead (`Buffer.position_simulate_errands`).

A command takes its region from the cursor and the last search, and the commands after it never look
at the region. So a run keeps step with its errands once the selection is left out
(`Simulation.unselected_runAll`).
-/

namespace MotionTutor

/-! ## 1. Errands -/

/-- What is left of a command for the cursor. -/
inductive Errand
  /-- A plain motion is run. -/
  | go (count : Option Nat) (m : Motion)
  /-- A search is remembered, and the cursor stays. -/
  | remember (s : Search)
deriving DecidableEq, Repr

/-- What a command leaves for the cursor, if anything: text objects, other motions under operators,
whole lines, the rest of a line and what was not understood leave nothing. -/
def Token.errand? (t : Token) : Option Errand :=
  match t.command with
  | .motion m => some (.go t.count m)
  | .operate _ (.search s) => some (.remember s)
  | _ => none

namespace Simulation

/-- Runs one errand. -/
def runErrand (b : Buffer) (u : Simulation) : Errand → Simulation
  | .go count m => run b u ⟨count, .motion m⟩
  | .remember s => { u with lastSearch := some s }

/-- The same state with nothing selected. -/
def unselected (u : Simulation) : Simulation := { u with selection := none }

/-! ## 2. Runs -/

/-- **But for the selection, a command does its errand and no more.** -/
theorem unselected_run (b : Buffer) (u : Simulation) (t : Token) :
    (run b u t).unselected = t.errand?.elim u.unselected (runErrand b u.unselected) := by
  obtain ⟨count, command⟩ := t
  cases command with
  | operate operator m => cases m <;> rfl
  | _ => rfl

theorem unselected_runAll (b : Buffer) (u : Simulation) (tokens : List Token) :
    (runAll b u tokens).unselected =
      (tokens.filterMap Token.errand?).foldl (runErrand b) u.unselected := by
  induction tokens generalizing u with
  | nil => rfl
  | cons t tokens ih =>
    have hstep := unselected_run b u t
    calc (runAll b u (t :: tokens)).unselected
        = (tokens.filterMap Token.errand?).foldl (runErrand b) (run b u t).unselected :=
          ih (run b u t)
      _ = ((t :: tokens).filterMap Token.errand?).foldl (runErrand b) u.unselected := by
        rw [hstep, List.filterMap_cons]
        cases t.errand? with
        | none => rfl
        | some errand => rfl

end Simulation

/-- **Selecting never moves the cursor.** Keys lead to where the errands of their commands lead: the
plain motions are run one after the other, and of an operator with a search only the search is
remembered. No other search is remembered either. -/
theorem Buffer.position_simulate_errands (b : Buffer) (start : Position) (keys : Keys) :
    let errands := (Token.ofKeys keys).filterMap Token.errand?
    let reached := errands.foldl (Simulation.runErrand b) (.start b start)
    (b.simulate start keys).position = reached.cursor ∧
      (Simulation.runAll b (.start b start) (Token.ofKeys keys)).lastSearch =
        reached.lastSearch := by
  intro errands reached
  have hrun := Simulation.unselected_runAll b (.start b start) (Token.ofKeys keys)
  have hcursor := congrArg Simulation.cursor hrun
  have hlast := congrArg Simulation.lastSearch hrun
  rw [Buffer.position_simulate]
  exact ⟨hcursor, hlast⟩

/-- An operator with a search, whole lines and an object, and then the search is repeated. -/
example : (Token.ofKeys "2dtxyyiw3;".toList).filterMap Token.errand? =
    [.remember ⟨.forward, .besideTarget, 'x'⟩, .go (some 3) .repeatSearch] := by decide +kernel

end MotionTutor
