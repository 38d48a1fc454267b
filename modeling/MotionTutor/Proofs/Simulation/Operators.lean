import MotionTutor.Proofs.Command.Grammar
import MotionTutor.Proofs.Selection.Travelled
import MotionTutor.Proofs.Simulation.Searches

/-!
# Operators and motions from the same cell

After some keys, an operator with a motion selects what the same motion alone would travel over
(`Buffer.simulate_selectsTravelled`). The keys of both are one command, run in the same state: there
the motion leads where `Buffer.destination` says, and the operator takes its region from the same
destination (`Buffer.position_simulate_motion`, `Buffer.selection_simulate_operated`).
-/

namespace MotionTutor.Buffer

variable {m : Motion} {count : Option Nat} {before : Keys}

/-- After some keys, a motion leads from where they led, unless it is a search that fails. -/
theorem position_simulate_motion (b : Buffer) (start : Position)
    (hbefore : ∀ t ∈ (Token.ofKeys before).getLast?, t.pending? = none)
    (hcount : ∀ n ∈ count, 1 ≤ n) (hline : m = .lineStart → count = none) :
    let here := (b.simulate start before).position
    (b.simulate start (before ++ (count.elim [] Decimal.digits ++ m.keys))).position =
      (b.destination (Token.lastSearch? (Token.ofKeys before)) m (count.map (min maxCount))
        here).getD here := by
  intro here
  have hin := Simulation.inBounds_runAll (Simulation.inBounds_start b start) (Token.ofKeys before)
  have hlast := Simulation.lastSearch_runAll_start b start (Token.ofKeys before)
  have hrun := Simulation.runAll_ofKeys_motion (b := b) (u := .start b start) hbefore count hcount
    hline []
  rw [List.append_nil, Token.ofKeys_nil] at hrun
  have hhere : here = (Simulation.runAll b (.start b start) (Token.ofKeys before)).cursor :=
    b.position_simulate start before
  rw [position_simulate, hrun, hhere, ← hlast]
  generalize Simulation.runAll b (.start b start) (Token.ofKeys before) = u at hin
  simp only [Simulation.runAll, List.foldl_nil, Simulation.run]
  cases hd : b.destination u.lastSearch m (count.map (min maxCount)) u.cursor with
  | none => rfl
  | some d => exact clamp_of_inBounds (inBounds_destination hin hd)

/-- After some keys, an operator with a motion selects from where they led. -/
theorem selection_simulate_operated (b : Buffer) (start : Position)
    (hbefore : ∀ t ∈ (Token.ofKeys before).getLast?, t.pending? = none) (operator : Operator)
    (hcount : ∀ n ∈ count, 1 ≤ n) (hline : m = .lineStart → count = none) :
    (b.simulate start
        (before ++ (operator.keys ++ (count.elim [] Decimal.digits ++ m.keys)))).selection =
      b.selectMotion (Token.lastSearch? (Token.ofKeys before)) operator m (count.map (min maxCount))
        (b.simulate start before).position := by
  have hlast := Simulation.lastSearch_runAll_start b start (Token.ofKeys before)
  have hkeys := Token.ofKeys_operated none count operator nofun hcount hline []
  rw [List.append_nil, Token.ofKeys_nil, Option.map_none,
    combineCounts_none_left (isCount_map_min hcount)] at hkeys
  have hsimulate : ∀ keys, (b.simulate start keys).selection =
      (Simulation.runAll b (.start b start) (Token.ofKeys keys)).selection := fun _ => rfl
  have hall := Token.ofKeys_append_of_complete
    (operator.keys ++ (count.elim [] Decimal.digits ++ m.keys)) hbefore
  rw [position_simulate, hsimulate, hall, ← hlast, Simulation.runAll_append]
  exact congrArg (fun ts => (Simulation.runAll b _ ts).selection) hkeys

/-- **An operator selects exactly what its motion travels over.** Behind keys that do not end within
a command, let the motion lead from `p` to `d`, with or without a count; then what the operator
selects with this motion, with the same count, is described by `p` and `d`. -/
theorem simulate_selectsTravelled (b : Buffer) (start : Position) (before : Keys)
    (hbefore : ∀ t ∈ (Token.ofKeys before).getLast?, t.pending? = none) (operator : Operator)
    (m : Motion) (count : Option Nat) (hcount : ∀ n ∈ count, 1 ≤ n)
    (hline : m = .lineStart → count = none) :
    let counted (m : Motion) : Keys := count.elim [] Decimal.digits ++ m.keys
    let selected (m : Motion) :=
      (b.simulate start (before ++ (operator.keys ++ counted m))).selection
    b.SelectsTravelled (Token.lastSearch? (Token.ofKeys before)) operator m
      (count.map (min maxCount)) (b.simulate start before).position
      (b.simulate start (before ++ counted m)).position (selected m)
      (fun size => selected (.word .nextEnd size)) := by
  intro counted selected
  have hd : (b.simulate start (before ++ counted m)).position = _ :=
    b.position_simulate_motion start hbefore hcount hline
  have hselected : selected m = _ :=
    b.selection_simulate_operated start hbefore operator hcount hline
  have hwordEnd : (fun size => selected (.word .nextEnd size)) = _ := funext fun size =>
    b.selection_simulate_operated start hbefore operator (m := .word .nextEnd size) hcount nofun
  rw [hd, hselected, hwordEnd]
  exact selectsTravelled_selectMotion _ operator m _ (inBounds_clamp b _)

/-- Two words back from the start of a line: what is left out is the cell of the cursor, so the
region ends on the empty line above. -/
theorem simulate_selectsTravelled_back :
    let b := Buffer.ofTexts ["ab cd", "", "x y"]
    let before : Keys := ['j']
    let m : Motion := .word .prevStart .small
    let counted (m : Motion) : Keys := Decimal.digits 2 ++ m.keys
    let selected (m : Motion) :=
      (b.simulate ⟨1, 0⟩ (before ++ (Operator.delete.keys ++ counted m))).selection
    (∀ t ∈ (Token.ofKeys before).getLast?, t.pending? = none) ∧ (∀ n ∈ some 2, 1 ≤ n) ∧
      selected m = some ⟨.delete, ⟨0, 3⟩, ⟨1, 0⟩, false⟩ ∧
      b.SelectsTravelled none .delete m (some 2) ⟨2, 0⟩ ⟨0, 3⟩ (selected m)
        (fun size => selected (.word .nextEnd size)) := by
  intro b before m counted selected
  have hbefore : ∀ t ∈ (Token.ofKeys before).getLast?, t.pending? = none := by decide +kernel
  have hcount : ∀ n ∈ some 2, 1 ≤ n := by decide
  have hp : (b.simulate ⟨1, 0⟩ before).position = ⟨2, 0⟩ := by decide +kernel
  have hd : (b.simulate ⟨1, 0⟩ (before ++ counted m)).position = ⟨0, 3⟩ := by decide +kernel
  have hlast : Token.lastSearch? (Token.ofKeys before) = none := by decide +kernel
  have htravelled : b.SelectsTravelled (Token.lastSearch? (Token.ofKeys before)) .delete m (some 2)
      (b.simulate ⟨1, 0⟩ before).position (b.simulate ⟨1, 0⟩ (before ++ counted m)).position
      (selected m) (fun size => selected (.word .nextEnd size)) :=
    b.simulate_selectsTravelled ⟨1, 0⟩ before hbefore .delete m (some 2) hcount nofun
  rw [hlast, hp, hd] at htravelled
  exact ⟨hbefore, hcount, by decide +kernel, htravelled⟩

end MotionTutor.Buffer
