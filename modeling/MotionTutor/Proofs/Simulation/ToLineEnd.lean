import MotionTutor.Proofs.Command.Prefix
import MotionTutor.Proofs.Simulation.Counts
import MotionTutor.Proofs.Simulation.Operators

/-!
# The keys for the rest of a line

`D` is short for `d$`, and `C` for `c$`: both the key and what it is short for are one command, with
or without a count, and leave the cursor and the last search as they are, so what is run behind them
goes on alike. On a line that has characters they select the same, from the cursor to the last
column, whatever the count (`Buffer.selectToLineEnd_of_inBounds`, `Buffer.selectMotion_lineEnd`).

On an empty line they part. The key selects nothing there; the motion to the end of the line stays
in the first column, and an operator includes the cell where it ends, so it selects a cell that the
line does not have. A command behind that decides what is selected hides the difference, and nothing
else does (`Buffer.simulate_toLineEnd`, `Buffer.simulate_toLineEnd_empty_line`).
-/

namespace MotionTutor

variable {b : Buffer} {p : Position} {count : Option Nat} {key : Char} {operator : Operator}

/-! ## 1. The keys -/

namespace Token

/-- The key for the rest of the line, behind a count if there is one, is one command. -/
theorem ofKeys_toLineEnd (hcount : ∀ n ∈ count, 1 ≤ n)
    (hkey : Operator.toLineEnd? key = some operator) (rest : Keys) :
    ofKeys (count.elim [] Decimal.digits ++ [key] ++ rest) =
      ⟨count.map (min maxCount), .toLineEnd operator⟩ :: ofKeys rest := by
  have hwf := wellFormed_toLineEnd (isCount_map_min hcount) (Operator.eq_of_toLineEnd? hkey)
  rw [← Operator.keys_of_toLineEnd? hkey]
  exact ofKeys_counted_command hcount hwf rfl nofun rest

/-- So are the keys that it is short for. -/
theorem ofKeys_operated_lineEnd (hcount : ∀ n ∈ count, 1 ≤ n) (operator : Operator) (rest : Keys) :
    ofKeys (count.elim [] Decimal.digits ++ (operator.keys ++ Motion.lineEnd.keys) ++ rest) =
      ⟨count.map (min maxCount), .operate operator .lineEnd⟩ :: ofKeys rest := by
  have hwf : WellFormed ⟨count.map (min maxCount), .operate operator .lineEnd⟩ :=
    wellFormed_of_isPlain (isCount_map_min hcount) rfl
  exact ofKeys_counted_command hcount hwf rfl nofun rest

end Token

/-! ## 2. The regions -/

namespace Buffer

/-- The region from a cell to the last column of its line. -/
def restOfLine (b : Buffer) (operator : Operator) (p : Position) : Selection :=
  ⟨operator, p, ⟨p.line, b.lastCol p.line⟩, false⟩

/-- What the key selects. -/
theorem selectToLineEnd_of_inBounds (hp : b.InBounds p) (operator : Operator) :
    b.selectToLineEnd operator p =
      if b.lineLength p.line = 0 then none else some (b.restOfLine operator p) := by
  rw [selectToLineEnd, Nat.min_eq_left hp.col_le]
  rfl

/-- At the end of the line more steps to it do not move. -/
theorem stepTimes_lineEnd (b : Buffer) (p : Position) {n : Nat} (hn : 1 ≤ n) :
    b.stepTimes .lineEnd n p = ⟨p.line, b.lastCol p.line⟩ := by
  obtain ⟨k, rfl⟩ := Nat.exists_eq_add_of_le' hn
  rw [stepTimes_succ]
  exact stepTimes_of_step_eq rfl k

/-- What the operator selects with the motion to the end of the line, with any count. -/
theorem selectMotion_lineEnd (hp : b.InBounds p) (last : Option Search) (operator : Operator)
    (count : Option Nat) :
    b.selectMotion last operator .lineEnd count p = some (b.restOfLine operator p) := by
  have htimes : 1 ≤ timesOf count := Nat.le_max_left _ _
  have hd : b.destination last .lineEnd count p = some ⟨p.line, b.lastCol p.line⟩ := by
    rw [destination_of_isRepeated rfl, stepTimes_lineEnd b p htimes]
  have hle : p ≤ ⟨p.line, b.lastCol p.line⟩ := .inr ⟨rfl, hp.col_le⟩
  rw [selectMotion_of_not_isLinewise hp rfl rfl hd, if_pos (.inr rfl), Position.earlier_of_le hle,
    Position.later_of_le hle, restOfLine]

end Buffer

/-! ## 3. The commands -/

namespace Simulation

variable {s : Simulation}

theorem run_toLineEnd (hs : b.InBounds s.cursor) (count : Option Nat) (operator : Operator) :
    run b s ⟨count, .toLineEnd operator⟩ =
      { s with selection :=
          if b.lineLength s.cursor.line = 0 then none
          else some (b.restOfLine operator s.cursor) } := by
  simp only [run, Buffer.selectToLineEnd_of_inBounds hs]

theorem run_operate_lineEnd (hs : b.InBounds s.cursor) (count : Option Nat) (operator : Operator) :
    run b s ⟨count, .operate operator .lineEnd⟩ =
      { s with selection := some (b.restOfLine operator s.cursor) } := by
  simp only [run, Buffer.selectMotion_lineEnd hs, Motion.remembered]

/-- Commands go on alike from states that differ in their selections only, and select the same if
one of them decides on it. -/
theorem runAll_selected (s : Simulation) (x y : Option Selection) (tokens : List Token) :
    let reached (x : Option Selection) := runAll b { s with selection := x } tokens
    (reached x).cursor = (reached y).cursor ∧
      ((reached x).selection = (reached y).selection ↔
        x = y ∨ tokens.any (·.command.selects) = true) := by
  intro reached
  have halike : Alike tokens { s with selection := x } { s with selection := y } := ⟨rfl, .inl rfl⟩
  obtain ⟨hcursor, hselection⟩ := runAll_alike (b := b) halike
  refine ⟨hcursor, fun heq => ?_, hselection⟩
  cases hany : tokens.any (·.command.selects) with
  | true => exact .inr rfl
  | false =>
    have hnone : ∀ t ∈ tokens, t.command.selects = false := by simpa using hany
    simp only [reached, selection_runAll_of_not_selects hnone] at heq
    exact .inl heq

end Simulation

/-! ## 4. The key and what it is short for -/

namespace Buffer

/-- A command between other keys is run in the state that the keys before it left. -/
theorem simulate_between (b : Buffer) (start : Position) {before middle after : Keys} {t : Token}
    (hbefore : ∀ t ∈ (Token.ofKeys before).getLast?, t.pending? = none)
    (hmiddle : Token.ofKeys (middle ++ after) = t :: Token.ofKeys after) :
    b.simulate start (before ++ (middle ++ after)) =
      let u := Simulation.runAll b (.start b start) (Token.ofKeys before)
      let s := Simulation.runAll b (Simulation.run b u t) (Token.ofKeys after)
      ⟨b.clamp s.cursor, s.selection⟩ := by
  rw [simulate, Token.ofKeys_append_of_complete _ hbefore, Simulation.runAll_append, hmiddle]
  rfl

/-- **`D` is short for `d$` and `C` for `c$`, but on empty lines.** Between any keys, with a count
or without, both lead to the same position. They select the same if the line of the cursor has a
character or a command behind decides what is selected, and only then. With no such command behind,
the operator selects the rest of the line, and so does the key, but on an empty line the key selects
nothing. -/
theorem simulate_toLineEnd (b : Buffer) (start : Position) (before after : Keys)
    (hbefore : ∀ t ∈ (Token.ofKeys before).getLast?, t.pending? = none)
    (hkey : Operator.toLineEnd? key = some operator) (hcount : ∀ n ∈ count, 1 ≤ n) :
    let here := (b.simulate start before).position
    let counted (keys : Keys) : Keys := count.elim [] Decimal.digits ++ keys
    let short := b.simulate start (before ++ (counted [key] ++ after))
    let long :=
      b.simulate start (before ++ (counted (operator.keys ++ Motion.lineEnd.keys) ++ after))
    let decides := (Token.ofKeys after).any (·.command.selects)
    short.position = long.position ∧
      (short.selection = long.selection ↔ b.lineLength here.line ≠ 0 ∨ decides = true) ∧
      (decides = false → long.selection = some (b.restOfLine operator here) ∧
        short.selection =
          if b.lineLength here.line = 0 then none else some (b.restOfLine operator here)) := by
  intro here counted short long decides
  have hshort : short = _ :=
    b.simulate_between start hbefore (Token.ofKeys_toLineEnd hcount hkey after)
  have hlong : long = _ :=
    b.simulate_between start hbefore (Token.ofKeys_operated_lineEnd hcount operator after)
  have hin := Simulation.inBounds_runAll (Simulation.inBounds_start b start) (Token.ofKeys before)
  have hhere : here = _ := b.position_simulate start before
  dsimp only at hshort hlong
  rw [Simulation.run_toLineEnd hin] at hshort
  rw [Simulation.run_operate_lineEnd hin] at hlong
  rw [hshort, hlong, hhere]
  generalize Simulation.runAll b (.start b start) (Token.ofKeys before) = u
  obtain ⟨hcursor, hselection⟩ := Simulation.runAll_selected (b := b) u
    (if b.lineLength u.cursor.line = 0 then none else some (b.restOfLine operator u.cursor))
    (some (b.restOfLine operator u.cursor)) (Token.ofKeys after)
  refine ⟨congrArg b.clamp hcursor, hselection.trans (or_congr_left ?_), fun hnone => ?_⟩
  · by_cases hempty : b.lineLength u.cursor.line = 0
    · simp [hempty]
    · simp [hempty]
  · have hall : ∀ t ∈ Token.ofKeys after, t.command.selects = false := by
      simpa [decides] using hnone
    exact ⟨Simulation.selection_runAll_of_not_selects hall,
      Simulation.selection_runAll_of_not_selects hall⟩

/-- Behind a motion, with a count, and with a motion behind that decides nothing. -/
theorem simulate_toLineEnd_counted :
    let b := ofTexts ["", "ab", "c"]
    let before : Keys := ['j', 'l']
    (∀ t ∈ (Token.ofKeys before).getLast?, t.pending? = none) ∧
      Operator.toLineEnd? 'D' = some .delete ∧ (∀ n ∈ some 2, 1 ≤ n) ∧
      (b.simulate ⟨0, 0⟩ (before ++ (['2', 'D'] ++ ['k']))).selection =
        some ⟨.delete, ⟨1, 1⟩, ⟨1, 1⟩, false⟩ ∧
      (b.simulate ⟨0, 0⟩ (before ++ (['2', 'd', '$'] ++ ['k']))).selection =
        some ⟨.delete, ⟨1, 1⟩, ⟨1, 1⟩, false⟩ := by
  intro b before
  have hbefore : ∀ t ∈ (Token.ofKeys before).getLast?, t.pending? = none := by decide +kernel
  have hkey : Operator.toLineEnd? 'D' = some .delete := rfl
  have hcount : ∀ n ∈ some 2, 1 ≤ n := by decide
  have hhere : (b.simulate ⟨0, 0⟩ before).position = ⟨1, 1⟩ := by decide +kernel
  obtain ⟨-, -, hselected⟩ := b.simulate_toLineEnd ⟨0, 0⟩ before ['k'] hbefore hkey hcount
  obtain ⟨hlong, hshort⟩ := hselected (by decide +kernel)
  rw [hhere] at hlong hshort
  exact ⟨hbefore, hkey, hcount, hshort, hlong⟩

/-- On an empty line the key selects nothing, and what it is short for a cell that is not there. -/
theorem simulate_toLineEnd_empty_line :
    let b := ofTexts [""]
    (b.simulate ⟨0, 0⟩ ['D']).selection = none ∧
      (b.simulate ⟨0, 0⟩ ['d', '$']).selection = some ⟨.delete, ⟨0, 0⟩, ⟨0, 0⟩, false⟩ ∧
      b.charAt ⟨0, 0⟩ = none := by
  decide +kernel

end Buffer

end MotionTutor
