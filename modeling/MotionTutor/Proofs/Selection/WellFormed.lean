import MotionTutor.Proofs.Buffer.Bounds
import MotionTutor.Proofs.Selection.Within

/-!
# Selections are well formed

Whatever keys are run, a selection that is left is a region of the buffer with its ends in reading
order, and one of whole lines begins and ends with its lines (`Selection.WellFormed`). It is built
in one of five ways, each of which makes well-formed regions from a cursor in bounds: whole lines,
an object, the rest of a line, an operator with a motion, a doubled operator. An object other than
a paragraph, and the rest of a line, lie on the line of the cursor (`Command.withinLine`).
-/

namespace MotionTutor

/-- A region of the buffer: its ends are cells in reading order, and whole lines are whole. -/
structure Selection.WellFormed (b : Buffer) (s : Selection) : Prop where
  first_le : s.first ≤ s.last
  first_inBounds : b.InBounds s.first
  last_inBounds : b.InBounds s.last
  linewise : s.linewise = true → s.first.col = 0 ∧ s.last.col = b.lastCol s.last.line

namespace Buffer

variable {b : Buffer} {p : Position}

/-! ## 1. Whole lines and parts of a line -/

theorem wellFormed_ofLines (operator : Operator) {first last : Nat} (hle : first ≤ last)
    (hlast : last ≤ b.lastLine) : (Selection.ofLines b operator first last).WellFormed b where
  first_le := by
    simp only [Selection.ofLines, Position.le_def]
    omega
  first_inBounds := ⟨Nat.le_trans hle hlast, Nat.zero_le _⟩
  last_inBounds := ⟨hlast, Nat.le_refl _⟩
  linewise _ := ⟨rfl, rfl⟩

theorem wellFormed_ofColumns (operator : Operator) {line : Nat} {c : Columns}
    (hline : line ≤ b.lastLine) (hc : c.Within (b.lineLength line)) :
    (Selection.ofColumns operator line c.first c.last).WellFormed b := by
  have hfirst := hc.first_le
  have hlast := hc.last_lt
  have hcol : c.last ≤ b.lastCol line := by rw [lastCol]; omega
  exact ⟨Or.inr ⟨rfl, hfirst⟩, ⟨hline, Nat.le_trans hfirst hcol⟩, ⟨hline, hcol⟩,
    fun hl => absurd hl Bool.false_ne_true⟩

theorem add_runFrom_le_lastLine {n : Nat} (test : List Char → Bool) (h : n ≤ b.lastLine) :
    n + runFrom test b.lines (n + 1) ≤ b.lastLine := by
  have hpos := b.length_pos
  rw [lastLine] at h ⊢
  have hrun := add_runFrom_le test (show n + 1 ≤ b.lines.length by omega)
  omega

theorem paragraph_bounds (around : Bool) {n : Nat} (h : n ≤ b.lastLine) :
    (b.paragraph around n).1 ≤ (b.paragraph around n).2 ∧
      (b.paragraph around n).2 ≤ b.lastLine := by
  have hlast := add_runFrom_le_lastLine (fun cells => isBlankText cells == isBlankText (b.line n)) h
  cases around with
  | false =>
    simp only [paragraph, Bool.false_eq_true, if_false]
    omega
  | true =>
    have hmore := add_runFrom_le_lastLine
      (fun cells => !(isBlankText cells == isBlankText (b.line n))) hlast
    simp only [paragraph, if_true]
    omega

/-- A region chosen by an object is well formed, and on the line of the cursor if the object is not
a paragraph. -/
theorem wellFormed_selectObject {operator : Operator} {o : TextObject} {s : Selection}
    (hp : b.InBounds p) (h : b.selectObject operator o p = some s) :
    s.WellFormed b ∧ (o.kind ≠ .paragraph → s.first.line = p.line ∧ s.last.line = p.line) := by
  unfold selectObject at h
  split at h
  · rename_i hk
    cases h
    obtain ⟨hle, hlast⟩ := paragraph_bounds o.around hp.line_le
    exact ⟨wellFormed_ofLines operator hle hlast, fun hne => absurd hk hne⟩
  · split at h
    · cases h
    · rename_i hlen
      obtain ⟨c, hc, hs⟩ := Option.map_eq_some_iff.mp h
      cases hs
      have hcol : min p.col (b.lastCol p.line) < (b.line p.line).length := by
        rw [Nat.min_eq_left hp.col_le]
        exact hp.col_lt hlen
      exact ⟨wellFormed_ofColumns operator hp.line_le (ObjectKind.within_columns? hcol hc),
        fun _ => ⟨rfl, rfl⟩⟩

theorem wellFormed_selectToLineEnd {operator : Operator} {s : Selection} (hp : b.InBounds p)
    (h : b.selectToLineEnd operator p = some s) :
    s.WellFormed b ∧ s.first.line = p.line ∧ s.last.line = p.line := by
  unfold selectToLineEnd at h
  split at h
  · cases h
  · rename_i hlen
    cases h
    have hlast : b.lastCol p.line < b.lineLength p.line := by rw [lastCol]; omega
    exact ⟨wellFormed_ofColumns operator (c := ⟨_, _⟩) hp.line_le ⟨Nat.min_le_right _ _, hlast⟩,
      rfl, rfl⟩

theorem wellFormed_selectWholeLines (operator : Operator) (count : Option Nat)
    (hp : b.InBounds p) : (b.selectWholeLines operator count p).WellFormed b := by
  have hline := hp.line_le
  exact wellFormed_ofLines operator (by omega) (Nat.min_le_right _ _)

/-! ## 2. Regions of a motion -/

variable {first last : Position}

/-- The cell before a later one lies in bounds, and not before an earlier cell. -/
theorem stepBack_bounds (hfirst : b.InBounds first) (hlast : b.InBounds last) (h : first < last) :
    first ≤ exclusiveEnd.stepBack b last ∧ b.InBounds (exclusiveEnd.stepBack b last) := by
  have hcol := hfirst.col_le
  have hline := hlast.line_le
  have hlcol := hlast.col_le
  rw [Position.lt_def] at h
  rw [exclusiveEnd.stepBack]
  split
  · -- the cell before column 0 is the last one of the line above
    rename_i hzero
    refine ⟨?_, by simp only; omega, Nat.le_refl _⟩
    rw [Position.le_def]
    by_cases hl : first.line = last.line - 1
    · rw [hl] at hcol
      exact Or.inr ⟨hl, hcol⟩
    · exact Or.inl (by simp only; omega)
  · refine ⟨?_, hline, by simp only; omega⟩
    rw [Position.le_def]
    simp only
    omega

theorem exclusiveEnd_bounds (m : Motion) (hfirst : b.InBounds first) (hlast : b.InBounds last)
    (h : first < last) :
    first ≤ b.exclusiveEnd m first last ∧ b.InBounds (b.exclusiveEnd m first last) := by
  unfold exclusiveEnd
  split
  · split
    · exact ⟨Or.inr ⟨rfl, hfirst.col_le⟩, hfirst.line_le, Nat.le_refl _⟩
    · exact stepBack_bounds hfirst hlast h
  · exact stepBack_bounds hfirst hlast h

/-- Two cells in bounds, put in reading order. -/
theorem ordered_bounds {p q : Position} (hp : b.InBounds p) (hq : b.InBounds q) :
    (if q < p then (q, p) else (p, q)).1 ≤ (if q < p then (q, p) else (p, q)).2 ∧
      b.InBounds (if q < p then (q, p) else (p, q)).1 ∧
      b.InBounds (if q < p then (q, p) else (p, q)).2 := by
  split
  · rename_i hlt
    exact ⟨Position.le_of_lt hlt, hq, hp⟩
  · rename_i hlt
    exact ⟨Position.le_of_not_lt hlt, hp, hq⟩

theorem lt_of_le_of_ne {p q : Position} (hle : p ≤ q) (hne : p ≠ q) : p < q := by
  rw [Position.le_def] at hle
  rw [Position.lt_def]
  have hcol : p.line = q.line → p.col ≠ q.col := by
    intro hl hc
    obtain ⟨pl, pc⟩ := p
    obtain ⟨ql, qc⟩ := q
    exact hne (Position.mk.injEq .. ▸ ⟨hl, hc⟩)
  omega

/-- **The region of an operator and a motion is well formed.** -/
theorem wellFormed_selectMotion {lastSearch : Option Search} {operator : Operator}
    {motion : Motion} {count : Option Nat} {s : Selection} (hp : b.InBounds p)
    (h : b.selectMotion lastSearch operator motion count p = some s) : s.WellFormed b := by
  unfold selectMotion at h
  dsimp only at h
  split at h
  · cases h
  · rename_i q hq
    obtain ⟨q', -, rfl⟩ := Option.map_eq_some_iff.mp hq
    have hq := b.inBounds_clamp q'
    split at h
    · cases h
      have hpl := hp.line_le
      have hql := hq.line_le
      exact wellFormed_ofLines operator (by omega) (by omega)
    · have hends := ordered_bounds hp hq
      generalize (if b.clamp q' < p then (b.clamp q', p) else (p, b.clamp q')) = ends at h hends
      obtain ⟨first, last⟩ := ends
      obtain ⟨hle, hfirst, hlast⟩ := hends
      dsimp only at h
      split at h
      · cases h
        exact ⟨hle, hfirst, hlast, fun hl => absurd hl Bool.false_ne_true⟩
      · split at h
        · cases h
        · rename_i hne
          cases h
          obtain ⟨hle', hlast'⟩ := exclusiveEnd_bounds _ hfirst hlast (lt_of_le_of_ne hle hne)
          exact ⟨hle', hfirst, hlast', fun hl => absurd hl Bool.false_ne_true⟩

end Buffer

/-! ## 3. Runs -/

namespace Command

/-- Whether the command decides what is selected, even if it selects nothing. -/
def selects : Command → Bool
  | object .. | operate .. | wholeLines _ | toLineEnd _ => true
  | _ => false

/-- Whether what the command selects lies on the line of the cursor: an object other than a
paragraph, and the rest of the line. -/
def withinLine : Command → Bool
  | object _ o => o.kind ≠ .paragraph
  | toLineEnd _ => true
  | _ => false

end Command

namespace Simulation

variable {b : Buffer}

/-- What one command selects is well formed. -/
theorem wellFormed_run {s : Simulation} (hcursor : b.InBounds s.cursor)
    (hsel : ∀ sel ∈ s.selection, sel.WellFormed b) (t : Token) :
    ∀ sel ∈ (run b s t).selection, sel.WellFormed b := by
  intro sel h
  unfold run at h
  cases hc : t.command with
  | motion m =>
    rw [hc] at h
    exact hsel sel h
  | object operator o =>
    rw [hc] at h
    exact (Buffer.wellFormed_selectObject hcursor h).1
  | operate operator m =>
    rw [hc] at h
    exact Buffer.wellFormed_selectMotion hcursor h
  | wholeLines operator =>
    rw [hc] at h
    cases h
    exact Buffer.wellFormed_selectWholeLines operator t.count hcursor
  | toLineEnd operator =>
    rw [hc] at h
    exact (Buffer.wellFormed_selectToLineEnd hcursor h).1
  | incomplete keys =>
    rw [hc] at h
    exact hsel sel h
  | unknown keys =>
    rw [hc] at h
    exact hsel sel h

/-- **What a run of commands selects is well formed.** -/
theorem wellFormed_runAll {s : Simulation} (hcursor : b.InBounds s.cursor)
    (hsel : ∀ sel ∈ s.selection, sel.WellFormed b) (tokens : List Token) :
    ∀ sel ∈ (runAll b s tokens).selection, sel.WellFormed b := by
  induction tokens generalizing s with
  | nil => exact hsel
  | cons t tokens ih => exact ih (inBounds_run hcursor t) (wellFormed_run hcursor hsel t)

/-- What a command of this kind selects lies on the line of the cursor. -/
theorem line_of_withinLine {s : Simulation} (hcursor : b.InBounds s.cursor) {t : Token}
    (ht : t.command.withinLine = true) {sel : Selection} (h : (run b s t).selection = some sel) :
    sel.first.line = s.cursor.line ∧ sel.last.line = s.cursor.line := by
  unfold run at h
  cases hc : t.command with
  | object operator o =>
    rw [hc] at h ht
    exact (Buffer.wellFormed_selectObject hcursor h).2 (of_decide_eq_true ht)
  | toLineEnd operator =>
    rw [hc] at h
    exact (Buffer.wellFormed_selectToLineEnd hcursor h).2
  | _ =>
    rw [hc] at ht
    cases ht

/-- Commands that do not decide what is selected leave the selection. -/
theorem selection_runAll_of_not_selects {s : Simulation} {tokens : List Token}
    (h : ∀ t ∈ tokens, t.command.selects = false) :
    (runAll b s tokens).selection = s.selection := by
  induction tokens generalizing s with
  | nil => rfl
  | cons t tokens ih =>
    have hstep : (run b s t).selection = s.selection := by
      have ht := h t List.mem_cons_self
      unfold run
      cases hc : t.command with
      | motion m => rfl
      | incomplete keys => rfl
      | unknown keys => rfl
      | _ =>
        rw [hc] at ht
        cases ht
    exact (ih fun u hu => h u (List.mem_cons_of_mem t hu)).trans hstep

end Simulation

/-- **Selections are well formed.** Whatever is selected after some keys is a region of the buffer
with its ends in reading order, whole lines if it is linewise; and if the last command that decided
the selection is an object other than a paragraph or reaches to the end of the line, the region lies
on the line that the cursor was on when this command ran. -/
theorem Buffer.simulate_selection_wellFormed (b : Buffer) (start : Position) (keys : Keys)
    (sel : Selection) (h : (b.simulate start keys).selection = some sel) :
    sel.WellFormed b ∧
      ∀ before t after, Token.ofKeys keys = before ++ t :: after →
        t.command.withinLine = true → (∀ u ∈ after, u.command.selects = false) →
        sel.first.line = (Simulation.runAll b (.start b start) before).cursor.line ∧
          sel.last.line = (Simulation.runAll b (.start b start) before).cursor.line := by
  have hstart := Simulation.inBounds_start b start
  refine ⟨Simulation.wellFormed_runAll hstart nofun _ sel h, ?_⟩
  intro before t after htokens ht hafter
  have hsel : (Simulation.runAll b (.start b start) (Token.ofKeys keys)).selection = some sel := h
  rw [htokens, Simulation.runAll_append] at hsel
  have hlast := Simulation.selection_runAll_of_not_selects (b := b)
    (s := Simulation.run b (Simulation.runAll b (.start b start) before) t) hafter
  exact Simulation.line_of_withinLine (Simulation.inBounds_runAll hstart before) ht
    (hlast.symm.trans hsel)

/-- From the start of the second line, `db` reaches back over the end of the line above. -/
theorem Buffer.simulate_selection_wellFormed_across_lines :
    let b := Buffer.ofLines [['a', 'b'], ['c']]
    let sel : Selection := ⟨.delete, ⟨0, 0⟩, ⟨0, 1⟩, false⟩
    (b.simulate ⟨1, 0⟩ ['d', 'b']).selection = some sel ∧ sel.WellFormed b := by
  intro b sel
  have h : (b.simulate ⟨1, 0⟩ ['d', 'b']).selection = some sel := by decide +kernel
  exact ⟨h, (Buffer.simulate_selection_wellFormed b ⟨1, 0⟩ ['d', 'b'] sel h).1⟩

end MotionTutor
