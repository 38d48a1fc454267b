import MotionTutor.Proofs.Simulation.Counts
import MotionTutor.Proofs.Simulation.Operators
import MotionTutor.Proofs.Travel.Landing

/-!
# The text under the cursor

An operator with the motion to the right selects the character under the cursor, and one with the
motion to the next word the rest of the word under it (`Buffer.RestOfWord`) and more. Both regions
leave out the cell that the motion leads to, and both motions stop at the last cell that they can
reach, so each of them has a place where it leaves out what is under the cursor
(`Buffer.simulate_under_cursor`, `Buffer.simulate_under_cursor_left_out`):

* in the last column of a line the motion to the right stays, and nothing is selected;
* from the last word of the text, if nothing follows it, the motion to the next word leads to the
  last cell of this word, and that cell is left out.

Elsewhere the next word starts behind the word under the cursor, or on a line below, and there the
region takes all of the line (`Buffer.restOfWord_cases`).
-/

namespace MotionTutor

namespace Buffer

variable {b : Buffer} {classOf : Char → CharClass} {p q r : Position}

/-! ## 1. The rest of a word -/

/-- From `p` to `q` the line has characters of one class only. -/
structure RestOfWord (b : Buffer) (classOf : Char → CharClass) (p q : Position) : Prop where
  line : q.line = p.line
  col_le : p.col ≤ q.col
  sameClass : ∀ col, p.col ≤ col → col ≤ q.col →
    b.classIn classOf ⟨p.line, col⟩ = b.classIn classOf p

theorem restOfWord_self : b.RestOfWord classOf p p where
  line := rfl
  col_le := Nat.le_refl _
  sameClass col hfrom hto := by rw [Nat.le_antisymm hto hfrom]

/-- The next cell is in the word too if it is of the same class. -/
theorem restOfWord_next (h : b.classIn classOf ⟨p.line, p.col + 1⟩ = b.classIn classOf p) :
    b.RestOfWord classOf p ⟨p.line, p.col + 1⟩ where
  line := rfl
  col_le := Nat.le_succ _
  sameClass col hfrom hto := by
    rcases Nat.le_succ_iff.mp hto with hle | rfl
    · rw [Nat.le_antisymm hle hfrom]
    · exact h

theorem RestOfWord.le (h : b.RestOfWord classOf p q) : p ≤ q := .inr ⟨h.line.symm, h.col_le⟩

/-- A cell whose class is not blank holds a character. -/
theorem col_lt_of_classIn_ne_blank (h : b.classIn classOf p ≠ .blank) :
    p.col < b.lineLength p.line := by
  rw [← Nat.not_le]
  intro hle
  have hnone : b.charAt p = none := List.getElem?_eq_none hle
  exact h (by rw [classIn, hnone]; rfl)

theorem RestOfWord.inBounds (h : b.RestOfWord classOf p q) (hp : b.InBounds p)
    (hword : b.classIn classOf p ≠ .blank) : b.InBounds q := by
  have hclass := h.sameClass q.col h.col_le (Nat.le_refl _)
  rw [← h.line] at hclass
  have hlt := col_lt_of_classIn_ne_blank (p := q) (hclass ▸ hword)
  exact ⟨h.line ▸ hp.line_le, Nat.le_sub_one_of_lt hlt⟩

/-- **The next word starts behind the word under the cursor.** -/
theorem RestOfWord.lt_of_startsWord (h : b.RestOfWord classOf p q)
    (hword : b.classIn classOf p ≠ .blank) (hr : b.StartsWord classOf r) (hpr : p < r) :
    q < r := by
  have hline := h.line
  rw [Position.lt_def] at hpr ⊢
  rcases hpr with hbelow | ⟨hsame, hcol⟩
  · exact .inl (hline ▸ hbelow)
  · refine .inr ⟨hline.trans hsame, Nat.lt_of_not_le fun hle => ?_⟩
    rcases hr with ⟨-, hempty⟩ | ⟨-, -, hstart⟩
    · rw [← hsame] at hempty
      exact Nat.not_lt_zero p.col (hempty ▸ col_lt_of_classIn_ne_blank hword)
    · -- the cell before the start is in the word too, so no word starts here
      have hbefore := h.sameClass (r.col - 1) (by omega) (by omega)
      have hhere := h.sameClass r.col (Nat.le_of_lt hcol) hle
      rw [hsame] at hbefore hhere
      rcases hstart with hzero | hne
      · exact Nat.not_lt_zero p.col (hzero ▸ hcol)
      · exact hne (hbefore.trans hhere.symm)

theorem le_farthestCell (h : b.InBounds q) : q ≤ b.farthestCell .forward := by
  by_cases heq : b.farthestCell .forward = q
  · rw [heq]
    exact Position.le_refl q
  · exact Position.le_of_lt (meets_farthestCell h .forward heq)

/-- The motion to the next word leads beyond the word under the cursor, unless the text ends with
this word; then it leads to the end of the text. -/
theorem restOfWord_cases (hp : b.InBounds p) (hword : b.classIn classOf p ≠ .blank) :
    (¬ b.RestOfWord classOf p (b.farthestCell .forward) ∧
        ∀ q, b.RestOfWord classOf p q → q < b.wordStep classOf .nextStart p) ∨
      b.RestOfWord classOf p (b.farthestCell .forward) ∧
        b.wordStep classOf .nextStart p = b.farthestCell .forward := by
  have hland : IsFirstAfter (b.StartsWord classOf) p (b.farthestCell .forward)
      (b.wordStep classOf .nextStart p) := (landsOnWords_wordStep hp).nextStart
  rcases hland with ⟨hstart, hlt, -⟩ | ⟨-, hend⟩
  · refine .inl ⟨fun hlast => ?_, fun q hq => hq.lt_of_startsWord hword hstart hlt⟩
    have hbeyond := hlast.lt_of_startsWord hword hstart hlt
    exact Position.not_lt_of_le (le_farthestCell (inBounds_wordStep hp)) hbeyond
  · by_cases hlast : b.RestOfWord classOf p (b.farthestCell .forward)
    · exact .inr ⟨hlast, hend⟩
    · refine .inl ⟨hlast, fun q hq => ?_⟩
      rw [hend]
      refine lt_of_le_of_ne (le_farthestCell (hq.inBounds hp hword)) ?_
      rintro rfl
      exact hlast hq

/-! ## 2. Operators -/

variable {last : Option Search} {operator : Operator} {m : Motion} {size : WordSize}

theorem destination_uncounted (hm : m.isRepeated = true) (last : Option Search) (p : Position) :
    b.destination last m none p = some (b.step m p) :=
  (destination_of_isRepeated hm last none p).trans (congrArg some (b.stepTimes_succ m 0 p))

/-- An operator with the motion to the right selects the cell of the cursor, unless the motion has
nowhere to go. -/
theorem selectMotion_right (last : Option Search) (hp : b.InBounds p)
    (hvisual : operator ≠ .visual) :
    b.selectMotion last operator .right none p =
      if p.col = b.lastCol p.line then none else some ⟨operator, p, p, false⟩ := by
  have hd := destination_uncounted (b := b) (m := .right) rfl last p
  have hcol := hp.col_le
  rw [selectMotion_of_not_isLinewise hp rfl rfl hd, if_neg (not_or.mpr ⟨hvisual, nofun⟩)]
  by_cases hlast : p.col = b.lastCol p.line
  · have hstay : p = b.step .right p := by
      rw [step, ← hlast, Nat.min_eq_right (Nat.le_succ _)]
    rw [if_pos hstay, if_pos hlast]
  · have hgo : b.step .right p = ⟨p.line, p.col + 1⟩ := by
      rw [step, Nat.min_eq_left (by omega)]
    have hlt : p < ⟨p.line, p.col + 1⟩ := .inr ⟨rfl, Nat.lt_succ_self _⟩
    have hne : p ≠ ⟨p.line, p.col + 1⟩ := fun h =>
      absurd (congrArg Position.col h) (Nat.ne_of_lt (Nat.lt_succ_self _))
    rw [hgo, if_neg hne, if_neg hlast, Position.earlier_of_le (Position.le_of_lt hlt),
      Position.later_of_le (Position.le_of_lt hlt)]
    rfl

/-- An operator with the motion to the next word selects the rest of the word under the cursor,
unless the text ends with this word; then the last character is left out. -/
theorem selectMotion_nextStart (last : Option Search) (hp : b.InBounds p)
    (hvisual : operator ≠ .visual) (hchange : operator ≠ .change)
    (hword : b.classIn size.classOf p ≠ .blank) :
    let selected := b.selectMotion last operator (.word .nextStart size) none p
    let lastCell := b.farthestCell .forward
    ((∃ s, selected = some s ∧ ∀ q, b.RestOfWord size.classOf p q → s.first ≤ q ∧ q ≤ s.last) ↔
        ¬ b.RestOfWord size.classOf p lastCell) ∧
      (b.RestOfWord size.classOf p lastCell →
        b.Selects operator (fun q => p ≤ q ∧ q < lastCell) selected) := by
  intro selected lastCell
  have hd := destination_uncounted (b := b) (m := .word .nextStart size) rfl last p
  have htravelled := (selectsTravelled_selectMotion last operator (.word .nextStart size) none
    hp).word size rfl hvisual (fun h => hchange h.1)
  rw [hd, Option.getD_some] at htravelled
  obtain ⟨hnone, hcells⟩ := htravelled
  change b.Selects operator _ selected at hcells
  rcases restOfWord_cases hp hword with ⟨hopen, hbeyond⟩ | ⟨hlast, hend⟩
  · have hlt : p < b.step (.word .nextStart size) p := hbeyond p restOfWord_self
    have hne : selected ≠ none := fun hempty => by
      rw [← hnone.mp hempty] at hlt
      exact Position.not_lt_of_le (Position.le_refl p) hlt
    obtain ⟨s, hs⟩ := Option.ne_none_iff_exists'.mp hne
    rw [hs, Position.earlier_of_le (Position.le_of_lt hlt),
      Position.later_of_le (Position.le_of_lt hlt)] at hcells
    refine ⟨iff_of_true ⟨s, hs, fun q hq => ?_⟩ hopen, fun hlast => absurd hlast hopen⟩
    exact (hcells.cells q (hq.inBounds hp hword)).mpr ⟨hq.le, hbeyond q hq, hq.line⟩
  · have hstep : b.step (.word .nextStart size) p = lastCell := hend
    rw [hstep, Position.earlier_of_le hlast.le, Position.later_of_le hlast.le] at hcells
    refine ⟨iff_of_false ?_ (not_not_intro hlast), fun _ => hcells.congr fun q _ => ?_⟩
    · rintro ⟨s, hs, hall⟩
      rw [hs] at hcells
      have hcell := (hcells.cells lastCell (hlast.inBounds hp hword)).mp (hall lastCell hlast)
      exact Position.not_lt_of_le (Position.le_refl _) hcell.2.1
    · -- the last cell stands on the line of the cursor, and so does all that lies between
      have hline := hlast.line
      rw [Position.le_def, Position.lt_def]
      omega

/-! ## 3. Keys -/

/-- Without counts and other keys before, an operator with a motion selects from the cursor. -/
theorem selection_simulate_plain (b : Buffer) (hp : b.InBounds p) (operator : Operator)
    (m : Motion) :
    (b.simulate p (operator.keys ++ m.keys)).selection =
      b.selectMotion none operator m none p := by
  have hbefore : ∀ t ∈ (Token.ofKeys []).getLast?, t.pending? = none := by
    rw [Token.ofKeys_nil]
    intro t ht
    cases ht
  have hhere : (b.simulate p []).position = p := by
    rw [position_simulate, Token.ofKeys_nil]
    exact clamp_of_inBounds hp
  have hoperated : (b.simulate p ([] ++ (operator.keys ++ (Option.elim none [] Decimal.digits ++
      m.keys)))).selection = _ :=
    b.selection_simulate_operated p hbefore operator nofun fun _ => rfl
  rwa [hhere, Token.ofKeys_nil] at hoperated

/-- **What an operator leaves out under the cursor.** With the motion to the right it selects
exactly the character under the cursor, unless this is the last one of its line; then it selects
nothing. With the motion to the next word, from a character that is not blank, it selects the rest
of the word under the cursor, unless the text ends with this word; then its last character is left
out. -/
theorem simulate_under_cursor (b : Buffer) (hp : b.InBounds p)
    (hoperator : operator ∈ [Operator.delete, .yank, .lowercase, .uppercase]) :
    (b.simulate p (operator.keys ++ Motion.right.keys)).selection =
        (if p.col = b.lastCol p.line then none else some ⟨operator, p, p, false⟩) ∧
      ∀ size : WordSize, b.classIn size.classOf p ≠ .blank →
        let selected :=
          (b.simulate p (operator.keys ++ (Motion.word .nextStart size).keys)).selection
        let lastCell := b.farthestCell .forward
        ((∃ s, selected = some s ∧
            ∀ q, b.RestOfWord size.classOf p q → s.first ≤ q ∧ q ≤ s.last) ↔
          ¬ b.RestOfWord size.classOf p lastCell) ∧
        (b.RestOfWord size.classOf p lastCell →
          b.Selects operator (fun q => p ≤ q ∧ q < lastCell) selected) := by
  have hvisual : operator ≠ .visual := by
    rintro rfl
    exact absurd hoperator (by decide)
  have hchange : operator ≠ .change := by
    rintro rfl
    exact absurd hoperator (by decide)
  refine ⟨?_, fun size hword => ?_⟩
  · rw [b.selection_simulate_plain hp]
    exact selectMotion_right none hp hvisual
  · rw [b.selection_simulate_plain hp]
    exact selectMotion_nextStart none hp hvisual hchange hword

/-- From the last word of a text, with the last character left out. -/
theorem simulate_under_cursor_last_word :
    let b := ofTexts ["ab", "", "cd"]
    let p : Position := ⟨2, 0⟩
    b.InBounds p ∧ .yank ∈ [Operator.delete, .yank, .lowercase, .uppercase] ∧
      (b.simulate p ['y', 'l']).selection = some ⟨.yank, p, p, false⟩ ∧
      b.classIn WordSize.small.classOf p ≠ .blank ∧
      b.RestOfWord WordSize.small.classOf p ⟨2, 1⟩ ∧
      b.Selects .yank (fun q => p ≤ q ∧ q < ⟨2, 1⟩) (b.simulate p ['y', 'w']).selection := by
  intro b p
  have hp : b.InBounds p := ⟨by decide, by decide⟩
  have hoperator : .yank ∈ [Operator.delete, .yank, .lowercase, .uppercase] := by decide
  have hword : b.classIn WordSize.small.classOf p ≠ .blank :=
    mt (WordSize.small.classOf_eq_blank_iff 'c').mp (by decide)
  have hlast : b.RestOfWord WordSize.small.classOf p ⟨2, 1⟩ := restOfWord_next (by decide +kernel)
  have hend : b.farthestCell .forward = ⟨2, 1⟩ := by decide +kernel
  have hcol : p.col ≠ b.lastCol p.line := by decide +kernel
  obtain ⟨hright, hnext⟩ := b.simulate_under_cursor hp hoperator
  have hleft := (hnext .small hword).2
  rw [hend] at hleft
  exact ⟨hp, hoperator, hright.trans (if_neg hcol), hword, hlast, hleft hlast⟩

/-- From the last character of a line nothing is selected, and from a word that ends the text not
all of the word. -/
theorem simulate_under_cursor_left_out :
    let b := ofTexts ["ab"]
    b.InBounds ⟨0, 1⟩ ∧ b.charAt ⟨0, 1⟩ = some 'b' ∧
      (b.simulate ⟨0, 1⟩ ['d', 'l']).selection = none ∧
      b.InBounds ⟨0, 0⟩ ∧ b.RestOfWord WordSize.small.classOf ⟨0, 0⟩ ⟨0, 1⟩ ∧
      (b.simulate ⟨0, 0⟩ ['d', 'w']).selection = some ⟨.delete, ⟨0, 0⟩, ⟨0, 0⟩, false⟩ :=
  ⟨⟨by decide, by decide⟩, by decide, by decide +kernel, ⟨by decide, by decide⟩,
    restOfWord_next (by decide +kernel), by decide +kernel⟩

end Buffer

end MotionTutor
