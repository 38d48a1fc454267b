import MotionTutor.Proofs.Checked.Objects
import MotionTutor.Proofs.Selection.WellFormed
import MotionTutor.Proofs.Travel.Landing

/-!
# Sentences

A sentence ends at `.`, `!` or `?`, last on its line or with a blank behind it (`EndsSentence`). The
sentence of a column begins with the first text behind the last end before the column, and goes to
the first end from the column on, or to the last column (`IsSentence`).

The beginning is looked for before the column and the end from the column on. Both give the same for
two columns of a line if no sentence ends from the one to before the other (`isSentence_congr`), and
where one does they differ, since the sentence of the first column goes to that end at most and the
one of the second contains its column (`sentenceObject_eq_iff`). So the columns with text of one
sentence have the same sentence.
-/

namespace MotionTutor

variable {cells : List Char} {col i start : Nat}

/-! ## 1. Ends, beginnings and sentences -/

/-- A character that is not blank stands at the column. -/
def HoldsText (cells : List Char) (i : Nat) : Prop := cells[i]?.any (!isBlank ·) = true

def HoldsBlank (cells : List Char) (i : Nat) : Prop := cells[i]?.any isBlank = true

/-- A sentence ends at the column, at a mark that is last on the line or has a blank behind it. -/
def EndsSentence (cells : List Char) (i : Nat) : Prop :=
  (cells[i]? = some '.' ∨ cells[i]? = some '!' ∨ cells[i]? = some '?') ∧
    (i + 1 = cells.length ∨ HoldsBlank cells (i + 1))

/-- From `start` on no sentence ends before the column, and one ends right before `start` unless the
line begins there. -/
structure IsBehindLastEnd (cells : List Char) (col start : Nat) : Prop where
  start_le : start ≤ col
  cut : start ≠ 0 → EndsSentence cells (start - 1)
  uncut : ∀ e, start ≤ e → e < col → ¬ EndsSentence cells e

/-- From the first text behind the last end before the column to the first end from the column on,
or to the last column if there is none. -/
structure IsSentence (cells : List Char) (col : Nat) (c : Columns) : Prop where
  first : ∃ start, IsBehindLastEnd cells col start ∧
    IsFirstFrom (HoldsText cells) start (some c.first)
  last : IsFirstFrom (EndsSentence cells) col (some c.last) ∨
    IsFirstFrom (EndsSentence cells) col none ∧ c.last + 1 = cells.length

theorem HoldsText.lt_length (h : HoldsText cells i) : i < cells.length := by
  refine Nat.lt_of_not_le fun hle => ?_
  rw [HoldsText, List.getElem?_eq_none hle] at h
  exact Bool.false_ne_true h

theorem holdsText_iff_of_lt (h : i < cells.length) :
    HoldsText cells i ↔ isBlank cells[i] = false := by
  rw [HoldsText, List.getElem?_eq_getElem h, Option.any_some, Bool.not_eq_true']

theorem holdsBlank_iff_of_lt (h : i < cells.length) :
    HoldsBlank cells i ↔ isBlank cells[i] = true := by
  rw [HoldsBlank, List.getElem?_eq_getElem h, Option.any_some]

theorem not_holdsBlank_of_length_le (h : cells.length ≤ i) : ¬ HoldsBlank cells i := by
  rw [HoldsBlank, List.getElem?_eq_none h]
  exact Bool.false_ne_true

/-- What a scan for the ends compares each character with is the character behind it. -/
theorem getElem_drop_append_none (cells : List Char)
    (h : i < ((cells.drop 1).map some ++ [none]).length) :
    ((cells.drop 1).map some ++ [none])[i] = cells[i + 1]? := by
  rw [List.getElem_append]
  split
  · grind
  · grind

theorem getElem_sentenceEnds_iff (h : i < (sentenceEnds cells).length) :
    (sentenceEnds cells)[i] = true ↔ EndsSentence cells i := by
  have hi : i < cells.length := Checked.length_sentenceEnds cells ▸ h
  simp only [sentenceEnds, List.getElem_zipWith, getElem_drop_append_none, Bool.and_eq_true,
    isTerminator, Bool.or_eq_true, beq_iff_eq, or_assoc, EndsSentence,
    List.getElem?_eq_getElem hi, Option.some.injEq]
  refine and_congr_right fun _ => ?_
  rcases Nat.lt_or_ge (i + 1) cells.length with hlt | hge
  · rw [holdsBlank_iff_of_lt hlt, List.getElem?_eq_getElem hlt, Option.all_some]
    exact (or_iff_right (Nat.ne_of_lt hlt)).symm
  · rw [List.getElem?_eq_none hge]
    exact iff_of_true rfl (.inl (Nat.le_antisymm hi hge))

theorem not_getElem_sentenceEnds_iff (h : i < (sentenceEnds cells).length) :
    (!(sentenceEnds cells)[i]) = true ↔ ¬ EndsSentence cells i := by
  rw [Bool.not_eq_true', ← Bool.not_eq_true, getElem_sentenceEnds_iff]

/-- No sentence ends behind the line. -/
theorem EndsSentence.lt_length (h : EndsSentence cells i) : i < cells.length := by
  refine Nat.lt_of_not_le fun hle => ?_
  simp only [EndsSentence, List.getElem?_eq_none hle, reduceCtorEq, or_self, false_and] at h

/-! ## 2. The sentence that is chosen -/

/-- What is counted back from a column to the end before it. -/
theorem isBehindLastEnd_sub (h : col < cells.length) :
    IsBehindLastEnd cells col (col - runBefore (!·) (sentenceEnds cells) col) := by
  have hlen := Checked.length_sentenceEnds cells
  have hcol : col ≤ (sentenceEnds cells).length := by omega
  refine ⟨Nat.sub_le _ _, fun hne => ?_, fun e hstart he => ?_⟩
  · obtain ⟨hlt, hfail⟩ := test_sub_runBefore (!·) hcol (by omega)
    rw [Bool.not_eq_false'] at hfail
    exact (getElem_sentenceEnds_iff hlt).mp hfail
  · obtain ⟨hlt, hpass⟩ := test_of_sub_runBefore_le (!·) hcol hstart he
    exact (not_getElem_sentenceEnds_iff hlt).mp hpass

/-- Blanks are skipped up to the first text, which is not behind a column that holds text. -/
theorem isFirstFrom_holdsText (hstart : start ≤ col) (hcol : HoldsText cells col) :
    IsFirstFrom (HoldsText cells) start (some (min col (start + runFrom isBlank cells start))) := by
  have htest : ∀ k (hk : k < cells.length), isBlank cells[k] = true ↔ ¬ HoldsText cells k := by
    intro k hk
    rw [holdsText_iff_of_lt hk, Bool.not_eq_false]
  have hle : start + runFrom isBlank cells start ≤ col :=
    Nat.le_of_not_lt fun hlt => not_of_lt_runFrom htest col hstart hlt hcol
  rw [Nat.min_eq_right hle]
  exact isFirstFrom_add_runFrom htest (Nat.lt_of_le_of_lt hle hcol.lt_length)

/-- What is counted on from a column to the end at or behind it. -/
theorem isFirstFrom_endsSentence (h : col < cells.length) :
    let last := min (col + runFrom (!·) (sentenceEnds cells) col) (cells.length - 1)
    IsFirstFrom (EndsSentence cells) col (some last) ∨
      IsFirstFrom (EndsSentence cells) col none ∧ last + 1 = cells.length := by
  intro last
  have hlen := Checked.length_sentenceEnds cells
  have htest : ∀ k (hk : k < (sentenceEnds cells).length),
      (!(sentenceEnds cells)[k]) = true ↔ ¬ EndsSentence cells k :=
    fun _ => not_getElem_sentenceEnds_iff
  rcases Nat.lt_or_ge (col + runFrom (!·) (sentenceEnds cells) col) cells.length with hlt | hge
  · have hlast : last = col + runFrom (!·) (sentenceEnds cells) col := by omega
    rw [hlast]
    exact .inl (isFirstFrom_add_runFrom htest (hlen.symm ▸ hlt))
  · refine .inr ⟨fun k hk hend => ?_, by omega⟩
    exact not_of_lt_runFrom htest k hk (Nat.lt_of_lt_of_le hend.lt_length hge) hend

/-- **The inner object of a column that holds text is its sentence.** -/
theorem isSentence_sentenceObject (hcol : HoldsText cells col) :
    IsSentence cells col (sentenceObject false cells col) := by
  have hstart := isBehindLastEnd_sub hcol.lt_length
  exact ⟨⟨_, hstart, isFirstFrom_holdsText hstart.start_le hcol⟩,
    isFirstFrom_endsSentence hcol.lt_length⟩

/-! ## 3. Two columns of a line -/

/-- There is one beginning behind the last end. -/
theorem IsBehindLastEnd.eq {start' : Nat} (h : IsBehindLastEnd cells col start)
    (h' : IsBehindLastEnd cells col start') : start = start' := by
  have hle := h.start_le
  have hle' := h'.start_le
  rcases Nat.lt_trichotomy start start' with hlt | heq | hgt
  · exact absurd (h'.cut (by omega)) (h.uncut _ (by omega) (by omega))
  · exact heq
  · exact absurd (h.cut (by omega)) (h'.uncut _ (by omega) (by omega))

/-- A column has one sentence. -/
theorem IsSentence.eq {c c' : Columns} (h : IsSentence cells col c)
    (h' : IsSentence cells col c') : c = c' := by
  obtain ⟨⟨start, hstart, hfirst⟩, hlast⟩ := h
  obtain ⟨⟨start', hstart', hfirst'⟩, hlast'⟩ := h'
  obtain rfl := hstart.eq hstart'
  have heq := hfirst.eq hfirst'
  have hnone : ∀ {j}, IsFirstFrom (EndsSentence cells) col (some j) →
      ¬ IsFirstFrom (EndsSentence cells) col none := fun hj hno => hno _ hj.1 hj.2.1
  have hlasteq : c.last = c'.last := by
    rcases hlast with hend | ⟨hno, hend⟩ <;> rcases hlast' with hend' | ⟨hno', hend'⟩
    · exact hend.eq hend'
    · exact absurd hno' (hnone hend)
    · exact absurd hno (hnone hend')
    · omega
  cases c
  cases c'
  simp_all

/-- Columns with no end from the one to before the other lie behind the same end. -/
theorem isBehindLastEnd_congr (hle : col ≤ i)
    (huncut : ∀ e, col ≤ e → e < i → ¬ EndsSentence cells e) :
    IsBehindLastEnd cells col start ↔ IsBehindLastEnd cells i start := by
  constructor
  · intro h
    refine ⟨Nat.le_trans h.start_le hle, h.cut, fun e hstart he => ?_⟩
    rcases Nat.lt_or_ge e col with hlt | hge
    · exact h.uncut e hstart hlt
    · exact huncut e hge he
  · intro h
    refine ⟨Nat.le_of_not_lt fun hlt => ?_, h.cut, fun e hstart he => ?_⟩
    · -- the end right before the beginning is behind the first column
      have := h.start_le
      exact huncut (start - 1) (by omega) (by omega) (h.cut (by omega))
    · exact h.uncut e hstart (Nat.lt_of_lt_of_le he hle)

/-- **Columns with no end from the one to before the other have the same sentence.** -/
theorem isSentence_congr {c : Columns} (hle : col ≤ i)
    (huncut : ∀ e, col ≤ e → e < i → ¬ EndsSentence cells e) :
    IsSentence cells col c ↔ IsSentence cells i c := by
  constructor
  · rintro ⟨⟨start, hstart, hfirst⟩, hlast⟩
    rw [isFirstFrom_congr hle huncut, isFirstFrom_congr hle huncut] at hlast
    exact ⟨⟨start, (isBehindLastEnd_congr hle huncut).mp hstart, hfirst⟩, hlast⟩
  · rintro ⟨⟨start, hstart, hfirst⟩, hlast⟩
    rw [← isFirstFrom_congr hle huncut, ← isFirstFrom_congr hle huncut] at hlast
    exact ⟨⟨start, (isBehindLastEnd_congr hle huncut).mpr hstart, hfirst⟩, hlast⟩

namespace IsSentence

variable {c : Columns} {e : Nat}

theorem first_le (h : IsSentence cells col c) (hcol : HoldsText cells col) : c.first ≤ col := by
  obtain ⟨start, hstart, -, -, hbefore⟩ := h.first
  exact Nat.le_of_not_lt fun hlt => hbefore col hstart.start_le hlt hcol

theorem le_last (h : IsSentence cells col c) (hcol : HoldsText cells col) : col ≤ c.last := by
  rcases h.last with hend | ⟨-, hend⟩
  · exact hend.1
  · have := hcol.lt_length
    omega

/-- A sentence goes no further than to an end from its column on. -/
theorem last_le (h : IsSentence cells col c) (hle : col ≤ e) (hend : EndsSentence cells e) :
    c.last ≤ e := by
  rcases h.last with ⟨-, -, hbefore⟩ | ⟨hnone, -⟩
  · exact Nat.le_of_not_lt fun hlt => hbefore e hle hlt hend
  · exact absurd hend (hnone e hle)

/-- No sentence ends in one before its last column. -/
theorem uncut (h : IsSentence cells col c) (hfirst : c.first ≤ e) (hlast : e < c.last) :
    ¬ EndsSentence cells e := by
  rcases Nat.lt_or_ge e col with hlt | hge
  · obtain ⟨start, hstart, hle, -⟩ := h.first
    exact hstart.uncut e (Nat.le_trans hle hfirst) hlt
  · exact fun hend => Nat.not_le_of_lt hlast (h.last_le hge hend)

end IsSentence

/-- **Two columns that hold text have the same sentence** if and only if no sentence ends from the
one to before the other. -/
theorem sentenceObject_eq_iff_of_le (hle : col ≤ i) (hcol : HoldsText cells col)
    (hi : HoldsText cells i) :
    sentenceObject false cells i = sentenceObject false cells col ↔
      ∀ e, col ≤ e → e < i → ¬ EndsSentence cells e := by
  have hsentence := isSentence_sentenceObject hcol
  have hsentence' := isSentence_sentenceObject hi
  constructor
  · intro heq e he hei hend
    -- the one goes to the end at most, the other reaches its own column behind the end
    have hlast := hsentence.last_le he hend
    have hlast' := hsentence'.le_last hi
    rw [heq] at hlast'
    omega
  · exact fun huncut => hsentence'.eq ((isSentence_congr hle huncut).mp hsentence)

theorem sentenceObject_eq_iff (hcol : HoldsText cells col) (hi : HoldsText cells i) :
    sentenceObject false cells i = sentenceObject false cells col ↔
      ∀ e, min col i ≤ e → e < max col i → ¬ EndsSentence cells e := by
  rcases Nat.le_total col i with hle | hge
  · rw [Nat.min_eq_left hle, Nat.max_eq_right hle]
    exact sentenceObject_eq_iff_of_le hle hcol hi
  · rw [Nat.min_eq_right hge, Nat.max_eq_left hge, eq_comm]
    exact sentenceObject_eq_iff_of_le hge hi hcol

/-! ## 4. Sentences -/

/-- The outer sentence ends before the first column behind the inner one that holds no blank. -/
theorem isFirstFrom_sentenceObject_around (cells : List Char) (col : Nat) :
    IsFirstFrom (¬ HoldsBlank cells ·) ((sentenceObject false cells col).last + 1)
      (some ((sentenceObject true cells col).last + 1)) := by
  have houter : (sentenceObject true cells col).last = (sentenceObject false cells col).last +
      runFrom isBlank cells ((sentenceObject false cells col).last + 1) := rfl
  rw [houter, Nat.add_right_comm]
  generalize (sentenceObject false cells col).last + 1 = behind
  have htest : ∀ k (hk : k < cells.length), isBlank cells[k] = true ↔ ¬ ¬ HoldsBlank cells k := by
    intro k hk
    rw [Classical.not_not, holdsBlank_iff_of_lt hk]
  rcases Nat.lt_or_ge (behind + runFrom isBlank cells behind) cells.length with hlt | hge
  · exact isFirstFrom_add_runFrom htest hlt
  · exact ⟨Nat.le_add_right _ _, not_holdsBlank_of_length_le hge, not_of_lt_runFrom htest⟩

/-- **Sentences agree across a sentence.** On a line the inner object of a column that holds text is
its sentence, from the first text behind the last end before the column to the first end from the
column on, or to the last column. It contains the column, and every column with text in it has the
same object. Two columns with text have different objects if and only if a sentence ends from the
one to before the other. The outer object takes the blanks behind the inner one. -/
theorem sentences_agree (hcol : HoldsText cells col) :
    let inner := sentenceObject false cells
    let outer := sentenceObject true cells col
    IsSentence cells col (inner col) ∧
      ((inner col).first ≤ col ∧ col ≤ (inner col).last) ∧
      (∀ i, HoldsText cells i → (inner col).first ≤ i → i ≤ (inner col).last →
        inner i = inner col) ∧
      (∀ i, HoldsText cells i → (inner i ≠ inner col ↔
        ∃ e, min col i ≤ e ∧ e < max col i ∧ EndsSentence cells e)) ∧
      outer.first = (inner col).first ∧
      IsFirstFrom (¬ HoldsBlank cells ·) ((inner col).last + 1) (some (outer.last + 1)) := by
  intro inner outer
  have hsentence := isSentence_sentenceObject hcol
  have hfirst := hsentence.first_le hcol
  have hlast := hsentence.le_last hcol
  refine ⟨hsentence, ⟨hfirst, hlast⟩, fun i hi hi' hi'' => ?_, fun i hi => ?_, rfl,
    isFirstFrom_sentenceObject_around cells col⟩
  · rw [sentenceObject_eq_iff hcol hi]
    exact fun e he he' => hsentence.uncut (Nat.le_trans (Nat.le_min.mpr ⟨hfirst, hi'⟩) he)
      (Nat.lt_of_lt_of_le he' (Nat.max_le.mpr ⟨hlast, hi''⟩))
  · rw [Ne, sentenceObject_eq_iff hcol hi]
    simp only [Classical.not_forall, Classical.not_not, exists_prop]

/-- The cursor behind an abbreviation and on its last full stop, which ends a sentence. -/
theorem sentences_agree_behind_an_abbreviation :
    let cells := ['e', '.', 'g', '.', ' ', 'a', '.', '.', ' ', '\t', 'b']
    HoldsText cells 5 ∧ HoldsText cells 3 ∧ IsSentence cells 5 ⟨5, 7⟩ ∧
      sentenceObject true cells 5 = ⟨5, 9⟩ ∧
      IsFirstFrom (¬ HoldsBlank cells ·) 8 (some 10) ∧
      ∃ e, min 5 3 ≤ e ∧ e < max 5 3 ∧ EndsSentence cells e := by
  intro cells
  have hcol : HoldsText cells 5 := rfl
  have hstop : HoldsText cells 3 := rfl
  have hinner : sentenceObject false cells 5 = ⟨5, 7⟩ := by decide +kernel
  have houter : sentenceObject true cells 5 = ⟨5, 9⟩ := by decide +kernel
  have hother : sentenceObject false cells 3 ≠ sentenceObject false cells 5 := by decide +kernel
  obtain ⟨hsentence, -, -, hdiffer, -, hblanks⟩ := sentences_agree hcol
  rw [hinner] at hsentence hblanks
  rw [houter] at hblanks
  exact ⟨hcol, hstop, hsentence, houter, hblanks, (hdiffer 3 hstop).mp hother⟩

end MotionTutor
