import MotionTutor.Proofs.Selection.WellFormed
import MotionTutor.Proofs.Travel.Landing

/-!
# Words and paragraphs are runs

A run of a text is a range of places of one kind that goes no further on either side (`IsRun`). Two
runs of one text are the same or lie apart (`IsRun.eq_or_apart`), so the runs partition the text.

* The inner word of a column is the run of its class of character, the inner paragraph of a line the
  run of its blankness.
* The outer word takes one run beside it (`IsAroundWord`), the outer paragraph the run behind it
  (`EndsWithNext`).

Both grow from a place to its two sides by counting neighbours of its kind, and what they count is
the run around the place (`isRun_around`), also where it begins or ends there (`isRun_from`,
`isRun_to`).
-/

namespace MotionTutor

/-! ## 1. Runs -/

/-- The places from `first` to `last` are of one kind, and the run goes no further. -/
structure IsRun {κ : Type} (kindAt : Nat → κ) (size first last : Nat) : Prop where
  first_le : first ≤ last
  last_lt : last < size
  kindAt_eq : ∀ i, first ≤ i → i ≤ last → kindAt i = kindAt first
  before : first ≠ 0 → kindAt (first - 1) ≠ kindAt first
  behind : last + 1 ≠ size → kindAt (last + 1) ≠ kindAt first

namespace IsRun

variable {κ : Type} {kindAt : Nat → κ} {size first last first' last' i : Nat}

/-- A run that begins behind another one begins behind its end. -/
theorem first_le_first (h : IsRun kindAt size first last) (h' : IsRun kindAt size first' last')
    (hfirst : first ≤ last') : first ≤ first' := by
  refine Nat.le_of_not_lt fun hlt => ?_
  -- the place before the later beginning is in the other run, with the beginning itself
  have hbefore := h'.kindAt_eq (first - 1) (by omega) (by omega)
  have hhere := h'.kindAt_eq first (by omega) hfirst
  exact h.before (by omega) (hbefore.trans hhere.symm)

/-- A run that ends behind another one begins behind its end. -/
theorem last_le_last (h : IsRun kindAt size first last) (h' : IsRun kindAt size first' last')
    (hfirst : first ≤ last') : last ≤ last' := by
  refine Nat.le_of_not_lt fun hlt => ?_
  have hlt' := h.last_lt
  have hhere := h.kindAt_eq last' hfirst (by omega)
  have hbehind := h.kindAt_eq (last' + 1) (by omega) hlt
  have hsame := h'.kindAt_eq last' h'.first_le (Nat.le_refl _)
  exact h'.behind (by omega) (hbehind.trans (hhere.symm.trans hsame))

/-- **Two runs are the same or lie apart.** -/
theorem eq_or_apart (h : IsRun kindAt size first last) (h' : IsRun kindAt size first' last') :
    (first' = first ∧ last' = last) ∨ last < first' ∨ last' < first := by
  by_cases hshared : first ≤ last' ∧ first' ≤ last
  · obtain ⟨hfirst, hlast⟩ := hshared
    exact .inl ⟨Nat.le_antisymm (h'.first_le_first h hlast) (h.first_le_first h' hfirst),
      Nat.le_antisymm (h'.last_le_last h hlast) (h.last_le_last h' hfirst)⟩
  · omega

end IsRun

/-! ## 2. Counting neighbours -/

section Neighbours

variable {α κ : Type} {kindAt : Nat → κ} {test : α → Bool} {xs : List α} {i : Nat}

/-- **The neighbours of a place that are of its kind make up the run around it.** -/
theorem isRun_around (hi : i < xs.length)
    (htest : ∀ k (hk : k < xs.length), test xs[k] = true ↔ kindAt k = kindAt i) :
    IsRun kindAt xs.length (i - runBefore test xs i) (i + runFrom test xs (i + 1)) := by
  have hlen : i + 1 + runFrom test xs (i + 1) ≤ xs.length := add_runFrom_le test hi
  have hall : ∀ k, i - runBefore test xs i ≤ k → k ≤ i + runFrom test xs (i + 1) →
      kindAt k = kindAt i := by
    intro k hfirst hlast
    rcases Nat.lt_trichotomy k i with hbefore | heq | hbehind
    · obtain ⟨hk, hpass⟩ := test_of_sub_runBefore_le test (Nat.le_of_lt hi) hfirst hbefore
      exact (htest k hk).mp hpass
    · rw [heq]
    · have hk' : k < i + 1 + runFrom test xs (i + 1) := by omega
      obtain ⟨hk, hpass⟩ := test_of_lt_runFrom hbehind hk'
      exact (htest k hk).mp hpass
  have hfirst := hall (i - runBefore test xs i) (Nat.le_refl _) (by omega)
  refine ⟨by omega, by omega, fun k hk hk' => (hall k hk hk').trans hfirst.symm, ?_, ?_⟩
  · intro hne
    obtain ⟨hk, hfail⟩ := test_sub_runBefore test (Nat.le_of_lt hi) (by omega)
    rw [hfirst, Ne, ← htest _ hk, hfail]
    exact Bool.false_ne_true
  · intro hne
    have hlt : i + 1 + runFrom test xs (i + 1) < xs.length := by omega
    have hfail := test_add_runFrom hlt
    rw [hfirst, Nat.add_right_comm, Ne, ← htest _ hlt, hfail]
    exact Bool.false_ne_true

/-- A run that begins at a place. -/
theorem isRun_from (hi : i < xs.length)
    (htest : ∀ k (hk : k < xs.length), test xs[k] = true ↔ kindAt k = kindAt i)
    (hbefore : i ≠ 0 → kindAt (i - 1) ≠ kindAt i) :
    IsRun kindAt xs.length i (i + runFrom test xs (i + 1)) := by
  have hrun := isRun_around hi htest
  have hzero : runBefore test xs i = 0 := by
    cases i with
    | zero => exact Nat.le_zero.mp (runBefore_le test xs 0)
    | succ i =>
      have hlt : i < xs.length := Nat.lt_of_succ_lt hi
      refine runBefore_succ_of_neg hlt (Bool.eq_false_iff.mpr fun hpass => ?_)
      exact hbefore (Nat.succ_ne_zero i) ((htest i hlt).mp hpass)
  rwa [hzero, Nat.sub_zero] at hrun

/-- A run that ends at a place. -/
theorem isRun_to (hi : i + 1 < xs.length)
    (htest : ∀ k (hk : k < xs.length), test xs[k] = true ↔ kindAt k = kindAt i)
    (hbehind : kindAt (i + 1) ≠ kindAt i) :
    IsRun kindAt xs.length (i + 1 - runBefore test xs (i + 1)) i := by
  have hlt : i < xs.length := Nat.lt_of_succ_lt hi
  have hrun := isRun_around hlt htest
  have hfail : test xs[i + 1] = false :=
    Bool.eq_false_iff.mpr fun hpass => hbehind ((htest (i + 1) hi).mp hpass)
  rw [runFrom_of_neg hi hfail, Nat.add_zero] at hrun
  rwa [runBefore_succ_of_pos hlt ((htest i hlt).mpr rfl), Nat.add_sub_add_right]

/-- The run behind another one, counted from the end of that one. -/
theorem isRun_behind {first last : Nat} (h : IsRun kindAt xs.length first last)
    (hlt : last + 1 < xs.length)
    (htest : ∀ k (hk : k < xs.length), test xs[k] = true ↔ kindAt k = kindAt (last + 1)) :
    IsRun kindAt xs.length (last + 1) (last + runFrom test xs (last + 1)) := by
  have hlast := h.kindAt_eq last h.first_le (Nat.le_refl _)
  have hrun := isRun_from hlt htest fun _ => by
    rw [Nat.add_sub_cancel, hlast]
    exact (h.behind (Nat.ne_of_lt hlt)).symm
  rw [runFrom_of_pos hlt ((htest _ hlt).mpr rfl)]
  rwa [Nat.add_right_comm] at hrun

end Neighbours

/-- A region that ends at `last` goes on to the end of the run behind it, if there is one. -/
inductive EndsWithNext {κ : Type} (kindAt : Nat → κ) (size last : Nat) : Nat → Prop
  | next {last' : Nat} (h : IsRun kindAt size (last + 1) last') :
      EndsWithNext kindAt size last last'
  | none (h : last + 1 = size) : EndsWithNext kindAt size last last

/-! ## 3. Words -/

section Words

variable {size : WordSize} {classOf : Char → CharClass} {cells : List Char} {col i : Nat}

theorem classAt_of_lt (classOf : Char → CharClass) (h : i < cells.length) :
    classAt classOf cells i = classOf cells[i] :=
  classAt_of_getElem? classOf (List.getElem?_eq_getElem h)

/-- Comparing classes tells the characters of the kind of a column. -/
theorem decide_classOf_iff (k : Nat) (hk : k < cells.length) :
    decide (classOf cells[k] = classAt classOf cells i) = true ↔
      classAt classOf cells k = classAt classOf cells i := by
  rw [decide_eq_true_iff, classAt_of_lt classOf hk]

/-- The blanks are the characters of the kind of a blank. -/
theorem isBlank_iff_of_blank (h : classAt size.classOf cells i = .blank) (k : Nat)
    (hk : k < cells.length) :
    isBlank cells[k] = true ↔ classAt size.classOf cells k = classAt size.classOf cells i := by
  rw [h, classAt_of_lt size.classOf hk, size.classOf_eq_blank_iff]

/-- **The inner word is the run of the class of its column.** -/
theorem isRun_innerWord (classOf : Char → CharClass) (h : col < cells.length) :
    IsRun (classAt classOf cells) cells.length (innerWord classOf cells col).first
      (innerWord classOf cells col).last :=
  isRun_around h decide_classOf_iff

theorem innerWord_around (classOf : Char → CharClass) (cells : List Char) (col : Nat) :
    (innerWord classOf cells col).first ≤ col ∧ col ≤ (innerWord classOf cells col).last :=
  ⟨Nat.sub_le _ _, Nat.le_add_right _ _⟩

/-- A run of blanks of a line. -/
def IsBlankRun (kindAt : Nat → CharClass) (size first last : Nat) : Prop :=
  IsRun kindAt size first last ∧ kindAt first = .blank

/-- What the outer word takes: blanks take the run behind them, if there is one; any other word
takes the blanks behind it, or if there are none those before it, or if there are none, nothing. -/
inductive IsAroundWord (kindAt : Nat → CharClass) (size : Nat) (inner : Columns) : Columns → Prop
  | ofBlanks {last : Nat} (hinner : kindAt inner.first = .blank)
      (h : EndsWithNext kindAt size inner.last last) :
      IsAroundWord kindAt size inner ⟨inner.first, last⟩
  | blanksBehind {last : Nat} (hinner : kindAt inner.first ≠ .blank)
      (h : IsBlankRun kindAt size (inner.last + 1) last) :
      IsAroundWord kindAt size inner ⟨inner.first, last⟩
  | blanksBefore {first last : Nat} (hinner : kindAt inner.first ≠ .blank)
      (hbehind : ∀ last, ¬ IsBlankRun kindAt size (inner.last + 1) last)
      (hlast : last + 1 = inner.first) (h : IsBlankRun kindAt size first last) :
      IsAroundWord kindAt size inner ⟨first, inner.last⟩
  | noBlanks (hinner : kindAt inner.first ≠ .blank)
      (hbehind : ∀ last, ¬ IsBlankRun kindAt size (inner.last + 1) last)
      (hbefore : ∀ first last, last + 1 = inner.first → ¬ IsBlankRun kindAt size first last) :
      IsAroundWord kindAt size inner inner

/-- The blanks behind a run, if any are counted. -/
theorem isBlankRun_behind {first last : Nat}
    (h : IsRun (classAt size.classOf cells) cells.length first last)
    (hpos : 0 < runFrom isBlank cells (last + 1)) :
    IsBlankRun (classAt size.classOf cells) cells.length (last + 1)
      (last + runFrom isBlank cells (last + 1)) := by
  have hmore : last + 1 < last + 1 + runFrom isBlank cells (last + 1) := by omega
  obtain ⟨hlt, hpass⟩ := test_of_lt_runFrom (Nat.le_refl (last + 1)) hmore
  have hblank : classAt size.classOf cells (last + 1) = .blank := by
    rw [classAt_of_lt size.classOf hlt, size.classOf_eq_blank_iff, hpass]
  exact ⟨isRun_behind h hlt (isBlank_iff_of_blank hblank), hblank⟩

theorem not_isBlankRun_of_runFrom_eq_zero (h : runFrom isBlank cells i = 0) (last : Nat) :
    ¬ IsBlankRun (classAt size.classOf cells) cells.length i last := by
  intro hb
  have hlt : i < cells.length := Nat.lt_of_le_of_lt hb.1.first_le hb.1.last_lt
  rw [runFrom_of_pos hlt ((isBlank_iff_of_blank hb.2 i hlt).mpr rfl)] at h
  exact Nat.succ_ne_zero _ h

/-- The blanks before a run, if any are counted. -/
theorem isBlankRun_before {last : Nat}
    (h : IsRun (classAt size.classOf cells) cells.length (i + 1) last)
    (hpos : 0 < runBefore isBlank cells (i + 1)) :
    IsBlankRun (classAt size.classOf cells) cells.length
      (i + 1 - runBefore isBlank cells (i + 1)) i := by
  have hlast := Nat.lt_of_le_of_lt h.first_le h.last_lt
  obtain ⟨hlt, hpass⟩ := test_of_sub_runBefore_le isBlank (Nat.le_of_lt hlast)
    (show i + 1 - runBefore isBlank cells (i + 1) ≤ i by omega) (Nat.lt_succ_self i)
  have hblank : classAt size.classOf cells i = .blank := by
    rw [classAt_of_lt size.classOf hlt, size.classOf_eq_blank_iff, hpass]
  have hrun := isRun_to hlast (isBlank_iff_of_blank hblank) (h.before (Nat.succ_ne_zero i)).symm
  exact ⟨hrun, (hrun.kindAt_eq i hrun.first_le (Nat.le_refl _)).symm.trans hblank⟩

theorem not_isBlankRun_of_runBefore_eq_zero (h : runBefore isBlank cells (i + 1) = 0)
    (first : Nat) : ¬ IsBlankRun (classAt size.classOf cells) cells.length first i := by
  intro hb
  have hlt := hb.1.last_lt
  have hblank := (hb.1.kindAt_eq i hb.1.first_le (Nat.le_refl _))
  rw [runBefore_succ_of_pos hlt ((isBlank_iff_of_blank hb.2 i hlt).mpr hblank)] at h
  exact Nat.succ_ne_zero _ h

/-- Blanks take the run behind them. -/
theorem isAroundWord_of_blank (h : col < cells.length)
    (hblank : classAt size.classOf cells col = .blank) :
    IsAroundWord (classAt size.classOf cells) cells.length (innerWord size.classOf cells col)
      (aroundWord size.classOf cells col) := by
  have hrun := isRun_innerWord size.classOf h
  obtain ⟨hfirst, hlast⟩ := innerWord_around size.classOf cells col
  have hclass := hrun.kindAt_eq col hfirst hlast
  rw [hblank] at hclass
  simp only [aroundWord]
  rw [if_pos hblank]
  generalize innerWord size.classOf cells col = inner at *
  cases hc : cells[inner.last + 1]? with
  | none =>
    have hend := List.getElem?_eq_none_iff.mp hc
    have hlt := hrun.last_lt
    exact .ofBlanks hclass.symm (.none (by omega))
  | some c =>
    obtain ⟨hlt, rfl⟩ := List.getElem?_eq_some_iff.mp hc
    refine .ofBlanks hclass.symm (.next (isRun_behind hrun hlt fun k hk => ?_))
    rw [← classAt_of_lt size.classOf hlt]
    exact decide_classOf_iff k hk

/-- A word takes the blanks behind it, or else those before it. -/
theorem isAroundWord_of_ne_blank (h : col < cells.length)
    (hblank : classAt size.classOf cells col ≠ .blank) :
    IsAroundWord (classAt size.classOf cells) cells.length (innerWord size.classOf cells col)
      (aroundWord size.classOf cells col) := by
  have hrun := isRun_innerWord size.classOf h
  obtain ⟨hfirst, hlast⟩ := innerWord_around size.classOf cells col
  have hword : classAt size.classOf cells (innerWord size.classOf cells col).first ≠ .blank := by
    rwa [← hrun.kindAt_eq col hfirst hlast]
  simp only [aroundWord]
  rw [if_neg hblank]
  generalize innerWord size.classOf cells col = inner at *
  rcases Nat.eq_zero_or_pos (runFrom isBlank cells (inner.last + 1)) with hzero | hpos
  · rw [if_neg (Nat.not_lt.mpr (Nat.le_of_eq hzero))]
    have hbehind : ∀ last, ¬ IsBlankRun (classAt size.classOf cells) cells.length
        (inner.last + 1) last := not_isBlankRun_of_runFrom_eq_zero hzero
    rcases Nat.eq_zero_or_pos (runBefore isBlank cells inner.first) with hzero' | hpos'
    · rw [hzero', Nat.sub_zero]
      refine .noBlanks hword hbehind fun first last hend => ?_
      exact not_isBlankRun_of_runBefore_eq_zero (hend ▸ hzero') first
    · have hle := runBefore_le isBlank cells inner.first
      obtain ⟨i, hi⟩ := Nat.exists_eq_add_of_lt (Nat.lt_of_lt_of_le hpos' hle)
      rw [Nat.zero_add] at hi
      rw [hi] at hrun hpos' ⊢
      exact .blanksBefore hword hbehind hi.symm (isBlankRun_before hrun hpos')
  · rw [if_pos hpos]
    exact .blanksBehind hword (isBlankRun_behind hrun hpos)

/-- **The outer word is the inner one with the run beside it.** -/
theorem isAroundWord_aroundWord (size : WordSize) (h : col < cells.length) :
    IsAroundWord (classAt size.classOf cells) cells.length (innerWord size.classOf cells col)
      (aroundWord size.classOf cells col) := by
  by_cases hblank : classAt size.classOf cells col = .blank
  · exact isAroundWord_of_blank h hblank
  · exact isAroundWord_of_ne_blank h hblank

end Words

/-! ## 4. Paragraphs -/

namespace Buffer

variable {b : Buffer} {n k : Nat}

/-- Whether a line is blank. -/
def isBlankLine (b : Buffer) (n : Nat) : Bool := isBlankText (b.line n)

theorem isBlankLine_of_lt (h : k < b.lines.length) :
    b.isBlankLine k = isBlankText b.lines[k] := by
  rw [isBlankLine, line, List.getElem?_eq_getElem h, Option.getD_some]

/-- **The inner paragraph is the run of the blankness of its line.** -/
theorem isRun_paragraph (h : n ≤ b.lastLine) :
    IsRun b.isBlankLine b.lines.length (b.paragraph false n).1 (b.paragraph false n).2 := by
  have hn : n < b.lines.length := by
    have := b.length_pos
    rw [lastLine] at h
    omega
  refine isRun_around hn fun k hk => ?_
  rw [isBlankLine_of_lt hk, beq_iff_eq]
  rfl

theorem paragraph_around (b : Buffer) (n : Nat) :
    (b.paragraph false n).1 ≤ n ∧ n ≤ (b.paragraph false n).2 :=
  ⟨Nat.sub_le _ _, Nat.le_add_right _ _⟩

/-- **The outer paragraph is the inner one with the run behind it**, if there is one. -/
theorem endsWithNext_paragraph (h : n ≤ b.lastLine) :
    EndsWithNext b.isBlankLine b.lines.length (b.paragraph false n).2 (b.paragraph true n).2 := by
  have hrun := isRun_paragraph h
  have hkind := hrun.kindAt_eq n (paragraph_around b n).1 (paragraph_around b n).2
  have houter : (b.paragraph true n).2 = (b.paragraph false n).2 +
      runFrom (fun cells => !(isBlankText cells == b.isBlankLine n)) b.lines
        ((b.paragraph false n).2 + 1) := rfl
  rw [houter]
  generalize (b.paragraph false n).2 = last at hrun
  have hlt := hrun.last_lt
  by_cases hend : last + 1 = b.lines.length
  · rw [runFrom_of_length_le (Nat.le_of_eq hend.symm)]
    exact .none hend
  · refine .next (isRun_behind hrun (by omega) fun k hk => ?_)
    -- a line is blank or it is not, so what differs from the paragraph is alike
    have hbehind := hrun.behind hend
    rw [← hkind] at hbehind
    rw [← isBlankLine_of_lt hk]
    cases hn : b.isBlankLine n <;> simp_all

end Buffer

/-! ## 5. Words and paragraphs -/

/-- **Words and paragraphs are maximal runs, and partition the text.** On a line the inner word of a
column, of either size, is the run around the column of the class of its character, any two columns
have the same word or words apart, and the outer word takes the run beside it that the class asks
for. In a text the inner paragraph of a line is the run around it of lines that are all blank or all
not, any two lines have the same paragraph or paragraphs apart, and the outer paragraph takes the
run behind it, if there is one. -/
theorem words_and_paragraphs_are_runs :
    (∀ (size : WordSize) (cells : List Char) (col : Nat), col < cells.length →
      let kindAt := classAt size.classOf cells
      let inner := wordObject size false cells
      (IsRun kindAt cells.length (inner col).first (inner col).last ∧
        (inner col).first ≤ col ∧ col ≤ (inner col).last) ∧
      (∀ col' < cells.length, inner col' = inner col ∨
        (inner col).last < (inner col').first ∨ (inner col').last < (inner col).first) ∧
      IsAroundWord kindAt cells.length (inner col) (wordObject size true cells col)) ∧
    ∀ (b : Buffer) (n : Nat), n ≤ b.lastLine →
      let inner := b.paragraph false
      (IsRun b.isBlankLine b.lines.length (inner n).1 (inner n).2 ∧
        (inner n).1 ≤ n ∧ n ≤ (inner n).2) ∧
      (∀ n' ≤ b.lastLine, inner n' = inner n ∨
        (inner n).2 < (inner n').1 ∨ (inner n').2 < (inner n).1) ∧
      (b.paragraph true n).1 = (inner n).1 ∧
      EndsWithNext b.isBlankLine b.lines.length (inner n).2 (b.paragraph true n).2 := by
  constructor
  · intro size cells col hcol kindAt inner
    have hrun := isRun_innerWord size.classOf hcol
    refine ⟨⟨hrun, innerWord_around size.classOf cells col⟩, fun col' hcol' => ?_,
      isAroundWord_aroundWord size hcol⟩
    have hrun' := isRun_innerWord size.classOf hcol'
    exact (hrun.eq_or_apart hrun').imp_left fun h => Columns.mk.injEq .. ▸ h
  · intro b n hn inner
    have hrun := Buffer.isRun_paragraph hn
    refine ⟨⟨hrun, b.paragraph_around n⟩, fun n' hn' => ?_, rfl, Buffer.endsWithNext_paragraph hn⟩
    have hrun' := Buffer.isRun_paragraph hn'
    exact (hrun.eq_or_apart hrun').imp_left fun h => Prod.ext h.1 h.2

/-- A word at the end of its line, with blanks before it, and a paragraph with blank lines behind
it. -/
theorem words_and_paragraphs_are_runs_at_the_end :
    let cells := ['a', '.', ' ', '\t', 'b', 'c']
    let kindAt := classAt WordSize.small.classOf cells
    let b := Buffer.ofTexts ["a", "", " ", "b"]
    5 < cells.length ∧ 1 < cells.length ∧ IsRun kindAt cells.length 4 5 ∧
      wordObject .small true cells 5 = ⟨2, 5⟩ ∧
      IsAroundWord kindAt cells.length ⟨4, 5⟩ ⟨2, 5⟩ ∧
      0 ≤ b.lastLine ∧ b.paragraph true 0 = (0, 2) ∧
      EndsWithNext b.isBlankLine b.lines.length 0 2 := by
  intro cells kindAt b
  have hcol : 5 < cells.length := by decide
  have hinner : wordObject .small false cells 5 = ⟨4, 5⟩ := by decide +kernel
  have houter : wordObject .small true cells 5 = ⟨2, 5⟩ := by decide +kernel
  have hparagraph : b.paragraph true 0 = (0, 2) := by decide +kernel
  obtain ⟨⟨hrun, -⟩, -, haround⟩ := words_and_paragraphs_are_runs.1 .small cells 5 hcol
  obtain ⟨-, -, -, hnext⟩ := words_and_paragraphs_are_runs.2 b 0 (Nat.zero_le _)
  rw [hinner] at hrun haround
  rw [houter] at haround
  rw [hparagraph] at hnext
  exact ⟨hcol, by decide, hrun, houter, haround, Nat.zero_le _, hparagraph, hnext⟩

end MotionTutor
