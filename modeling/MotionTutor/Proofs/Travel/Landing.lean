import MotionTutor.Proofs.Travel.Reader

/-!
# Where motions by words lead

A word starts in a cell if its character is not blank and the one before it on the line is of
another class (`Buffer.StartsWord`), and it ends where the one behind it is (`Buffer.EndsWord`); an
empty line counts as a word that starts there. The motions by words are the searches for the nearest
such cell (`Buffer.LandsOnWords`, `Buffer.step_landsOnWords`):

* `w` goes to the first start of a word after the cursor, or to the end of the text;
* `b` to the last start before it, or to the beginning;
* `e` to the first end after it, or nowhere;
* `ge` to the last end or empty line before it, or to the beginning.

This holds for every classification of characters, and for words of both sizes.

On one line the motions look for a place of a kind (`WordTravel.StopsAt`) from a place on, and find
the first (`isFirstFrom_stopFrom?`); what lies between are blanks and the middles of words. From the
lines it goes to the text in the order in which a reader meets the cells (`Buffer.IsNearestStop`,
`Buffer.wordStep_nearest`), and from there to positions in reading order.
-/

namespace MotionTutor

/-! ## 1. The first place of a kind -/

/-- The first place from `i` on with a property, or none if there is no such place. -/
def IsFirstFrom (P : Nat → Prop) (i : Nat) : Option Nat → Prop
  | some j => i ≤ j ∧ P j ∧ ∀ k, i ≤ k → k < j → ¬ P k
  | none => ∀ k, i ≤ k → ¬ P k

/-- Places without the property may be skipped. -/
theorem IsFirstFrom.of_skip {P : Nat → Prop} {i j : Nat} {found : Option Nat} (hij : i ≤ j)
    (hskip : ∀ k, i ≤ k → k < j → ¬ P k) (h : IsFirstFrom P j found) : IsFirstFrom P i found := by
  cases found with
  | none =>
    intro k hk
    rcases Nat.lt_or_ge k j with hlt | hge
    · exact hskip k hk hlt
    · exact h k hge
  | some l =>
    obtain ⟨hjl, hl, hfirst⟩ := h
    refine ⟨Nat.le_trans hij hjl, hl, fun k hk hkl => ?_⟩
    rcases Nat.lt_or_ge k j with hlt | hge
    · exact hskip k hk hlt
    · exact hfirst k hge hkl

/-- A search from further on finds the same if all that is skipped lacks the property. -/
theorem isFirstFrom_congr {P : Nat → Prop} {i j : Nat} {found : Option Nat} (hij : i ≤ j)
    (hskip : ∀ k, i ≤ k → k < j → ¬ P k) :
    IsFirstFrom P i found ↔ IsFirstFrom P j found := by
  refine ⟨fun h => ?_, .of_skip hij hskip⟩
  cases found with
  | none => exact fun k hk => h k (Nat.le_trans hij hk)
  | some l =>
    obtain ⟨hil, hPl, hbefore⟩ := h
    exact ⟨Nat.le_of_not_lt fun hlt => hskip l hil hlt hPl, hPl,
      fun k hk hkl => hbefore k (Nat.le_trans hij hk) hkl⟩

/-- There is one first place. -/
theorem IsFirstFrom.eq {P : Nat → Prop} {i j k : Nat} (hj : IsFirstFrom P i (some j))
    (hk : IsFirstFrom P i (some k)) : j = k := by
  obtain ⟨hij, hPj, hbeforej⟩ := hj
  obtain ⟨hik, hPk, hbeforek⟩ := hk
  exact Nat.le_antisymm (Nat.le_of_not_lt fun hlt => hbeforej k hik hlt hPk)
    (Nat.le_of_not_lt fun hlt => hbeforek j hij hlt hPj)

section Runs

variable {α : Type} {P : Nat → Prop} {test : α → Bool} {xs : List α} {i : Nat}

/-- A run of elements without the property is skipped. -/
theorem not_of_lt_runFrom (htest : ∀ k (hk : k < xs.length), test xs[k] = true ↔ ¬ P k) :
    ∀ k, i ≤ k → k < i + runFrom test xs i → ¬ P k := by
  intro k hik hk
  obtain ⟨hlt, hpass⟩ := test_of_lt_runFrom hik hk
  exact (htest k hlt).mp hpass

/-- **The place behind a run of elements without the property is the first with it.** -/
theorem isFirstFrom_add_runFrom (htest : ∀ k (hk : k < xs.length), test xs[k] = true ↔ ¬ P k)
    (hlt : i + runFrom test xs i < xs.length) : IsFirstFrom P i (some (i + runFrom test xs i)) := by
  refine ⟨Nat.le_add_right _ _, Classical.not_not.mp fun hnot => ?_, not_of_lt_runFrom htest⟩
  rw [← htest _ hlt, test_add_runFrom hlt] at hnot
  exact Bool.false_ne_true hnot

end Runs

/-! ## 2. Stops on a line -/

theorem classAt_of_length_le {classOf : Char → CharClass} {cells : List Char} {i : Nat}
    (h : cells.length ≤ i) : classAt classOf cells i = .blank := by
  rw [classAt, List.getElem?_eq_none h]
  rfl

theorem classAt_of_getElem? (classOf : Char → CharClass) {cells : List Char} {i : Nat} {c : Char}
    (h : cells[i]? = some c) : classAt classOf cells i = classOf c := by
  rw [classAt, h]
  rfl

namespace WordTravel

variable {travel : WordTravel} {classOf : Char → CharClass} {cells : List Char} {i j k : Nat}
  {run : CharClass}

/-- The characters of a run are of its class. -/
theorem classAt_of_lt_runOf (hik : i ≤ k) (hk : k < i + runOf classOf cells run i) :
    classAt classOf cells k = run := by
  obtain ⟨hlt, htest⟩ := test_of_lt_runFrom hik hk
  rw [classAt_of_getElem? classOf (List.getElem?_eq_getElem hlt)]
  exact of_decide_eq_true htest

/-- From a character of the class on they are, up to the end of the run behind it. -/
theorem classAt_of_lt_succ_runOf (hclass : classAt classOf cells i = run) (hik : i ≤ k)
    (hk : k < i + 1 + runOf classOf cells run (i + 1)) : classAt classOf cells k = run := by
  rcases Nat.eq_or_lt_of_le hik with rfl | hgt
  · exact hclass
  · exact classAt_of_lt_runOf hgt hk

/-- A run ends at the end of the line or at a character of another class. -/
theorem classAt_add_runOf_ne (hlt : i + runOf classOf cells run i < cells.length) :
    classAt classOf cells (i + runOf classOf cells run i) ≠ run := by
  have htest := test_add_runFrom hlt
  rw [classAt_of_getElem? classOf (List.getElem?_eq_getElem hlt)]
  exact of_decide_eq_false htest

variable (classOf cells i) in
theorem classAt_add_runOf_ne_of_ne_blank (hrun : run ≠ .blank) :
    classAt classOf cells (i + runOf classOf cells run i) ≠ run := by
  rcases Nat.lt_or_ge (i + runOf classOf cells run i) cells.length with hlt | hge
  · exact classAt_add_runOf_ne hlt
  · rw [classAt_of_length_le hge]
    exact hrun.symm

variable (classOf cells) in
/-- A reader of the line comes to a word at place `i`. -/
def EntersWord (i : Nat) : Prop :=
  classAt classOf cells i ≠ .blank ∧
    (i = 0 ∨ classAt classOf cells (i - 1) ≠ classAt classOf cells i)

variable (classOf cells) in
/-- A reader of the line leaves a word after place `i`. -/
def LeavesWord (i : Nat) : Prop :=
  classAt classOf cells i ≠ .blank ∧ classAt classOf cells (i + 1) ≠ classAt classOf cells i

variable (travel classOf cells) in
/-- The motion may stop at place `i` of a line: on an empty line, or at an end of a word. -/
def StopsAt (i : Nat) : Prop :=
  (cells = [] ∧ i = 0 ∧ travel ≠ .nextEnd) ∨
    if travel.stopsNear then EntersWord classOf cells i else LeavesWord classOf cells i

theorem stopsAt_of_near (hcells : cells ≠ []) (h : travel.stopsNear = true) :
    travel.StopsAt classOf cells i ↔ EntersWord classOf cells i := by
  rw [StopsAt, if_pos h, or_iff_right fun hempty => hcells hempty.1]

theorem stopsAt_of_far (hcells : cells ≠ []) (h : travel.stopsNear = false) :
    travel.StopsAt classOf cells i ↔ LeavesWord classOf cells i := by
  rw [StopsAt, if_neg (Bool.eq_false_iff.1 h), or_iff_right fun hempty => hcells hempty.1]

theorem not_stopsAt_of_blank (hcells : cells ≠ []) (h : classAt classOf cells i = .blank) :
    ¬ travel.StopsAt classOf cells i := by
  rintro (⟨hempty, -⟩ | hstop)
  · exact hcells hempty
  · split at hstop
    · exact hstop.1 h
    · exact hstop.1 h

theorem stopsAt_nil : travel.StopsAt classOf [] i ↔ i = 0 ∧ travel ≠ .nextEnd := by
  rw [StopsAt, and_iff_right rfl, or_iff_left]
  have hblank : classAt classOf [] i = .blank := classAt_of_length_le (Nat.zero_le i)
  split
  · exact fun h => h.1 hblank
  · exact fun h => h.1 hblank

/-- A motion to the near end of words stops where it comes to a word. -/
theorem isFirstFrom_near (hcells : cells ≠ []) (hstops : travel.stopsNear = true)
    (h : EntersWord classOf cells i) : IsFirstFrom (travel.StopsAt classOf cells) i (some i) :=
  ⟨Nat.le_refl i, (stopsAt_of_near hcells hstops).2 h,
    fun _ hk hlt => absurd hlt (Nat.not_lt.2 hk)⟩

/-- A motion to the far end of words stops at the end of the run that it is in. -/
theorem isFirstFrom_far (hcells : cells ≠ []) (hstops : travel.stopsNear = false)
    (hclass : classAt classOf cells i = run) (hrun : run ≠ .blank) :
    IsFirstFrom (travel.StopsAt classOf cells) i
      (some (i + runOf classOf cells run (i + 1))) := by
  have hmiddle : ∀ k, i ≤ k → k < i + 1 + runOf classOf cells run (i + 1) →
      classAt classOf cells k = run := fun _ => classAt_of_lt_succ_runOf hclass
  have hbehind := classAt_add_runOf_ne_of_ne_blank classOf cells (i + 1) hrun
  have hlast := hmiddle (i + runOf classOf cells run (i + 1)) (Nat.le_add_right _ _) (by omega)
  rw [Nat.add_right_comm] at hbehind
  refine ⟨Nat.le_add_right i _, (stopsAt_of_far hcells hstops).2 ?_, fun k hk hlt hstop => ?_⟩
  · rw [LeavesWord, hlast]
    exact ⟨hrun, hbehind⟩
  · have hhere := hmiddle k hk (by omega)
    have hnext := hmiddle (k + 1) (by omega) (by omega)
    exact ((stopsAt_of_far hcells hstops).1 hstop).2 (hnext.trans hhere.symm)

/-- From a place on that is not in the middle of a word, the motion stops at the first stop. -/
theorem isFirstFrom_stopFrom? (hcells : cells ≠ [])
    (hfresh : travel.stopsNear = true → i = 0 ∨
      classAt classOf cells (i - 1) ≠ classAt classOf cells i ∨
      classAt classOf cells i = .blank) :
    IsFirstFrom (travel.StopsAt classOf cells) i (travel.stopFrom? classOf cells i) := by
  have hblanks : ∀ k, i ≤ k → k < i + runOf classOf cells .blank i →
      ¬ travel.StopsAt classOf cells k := fun k hik hk =>
    not_stopsAt_of_blank hcells (classAt_of_lt_runOf hik hk)
  refine IsFirstFrom.of_skip (Nat.le_add_right i _) hblanks ?_
  have hnear : (i + runOf classOf cells .blank i = i) ∨
      classAt classOf cells (i + runOf classOf cells .blank i - 1) = .blank := by
    rcases Nat.eq_zero_or_pos (runOf classOf cells .blank i) with hzero | hpos
    · exact .inl (by rw [hzero]; rfl)
    · exact .inr (classAt_of_lt_runOf (i := i) (by omega) (by omega))
  have hend := @classAt_add_runOf_ne classOf cells i .blank
  unfold stopFrom?
  dsimp only
  generalize i + runOf classOf cells .blank i = near at hnear hend ⊢
  cases hc : cells[near]? with
  | none =>
    intro k hk
    have hlen := List.getElem?_eq_none_iff.1 hc
    exact not_stopsAt_of_blank hcells (classAt_of_length_le (Nat.le_trans hlen hk))
  | some c =>
    have hclass := classAt_of_getElem? classOf hc
    obtain ⟨hlt, -⟩ := List.getElem?_eq_some_iff.1 hc
    have hword := hend hlt
    rw [Option.map_some]
    cases hstops : travel.stopsNear with
    | true =>
      refine isFirstFrom_near hcells hstops ⟨hword, ?_⟩
      rcases hnear with rfl | hblank
      · rcases hfresh hstops with hzero | hother | hblank
        · exact .inl hzero
        · exact .inr hother
        · exact absurd hblank hword
      · exact .inr fun heq => hword (heq.symm.trans hblank)
    | false => exact isFirstFrom_far hcells hstops hclass (hclass ▸ hword)

/-- On a line that it reaches, the motion stops at the first stop. -/
theorem isFirstFrom_stopOn? :
    IsFirstFrom (travel.StopsAt classOf cells) 0 (travel.stopOn? classOf cells) := by
  unfold stopOn?
  cases cells with
  | nil =>
    by_cases htravel : travel = .nextEnd
    · subst htravel
      exact fun k _ hstop => (stopsAt_nil.1 hstop).2 rfl
    · rw [if_pos (by simpa using htravel)]
      exact ⟨Nat.le_refl 0, stopsAt_nil.2 ⟨rfl, htravel⟩,
        fun k _ hk => absurd hk (Nat.not_lt_zero k)⟩
  | cons c cells =>
    rw [if_neg (by rw [List.isEmpty_cons, Bool.false_and]; decide)]
    exact isFirstFrom_stopFrom? (List.cons_ne_nil c cells) fun _ => .inl rfl

/-- On the line where it starts, the motion stops at the first stop beyond the start. -/
theorem isFirstFrom_stopAfter? :
    IsFirstFrom (travel.StopsAt classOf cells) (i + 1) (travel.stopAfter? classOf cells i) := by
  unfold stopAfter?
  dsimp only
  by_cases hcells : cells = []
  · subst hcells
    rw [show travel.stopFrom? classOf [] _ = none from rfl]
    intro k hk hstop
    rw [(stopsAt_nil.1 hstop).1] at hk
    exact Nat.not_succ_le_zero i hk
  cases hstops : travel.stopsNear with
  | false =>
    exact isFirstFrom_stopFrom? hcells fun h => absurd (h.symm.trans hstops) (by decide)
  | true =>
    rw [if_pos rfl]
    -- the rest of the run under the cursor is left first
    have hrun : ∀ k, i ≤ k → k < i + 1 + runOf classOf cells (classAt classOf cells i) (i + 1) →
        classAt classOf cells k = classAt classOf cells i := fun _ => classAt_of_lt_succ_runOf rfl
    have hend := @classAt_add_runOf_ne classOf cells (i + 1) (classAt classOf cells i)
    generalize runOf classOf cells (classAt classOf cells i) (i + 1) = left at hrun hend ⊢
    refine IsFirstFrom.of_skip (Nat.le_add_right _ _) (fun k hk hlt hstop => ?_)
      (isFirstFrom_stopFrom? hcells fun _ => .inr ?_)
    · rcases ((stopsAt_of_near hcells hstops).1 hstop).2 with rfl | hstop
      · exact absurd hk (Nat.not_succ_le_zero i)
      · exact hstop ((hrun (k - 1) (by omega) (by omega)).trans (hrun k (by omega) hlt).symm)
    · rcases Nat.lt_or_ge (i + 1 + left) cells.length with hlt | hge
      · refine .inl fun heq => hend hlt ?_
        rw [← heq]
        exact hrun (i + 1 + left - 1) (by omega) (by omega)
      · exact .inr (classAt_of_length_le hge)

end WordTravel

/-! ## 3. Words in a text -/

/-- A classification for words of one size: big words know only blanks and the rest. -/
def WordSize.merge (size : WordSize) (classOf : Char → CharClass) (c : Char) : CharClass :=
  match size with
  | .small => classOf c
  | .big => if classOf c = .blank then .blank else .word

/-- Words of both sizes are divided by the same characters. -/
theorem WordSize.classOf_eq_blank_iff (size : WordSize) (c : Char) :
    size.classOf c = .blank ↔ isBlank c = true := by
  unfold WordSize.classOf
  split
  · rename_i hblank
    exact iff_of_true rfl hblank
  · rename_i hblank
    refine iff_of_false ?_ hblank
    split
    · exact nofun
    · exact nofun

theorem WordSize.classOf_eq_merge (size : WordSize) :
    size.classOf = size.merge WordSize.small.classOf := by
  funext c
  cases size with
  | small => rfl
  | big =>
    simp only [merge, WordSize.small.classOf_eq_blank_iff]
    rfl

namespace Buffer

variable (b : Buffer) (classOf : Char → CharClass)

/-- The class of the character in a cell; the cell of an empty line counts as blank. -/
def classIn (p : Position) : CharClass := (b.charAt p).elim .blank classOf

/-- The cell of an empty line. -/
def IsEmptyLine (p : Position) : Prop := b.InBounds p ∧ b.lineLength p.line = 0

/-- A word starts here: an empty line, or a character that is not blank and is the first on its line
or of another class than the one before it. -/
def StartsWord (p : Position) : Prop :=
  b.IsEmptyLine p ∨ b.InBounds p ∧ b.classIn classOf p ≠ .blank ∧
    (p.col = 0 ∨ b.classIn classOf ⟨p.line, p.col - 1⟩ ≠ b.classIn classOf p)

/-- A word ends here: a character that is not blank and is the last on its line or of another class
than the one behind it. -/
def EndsWord (p : Position) : Prop :=
  b.InBounds p ∧ b.classIn classOf p ≠ .blank ∧
    (p.col + 1 = b.lineLength p.line ∨
      b.classIn classOf ⟨p.line, p.col + 1⟩ ≠ b.classIn classOf p)

/-- What a motion by words looks for. -/
def Stops : WordTravel → Position → Prop
  | .nextStart, p | .prevStart, p => b.StartsWord classOf p
  | .nextEnd, p => b.EndsWord classOf p
  | .prevEnd, p => b.EndsWord classOf p ∨ b.IsEmptyLine p

variable {b classOf} {travel : WordTravel} {d : Direction} {k k' i i' : Nat} {p q : Position}

theorem inBounds_of_stops (h : b.Stops classOf travel p) : b.InBounds p := by
  cases travel with
  | nextStart | prevStart => exact h.elim (·.1) (·.1)
  | nextEnd => exact h.1
  | prevEnd => exact h.elim (·.1) (·.1)

variable (classOf) in
theorem classIn_cellMet (hi : i ≤ (b.met d k).length - 1) :
    b.classIn classOf (b.cellMet d k i) = classAt classOf (b.met d k) i := by
  rw [classIn, charAt_cellMet b d hi]
  rfl

theorem not_isEmptyLine (hmet : b.met d k ≠ []) : ¬ b.IsEmptyLine (b.cellMet d k i) := fun h =>
  hmet (List.eq_nil_of_length_eq_zero (lineLength_cellMet b d k i ▸ h.2))

/-- On an empty line a motion stops, unless it looks for the end of a word. -/
theorem stops_cellMet_empty (hk : k < b.lines.length) (hmet : b.met travel.direction k = []) :
    b.Stops classOf travel (b.cellMet travel.direction k 0) ↔ travel ≠ .nextEnd := by
  have hlength : b.lineLength (b.cellMet travel.direction k 0).line = 0 := by
    rw [lineLength_cellMet, hmet]
    rfl
  have hclass : b.classIn classOf (b.cellMet travel.direction k 0) = .blank := by
    rw [classIn_cellMet classOf (Nat.zero_le _), hmet]
    rfl
  have hempty : b.IsEmptyLine (b.cellMet travel.direction k 0) :=
    ⟨b.inBounds_cellMet _ hk (Nat.zero_le _), hlength⟩
  cases travel with
  | nextStart | prevStart => exact iff_of_true (.inl hempty) nofun
  | nextEnd => exact iff_of_false (fun h => h.2.1 hclass) (fun h => h rfl)
  | prevEnd => exact iff_of_true (.inr hempty) nofun

theorem classAt_met_succ_of_last (hi : i + 1 = (b.met d k).length) :
    classAt classOf (b.met d k) (i + 1) = .blank := classAt_of_length_le (Nat.le_of_eq hi.symm)

theorem classIn_cellMet_backward_succ (hi : i + 1 ≤ (b.met .backward k).length - 1) :
    b.classIn classOf ⟨(b.cellMet .backward k i).line, (b.cellMet .backward k i).col - 1⟩ =
      classAt classOf (b.met .backward k) (i + 1) := by
  rw [← classIn_cellMet classOf hi]
  simp only [cellMet, Direction.place, Nat.sub_sub, Nat.add_assoc]

theorem classIn_cellMet_backward_pred (hpos : 0 < i) (hi : i ≤ (b.met .backward k).length - 1) :
    b.classIn classOf ⟨(b.cellMet .backward k i).line, (b.cellMet .backward k i).col + 1⟩ =
      classAt classOf (b.met .backward k) (i - 1) := by
  rw [← classIn_cellMet classOf (show i - 1 ≤ (b.met .backward k).length - 1 by omega)]
  simp only [cellMet, Direction.place]
  congr 2
  omega

open WordTravel (EntersWord LeavesWord)

/-- Forwards a reader comes to a word where it starts. -/
theorem startsWord_forward (hk : k < b.lines.length) (hmet : b.met .forward k ≠ [])
    (hi : i ≤ (b.met .forward k).length - 1) :
    b.StartsWord classOf (b.cellMet .forward k i) ↔ EntersWord classOf (b.met .forward k) i := by
  rw [StartsWord, or_iff_right (not_isEmptyLine hmet),
    and_iff_right (b.inBounds_cellMet .forward hk hi), EntersWord, classIn_cellMet classOf hi,
    ← classIn_cellMet classOf (show i - 1 ≤ (b.met .forward k).length - 1 by omega)]
  exact Iff.rfl

/-- Forwards a reader leaves a word where it ends. -/
theorem endsWord_forward (hk : k < b.lines.length) (hmet : b.met .forward k ≠ [])
    (hi : i ≤ (b.met .forward k).length - 1) :
    b.EndsWord classOf (b.cellMet .forward k i) ↔ LeavesWord classOf (b.met .forward k) i := by
  have hpos : 0 < (b.met .forward k).length := List.length_pos_iff.2 hmet
  rw [EndsWord, and_iff_right (b.inBounds_cellMet .forward hk hi), LeavesWord,
    classIn_cellMet classOf hi, lineLength_cellMet]
  refine and_congr_right fun hword => ?_
  by_cases hlast : i + 1 = (b.met .forward k).length
  · rw [classAt_met_succ_of_last hlast]
    exact iff_of_true (.inl hlast) hword.symm
  · rw [← classIn_cellMet classOf
      (show i + 1 ≤ (b.met .forward k).length - 1 by omega)]
    exact or_iff_right hlast

/-- Backwards a reader leaves a word where it starts. -/
theorem startsWord_backward (hk : k < b.lines.length) (hmet : b.met .backward k ≠ [])
    (hi : i ≤ (b.met .backward k).length - 1) :
    b.StartsWord classOf (b.cellMet .backward k i) ↔
      LeavesWord classOf (b.met .backward k) i := by
  have hpos : 0 < (b.met .backward k).length := List.length_pos_iff.2 hmet
  rw [StartsWord, or_iff_right (not_isEmptyLine hmet),
    and_iff_right (b.inBounds_cellMet .backward hk hi), LeavesWord, classIn_cellMet classOf hi]
  refine and_congr_right fun hword => ?_
  have hcol : (b.cellMet .backward k i).col = 0 ↔ i + 1 = (b.met .backward k).length := by
    show (b.met .backward k).length - 1 - i = 0 ↔ _
    omega
  rw [hcol]
  by_cases hlast : i + 1 = (b.met .backward k).length
  · rw [classAt_met_succ_of_last hlast]
    exact iff_of_true (.inl hlast) hword.symm
  · rw [classIn_cellMet_backward_succ (by omega)]
    exact or_iff_right hlast

/-- Backwards a reader comes to a word where it ends. -/
theorem endsWord_backward (hk : k < b.lines.length) (hmet : b.met .backward k ≠ [])
    (hi : i ≤ (b.met .backward k).length - 1) :
    b.EndsWord classOf (b.cellMet .backward k i) ↔ EntersWord classOf (b.met .backward k) i := by
  have hpos : 0 < (b.met .backward k).length := List.length_pos_iff.2 hmet
  rw [EndsWord, and_iff_right (b.inBounds_cellMet .backward hk hi), EntersWord,
    classIn_cellMet classOf hi, lineLength_cellMet]
  refine and_congr_right fun _ => ?_
  have hcol : (b.cellMet .backward k i).col + 1 = (b.met .backward k).length ↔ i = 0 := by
    show (b.met .backward k).length - 1 - i + 1 = _ ↔ _
    omega
  rw [hcol]
  rcases Nat.eq_zero_or_pos i with rfl | hfirst
  · exact iff_of_true (.inl rfl) (.inl rfl)
  · rw [classIn_cellMet_backward_pred hfirst hi]

/-- The stops in the text are the stops on its lines. -/
theorem stops_cellMet (hk : k < b.lines.length) (hi : i ≤ (b.met travel.direction k).length - 1) :
    b.Stops classOf travel (b.cellMet travel.direction k i) ↔
      travel.StopsAt classOf (b.met travel.direction k) i := by
  by_cases hmet : b.met travel.direction k = []
  · obtain rfl : i = 0 := by
      rw [hmet] at hi
      exact Nat.le_zero.1 hi
    rw [stops_cellMet_empty hk hmet, hmet, WordTravel.stopsAt_nil, and_iff_right rfl]
  · cases travel with
    | nextStart =>
      rw [WordTravel.stopsAt_of_near hmet rfl]
      exact startsWord_forward hk hmet hi
    | nextEnd =>
      rw [WordTravel.stopsAt_of_far hmet rfl]
      exact endsWord_forward hk hmet hi
    | prevStart =>
      rw [WordTravel.stopsAt_of_far hmet rfl]
      exact startsWord_backward hk hmet hi
    | prevEnd =>
      rw [WordTravel.stopsAt_of_near hmet rfl]
      exact (or_iff_left (not_isEmptyLine hmet)).trans (endsWord_backward hk hmet hi)

/-! ## 4. The nearest stop -/

/-- A reader meets `q` after `p`. -/
def Meets (d : Direction) (p q : Position) : Prop :=
  match d with
  | .forward => p < q
  | .backward => q < p

theorem meets_irrefl (d : Direction) (p : Position) : ¬ Meets d p p := by
  cases d with
  | forward => exact fun h : p < p => by rw [Position.lt_def] at h; omega
  | backward => exact fun h : p < p => by rw [Position.lt_def] at h; omega

theorem meets_trans (d : Direction) {p q r : Position} (hpq : Meets d p q) (hqr : Meets d q r) :
    Meets d p r := by
  cases d with
  | forward =>
    simp only [Meets, Position.lt_def] at hpq hqr ⊢
    omega
  | backward =>
    simp only [Meets, Position.lt_def] at hpq hqr ⊢
    omega

theorem meets_cellMet (hk : k < b.lines.length) (hk' : k' < b.lines.length)
    (hi : i ≤ (b.met d k).length - 1) (hi' : i' ≤ (b.met d k').length - 1) :
    Meets d (b.cellMet d k i) (b.cellMet d k' i') ↔ k < k' ∨ k = k' ∧ i < i' := by
  cases d with
  | forward => exact Iff.rfl
  | backward =>
    simp only [Meets, Position.lt_def, cellMet, Direction.place]
    rcases Nat.lt_trichotomy k k' with hlt | rfl | hgt
    · omega
    · omega
    · omega

/-- The first stop on the lines beyond line `k` is the first stop on its line, and there is none on
the lines between. -/
theorem of_stopBeyond?_eq_some (hk : k < b.lines.length)
    (h : b.stopBeyond? classOf travel (travel.direction.place b.lines.length k) = some q) :
    ∃ k' i', k < k' ∧ k' < b.lines.length ∧ i' ≤ (b.met travel.direction k').length - 1 ∧
      q = b.cellMet travel.direction k' i' ∧
      IsFirstFrom (travel.StopsAt classOf (b.met travel.direction k')) 0 (some i') ∧
      ∀ l, k < l → l < k' → ∀ j, ¬ travel.StopsAt classOf (b.met travel.direction l) j := by
  induction hn : b.lines.length - k generalizing k with
  | zero => omega
  | succ n ih =>
    by_cases hnext : k + 1 < b.lines.length
    · have hfirst := @WordTravel.isFirstFrom_stopOn? travel classOf (b.met travel.direction (k + 1))
      rw [stopBeyond?_met b classOf travel hnext] at h
      split at h
      · rename_i i hi
        cases h
        rw [hi] at hfirst
        exact ⟨k + 1, i, Nat.lt_succ_self k, hnext, stopOn?_le hi, rfl, hfirst, fun l hl hl' =>
          absurd hl (Nat.not_lt.2 (Nat.le_of_lt_succ hl'))⟩
      · rename_i hnone
        rw [hnone] at hfirst
        obtain ⟨k', i', hlt, hk', hi', hq, hstop, hbetween⟩ := ih hnext h (by omega)
        refine ⟨k', i', Nat.lt_of_succ_lt hlt, hk', hi', hq, hstop, fun l hl hl' => ?_⟩
        rcases Nat.eq_or_lt_of_le hl with rfl | hgt
        · exact fun j => hfirst j (Nat.zero_le j)
        · exact hbetween l hgt hl'
    · have hlast : k = b.lastLine := by
        have := b.lastLine_add_one
        omega
      rw [hlast, stopBeyond?_last] at h
      cases h

theorem of_stopBeyond?_eq_none (hk : k < b.lines.length)
    (h : b.stopBeyond? classOf travel (travel.direction.place b.lines.length k) = none) :
    ∀ l, k < l → l < b.lines.length →
      ∀ j, ¬ travel.StopsAt classOf (b.met travel.direction l) j := by
  induction hn : b.lines.length - k generalizing k with
  | zero => omega
  | succ n ih =>
    by_cases hnext : k + 1 < b.lines.length
    · have hfirst := @WordTravel.isFirstFrom_stopOn? travel classOf (b.met travel.direction (k + 1))
      rw [stopBeyond?_met b classOf travel hnext] at h
      split at h
      · cases h
      · rename_i hnone
        rw [hnone] at hfirst
        intro l hl hlength
        rcases Nat.eq_or_lt_of_le hl with rfl | hgt
        · exact fun j => hfirst j (Nat.zero_le j)
        · exact ih hnext h (by omega) l hgt hlength
    · omega

/-- `q` is the nearest stop beyond `p` for the reader. -/
structure IsNearestStop (b : Buffer) (classOf : Char → CharClass) (travel : WordTravel)
    (p q : Position) : Prop where
  stops : b.Stops classOf travel q
  meets : Meets travel.direction p q
  nearest : ∀ r, b.Stops classOf travel r → Meets travel.direction p r →
    ¬ Meets travel.direction r q

/-- The nearest stop beyond a cell, seen along the lines as a reader meets them. -/
theorem isNearestStop_cellMet (hk : k < b.lines.length) (hk' : k' < b.lines.length)
    (hi : i ≤ (b.met travel.direction k).length - 1)
    (hi' : i' ≤ (b.met travel.direction k').length - 1)
    (hstop : travel.StopsAt classOf (b.met travel.direction k') i')
    (hmeets : k < k' ∨ k = k' ∧ i < i')
    (hbetween : ∀ l m, k < l ∨ k = l ∧ i < m → l < k' ∨ l = k' ∧ m < i' →
      ¬ travel.StopsAt classOf (b.met travel.direction l) m) :
    b.IsNearestStop classOf travel (b.cellMet travel.direction k i)
      (b.cellMet travel.direction k' i') where
  stops := (stops_cellMet hk' hi').2 hstop
  meets := (meets_cellMet hk hk' hi hi').2 hmeets
  nearest r hr hpr hrq := by
    obtain ⟨l, m, hl, hm, rfl⟩ := exists_cellMet (inBounds_of_stops hr) travel.direction
    exact hbetween l m ((meets_cellMet hk hl hi hm).1 hpr) ((meets_cellMet hl hk' hm hi').1 hrq)
      ((stops_cellMet hl hm).1 hr)

variable (classOf travel) in
/-- **A motion by words leads to the nearest stop**, or where it leads if there is none. -/
theorem wordStep_nearest (h : b.InBounds p) :
    b.IsNearestStop classOf travel p (b.wordStep classOf travel p) ∨
      (∀ r, b.Stops classOf travel r → ¬ Meets travel.direction p r) ∧
        b.wordStep classOf travel p =
          if travel = .nextEnd then p else b.farthestCell travel.direction := by
  obtain ⟨k, i, hk, hi, rfl⟩ := exists_cellMet h travel.direction
  have hstop := @WordTravel.isFirstFrom_stopAfter? travel classOf (b.met travel.direction k) i
  rw [wordStep_cellMet b classOf travel hi]
  cases hj : travel.stopAfter? classOf (b.met travel.direction k) i with
  | some j =>
    rw [hj] at hstop
    obtain ⟨hij, hstops, hfirst⟩ := hstop
    have hlast : j ≤ (b.met travel.direction k).length - 1 := Nat.le_sub_one_of_lt (stopFrom?_lt hj)
    refine .inl (isNearestStop_cellMet hk hk hi hlast hstops (.inr ⟨rfl, hij⟩)
      fun l m hpr hrq => ?_)
    obtain rfl : l = k := by omega
    exact hfirst m (by omega) (by omega)
  | none =>
    rw [hj] at hstop
    rw [stopOrBeyond]
    cases hq : b.stopBeyond? classOf travel (travel.direction.place b.lines.length k) with
    | some q =>
      obtain ⟨k', i', hlt, hk', hi', rfl, ⟨-, hstops, hfirst⟩, hbetween⟩ :=
        of_stopBeyond?_eq_some hk hq
      refine .inl (isNearestStop_cellMet hk hk' hi hi' hstops (.inl hlt) fun l m hpr hrq => ?_)
      rcases hpr with hkl | ⟨rfl, him⟩
      · rcases hrq with hlk | ⟨rfl, hmi⟩
        · exact hbetween l hkl hlk m
        · exact hfirst m (Nat.zero_le m) hmi
      · exact hstop m him
    | none =>
      have hbeyond := of_stopBeyond?_eq_none hk hq
      refine .inr ⟨fun r hr hpr => ?_, rfl⟩
      obtain ⟨l, m, hl, hm, rfl⟩ := exists_cellMet (inBounds_of_stops hr) travel.direction
      have hstop' := (stops_cellMet hl hm).1 hr
      rcases (meets_cellMet hk hl hi hm).1 hpr with hkl | ⟨rfl, him⟩
      · exact hbeyond l hkl hl m hstop'
      · exact hstop m him hstop'

/-! ## 5. In reading order -/

/-- `q` is the first cell after `p` with a property; if there is none it is `last`. -/
def IsFirstAfter (P : Position → Prop) (p last q : Position) : Prop :=
  (P q ∧ p < q ∧ ∀ r, P r → p < r → q ≤ r) ∨ (∀ r, P r → ¬ p < r) ∧ q = last

/-- `q` is the last cell before `p` with a property; if there is none it is `first`. -/
def IsLastBefore (P : Position → Prop) (p first q : Position) : Prop :=
  (P q ∧ q < p ∧ ∀ r, P r → r < p → r ≤ q) ∨ (∀ r, P r → ¬ r < p) ∧ q = first

/-- These motions from `p` lead to the words that they are named for. -/
structure LandsOnWords (b : Buffer) (classOf : Char → CharClass) (p : Position)
    (go : WordTravel → Position) : Prop where
  nextStart : IsFirstAfter (b.StartsWord classOf) p ⟨b.lastLine, b.lastCol b.lastLine⟩
    (go .nextStart)
  prevStart : IsLastBefore (b.StartsWord classOf) p .origin (go .prevStart)
  nextEnd : IsFirstAfter (b.EndsWord classOf) p p (go .nextEnd)
  prevEnd : IsLastBefore (fun q => b.EndsWord classOf q ∨ b.IsEmptyLine q) p .origin
    (go .prevEnd)

variable (travel) in
theorem isFirstAfter_wordStep (h : b.InBounds p) (hforward : travel.direction = .forward) :
    IsFirstAfter (b.Stops classOf travel) p
      (if travel = .nextEnd then p else b.farthestCell .forward)
      (b.wordStep classOf travel p) := by
  have hnearest := wordStep_nearest classOf travel h
  rw [hforward] at hnearest
  refine hnearest.imp (fun hstop => ?_) id
  obtain ⟨hstops, hmeets, hfirst⟩ := hstop
  rw [hforward] at hmeets hfirst
  exact ⟨hstops, hmeets, fun r hr hpr => Position.le_of_not_lt (hfirst r hr hpr)⟩

variable (travel) in
theorem isLastBefore_wordStep (h : b.InBounds p) (hbackward : travel.direction = .backward) :
    IsLastBefore (b.Stops classOf travel) p
      (if travel = .nextEnd then p else b.farthestCell .backward)
      (b.wordStep classOf travel p) := by
  have hnearest := wordStep_nearest classOf travel h
  rw [hbackward] at hnearest
  refine hnearest.imp (fun hstop => ?_) id
  obtain ⟨hstops, hmeets, hfirst⟩ := hstop
  rw [hbackward] at hmeets hfirst
  exact ⟨hstops, hmeets, fun r hr hrp => Position.le_of_not_lt (hfirst r hr hrp)⟩

theorem landsOnWords_wordStep (h : b.InBounds p) :
    b.LandsOnWords classOf p (b.wordStep classOf · p) where
  nextStart := isFirstAfter_wordStep .nextStart h rfl
  prevStart := isLastBefore_wordStep .prevStart h rfl
  nextEnd := isFirstAfter_wordStep .nextEnd h rfl
  prevEnd := isLastBefore_wordStep .prevEnd h rfl

/-- **The motions by words land where their definition says**, under any classification of
characters and for words of both sizes; big words are the runs of characters that are not blank. -/
theorem step_landsOnWords (b : Buffer) (classOf : Char → CharClass) (size : WordSize)
    (h : b.InBounds p) :
    b.LandsOnWords (size.merge classOf) p (b.wordStep (size.merge classOf) · p) ∧
      b.LandsOnWords size.classOf p (fun travel => b.step (.word travel size) p) ∧
      size.classOf = size.merge WordSize.small.classOf :=
  ⟨landsOnWords_wordStep h, landsOnWords_wordStep h, size.classOf_eq_merge⟩

/-- From the last word of a text that goes on with an empty line and blanks: the empty line is a
start of a word, and there is no other end of a word. -/
theorem step_landsOnWords_blank_end :
    let b := ofTexts ["a,b", "", " \t"]
    b.InBounds ⟨0, 2⟩ ∧
      b.LandsOnWords WordSize.small.classOf ⟨0, 2⟩
        (fun travel => b.step (.word travel .small) ⟨0, 2⟩) ∧
      [WordTravel.nextStart, .prevStart, .nextEnd, .prevEnd].map
        (fun travel => b.step (.word travel .small) ⟨0, 2⟩) =
        [⟨1, 0⟩, ⟨0, 1⟩, ⟨0, 2⟩, ⟨0, 1⟩] := by
  have h : (ofTexts ["a,b", "", " \t"]).InBounds ⟨0, 2⟩ := ⟨by decide, by decide⟩
  exact ⟨h, (step_landsOnWords _ WordSize.small.classOf .small h).2.1, by decide +kernel⟩

end Buffer

end MotionTutor
