import MotionTutor.Proofs.Command.Grammar
import MotionTutor.Proofs.Selection.Brackets
import MotionTutor.Proofs.Selection.Elements
import MotionTutor.Proofs.Selection.Runs

/-!
# Objects and what is around them

What an object takes with what is around it covers what it takes without, and, but for quotes,
contains the cursor (`Buffer.simulate_around_covers_inner`). Each kind has a reason of its own:

* words, sentences and paragraphs take more at an end of the inner object, which grew from the
  cursor;
* a delimited object takes its delimiters as well (`Columns.delimited_covers`). Brackets and tags
  lie around the cursor, the quotes may be the next ones behind it.

Angle brackets that give nothing are read as tags, and the inner object of an empty pair is nothing.
So on an empty pair of angle brackets the inner object is the inside of the element around it, and
the outer one the pair, which does not cover it (`Buffer.simulate_around_empty_angles`).
-/

namespace MotionTutor

variable {cells : List Char} {col i : Nat} {opening closing : Char}

/-! ## 1. Columns -/

namespace Columns

/-- Every column of the one region is in the other. -/
structure Covers (outer inner : Columns) : Prop where
  first_le : outer.first ≤ inner.first
  le_last : inner.last ≤ outer.last

structure Contains (c : Columns) (col : Nat) : Prop where
  first_le : c.first ≤ col
  le_last : col ≤ c.last

theorem Covers.refl (c : Columns) : c.Covers c := ⟨Nat.le_refl _, Nat.le_refl _⟩

theorem Covers.contains {outer inner : Columns} (h : outer.Covers inner)
    (hcol : inner.Contains col) : outer.Contains col :=
  ⟨Nat.le_trans h.first_le hcol.first_le, Nat.le_trans hcol.le_last h.le_last⟩

/-- The delimiters cover what lies between them. -/
theorem covers_of_isBetween {afterFirst beforeLast : Nat} {outer inner : Columns}
    (h : inner.IsBetween afterFirst beforeLast) (hfirst : outer.first ≤ afterFirst)
    (hlast : beforeLast ≤ outer.last) : outer.Covers inner := by
  have hfirst' := h.first_eq
  have hlast' := h.last_eq
  exact ⟨by omega, by omega⟩

/-- **A delimited object covers what lies between its delimiters.** -/
theorem delimited_covers {pair : Option Columns} {inner : Columns}
    (h : (pair.bind fun p => if false then some p else between? p.first p.last) = some inner) :
    ∃ outer, (pair.bind fun p => if true then some p else between? p.first p.last) = some outer ∧
      outer.Covers inner := by
  obtain ⟨p, rfl, hp⟩ := Option.bind_eq_some_iff.mp h
  exact ⟨p, rfl, covers_of_isBetween (between?_eq_some_iff.mp hp) (Nat.le_refl _) (Nat.le_refl _)⟩

end Columns

/-! ## 2. The kinds of objects on a line -/

theorem EndsWithNext.le {κ : Type} {kindAt : Nat → κ} {size last last' : Nat}
    (h : EndsWithNext kindAt size last last') : last ≤ last' := by
  cases h with
  | next h =>
    have := h.first_le
    omega
  | none => exact Nat.le_refl _

theorem IsAroundWord.covers {kindAt : Nat → CharClass} {size : Nat} {inner outer : Columns}
    (h : IsAroundWord kindAt size inner outer) : outer.Covers inner := by
  cases h with
  | ofBlanks _ h => exact ⟨Nat.le_refl _, h.le⟩
  | blanksBehind _ h =>
    have := h.1.first_le
    exact ⟨Nat.le_refl _, by simp only; omega⟩
  | blanksBefore _ _ hlast h =>
    have := h.1.first_le
    exact ⟨by simp only; omega, Nat.le_refl _⟩
  | noBlanks => exact .refl _

theorem wordObject_covers (size : WordSize) (hcol : col < cells.length) :
    (wordObject size true cells col).Covers (wordObject size false cells col) :=
  (isAroundWord_aroundWord size hcol).covers

theorem wordObject_contains (size : WordSize) (cells : List Char) (col : Nat) :
    (wordObject size false cells col).Contains col :=
  ⟨(innerWord_around size.classOf cells col).1, (innerWord_around size.classOf cells col).2⟩

theorem sentenceObject_covers (cells : List Char) (col : Nat) :
    (sentenceObject true cells col).Covers (sentenceObject false cells col) :=
  ⟨Nat.le_refl _, Nat.le_add_right _ _⟩

theorem sentenceObject_contains (hcol : col < cells.length) :
    (sentenceObject false cells col).Contains col := by
  refine ⟨Nat.min_le_left _ _, ?_⟩
  simp only [sentenceObject, Bool.false_eq_true, if_false]
  omega

theorem bracketPair?_contains {p : Columns} (h : bracketPair? opening closing cells col = some p) :
    p.Contains col := by
  rw [bracketPair?] at h
  split at h
  · cases h
  · rename_i first hfirst
    split at h
    · cases h
    · split at h
      · cases h
      · rename_i hlast
        cases h
        exact ⟨openingBracket?_le hfirst, Nat.le_of_not_lt hlast⟩

theorem tagObject_covers {inner : Columns} (h : tagObject false cells col = some inner) :
    ∃ outer, tagObject true cells col = some outer ∧ outer.Covers inner := by
  obtain ⟨e, he, hinner⟩ := Option.bind_eq_some_iff.mp h
  have hwithin := within_elementAt? he
  refine ⟨⟨e.opening.first, e.closing.last⟩, by rw [tagObject, he]; rfl, ?_⟩
  exact Columns.covers_of_isBetween (Columns.between?_eq_some_iff.mp hinner)
    (Nat.le_of_lt hwithin.opening_lt) (Nat.le_of_lt hwithin.closing_lt)

theorem tagObject_contains {outer : Columns} (h : tagObject true cells col = some outer) :
    outer.Contains col := by
  obtain ⟨e, he, houter⟩ := Option.bind_eq_some_iff.mp h
  cases houter
  exact ⟨(isInnermostElement_of_elementAt? he).around.1,
    (isInnermostElement_of_elementAt? he).around.2⟩

/-! ## 3. Empty pairs -/

/-- The column is one of the two of a pair of brackets with nothing between them. -/
structure IsOnEmptyPair (opening closing : Char) (cells : List Char) (col i : Nat) : Prop where
  opens : cells[i]? = some opening
  closes : cells[i + 1]? = some closing
  first_le : i ≤ col
  le_last : col ≤ i + 1

/-- An empty pair is innermost, and so is found. -/
theorem IsOnEmptyPair.bracketPair?_eq (h : IsOnEmptyPair opening closing cells col i)
    (hne : opening ≠ closing) : bracketPair? opening closing cells col = some ⟨i, i + 1⟩ := by
  rw [bracketPair?_eq_some_iff_innermost hne]
  have hnone : (cells.take (i + 1)).drop (i + 1) = [] := by
    rw [List.drop_eq_nil_iff, List.length_take]
    exact Nat.min_le_left _ _
  refine ⟨⟨Nat.lt_succ_self i, h.opens, h.closes, hnone ▸ .nil⟩, h.first_le, h.le_last, ?_⟩
  intro q hq hfirst _
  refine Nat.le_of_not_lt fun hlt => hne ?_
  -- a pair that opens behind would open where this one closes
  have hle := h.le_last
  have hsame : q.first = i + 1 := by simp only at hlt; omega
  have hopens := hq.opens
  rw [hsame, h.closes] at hopens
  exact (Option.some.inj hopens).symm

/-- Brackets that are found and have nothing between them are an empty pair. -/
theorem isOnEmptyPair_of_bracketObject_eq_none {p : Columns} (hne : opening ≠ closing)
    (h : bracketPair? opening closing cells col = some p)
    (hnone : bracketObject opening closing false cells col = none) :
    IsOnEmptyPair opening closing cells col p.first := by
  rw [bracketObject, h] at hnone
  have hlast := Columns.between?_eq_none_iff.mp hnone
  have hpair := (bracketPair?_eq_some_iff_innermost hne).mp h
  have hlt := hpair.isPair.first_lt
  have heq : p.last = p.first + 1 := by omega
  exact ⟨hpair.isPair.opens, heq ▸ hpair.isPair.closes, hpair.first_le, heq ▸ hpair.le_last⟩

/-- Angle brackets that do not pair up are read as tags. -/
theorem columns?_angles_of_none {around : Bool}
    (h : bracketObject '<' '>' around cells col = none) :
    (ObjectKind.pair '<' '>').columns? around cells col = tagObject around cells col := by
  simp only [ObjectKind.columns?, h, and_self, if_true]

/-- **On an empty pair of angle brackets** the outer object is the pair, and the inner one what lies
between the tags around it. -/
theorem IsOnEmptyPair.columns?_angles (h : IsOnEmptyPair '<' '>' cells col i) :
    (ObjectKind.pair '<' '>').columns? true cells col = some ⟨i, i + 1⟩ ∧
      (ObjectKind.pair '<' '>').columns? false cells col = tagObject false cells col := by
  have hpair := h.bracketPair?_eq (by decide)
  constructor
  · simp [ObjectKind.columns?, bracketObject, hpair]
  · refine columns?_angles_of_none ?_
    rw [bracketObject, hpair]
    exact Columns.between?_eq_none_iff.mpr (Nat.le_refl _)

/-! ## 4. Any object on a line -/

namespace ObjectKind

variable {kind : ObjectKind}

theorem columns?_pair_of_some {around : Bool} {c : Columns}
    (h : bracketObject opening closing around cells col = some c) :
    (pair opening closing).columns? around cells col = some c := by
  simp only [columns?, h]

/-- **The outer object covers the inner one**, but on an empty pair of angle brackets. -/
theorem columns?_covers (hcol : col < cells.length)
    (hangles : kind = .pair '<' '>' → ∀ i, ¬ IsOnEmptyPair '<' '>' cells col i) {inner : Columns}
    (h : kind.columns? false cells col = some inner) :
    ∃ outer, kind.columns? true cells col = some outer ∧ outer.Covers inner := by
  cases kind with
  | word size =>
    cases h
    exact ⟨_, rfl, wordObject_covers size hcol⟩
  | sentence =>
    cases h
    exact ⟨_, rfl, sentenceObject_covers cells col⟩
  | paragraph => cases h
  | tag => exact tagObject_covers h
  | quote mark => exact Columns.delimited_covers h
  | pair opening closing =>
    cases hinner : bracketObject opening closing false cells col with
    | some c =>
      rw [columns?_pair_of_some hinner] at h
      cases h
      obtain ⟨outer, houter, hcovers⟩ := Columns.delimited_covers hinner
      exact ⟨outer, columns?_pair_of_some houter, hcovers⟩
    | none =>
      simp only [columns?, hinner] at h
      split at h
      · rename_i hkind
        obtain ⟨rfl, rfl⟩ := hkind
        -- no pair is empty here, so there is none, and the outer object is read as tags as well
        have hnone : bracketPair? '<' '>' cells col = none := by
          refine Option.eq_none_iff_forall_ne_some.mpr fun p hp => ?_
          exact hangles rfl p.first (isOnEmptyPair_of_bracketObject_eq_none (by decide) hp hinner)
        have houter : bracketObject '<' '>' true cells col = none := by
          rw [bracketObject, hnone]
          rfl
        rw [columns?_angles_of_none houter]
        exact tagObject_covers h
      · cases h

/-- **The outer object contains the cursor**, but for quotes. -/
theorem columns?_contains (hcol : col < cells.length) (hquote : ∀ mark, kind ≠ .quote mark)
    {outer : Columns} (h : kind.columns? true cells col = some outer) : outer.Contains col := by
  cases kind with
  | word size =>
    cases h
    exact (wordObject_covers size hcol).contains (wordObject_contains size cells col)
  | sentence =>
    cases h
    exact (sentenceObject_covers cells col).contains (sentenceObject_contains hcol)
  | paragraph => cases h
  | tag => exact tagObject_contains h
  | quote mark => exact absurd rfl (hquote mark)
  | pair opening closing =>
    cases houter : bracketObject opening closing true cells col with
    | some c =>
      rw [columns?_pair_of_some houter] at h
      cases h
      obtain ⟨p, hp, hc⟩ := Option.bind_eq_some_iff.mp houter
      cases hc
      exact bracketPair?_contains hp
    | none =>
      simp only [columns?, houter] at h
      split at h
      · exact tagObject_contains h
      · cases h

end ObjectKind

/-! ## 5. Selections -/

namespace Selection

/-- Every cell of the one region is in the other. -/
structure Covers (outer inner : Selection) : Prop where
  first_le : outer.first ≤ inner.first
  le_last : inner.last ≤ outer.last

structure Contains (s : Selection) (p : Position) : Prop where
  first_le : s.first ≤ p
  le_last : p ≤ s.last

theorem ofColumns_covers {outer inner : Columns} (h : outer.Covers inner) (operator : Operator)
    (line : Nat) :
    (ofColumns operator line outer.first outer.last).Covers
      (ofColumns operator line inner.first inner.last) :=
  ⟨.inr ⟨rfl, h.first_le⟩, .inr ⟨rfl, h.le_last⟩⟩

theorem ofColumns_contains {c : Columns} {p : Position} (h : c.Contains p.col)
    (operator : Operator) : (ofColumns operator p.line c.first c.last).Contains p :=
  ⟨.inr ⟨rfl, h.first_le⟩, .inr ⟨rfl, h.le_last⟩⟩

theorem ofLines_covers (b : Buffer) (operator : Operator) (first : Nat) {last last' : Nat}
    (h : last ≤ last') :
    (ofLines b operator first last').Covers (ofLines b operator first last) := by
  refine ⟨Position.le_refl _, ?_⟩
  rcases Nat.lt_or_eq_of_le h with hlt | rfl
  · exact .inl hlt
  · exact Position.le_refl _

theorem ofLines_contains {b : Buffer} {p : Position} (hp : b.InBounds p) (operator : Operator)
    {first last : Nat} (hfirst : first ≤ p.line) (hlast : p.line ≤ last) :
    (ofLines b operator first last).Contains p := by
  constructor
  · rcases Nat.lt_or_eq_of_le hfirst with hlt | rfl
    · exact .inl hlt
    · exact .inr ⟨rfl, Nat.zero_le _⟩
  · rcases Nat.lt_or_eq_of_le hlast with hlt | rfl
    · exact .inl hlt
    · exact .inr ⟨rfl, hp.col_le⟩

end Selection

namespace Buffer

variable {b : Buffer} {p : Position} {kind : ObjectKind} {operator : Operator} {around : Bool}

/-- An object other than a paragraph is chosen on the line of the cursor. -/
theorem selectObject_of_ne_paragraph (hp : b.InBounds p) (hkind : kind ≠ .paragraph) :
    b.selectObject operator ⟨around, kind⟩ p =
      if b.lineLength p.line = 0 then none
      else (kind.columns? around (b.line p.line) p.col).map fun c =>
        .ofColumns operator p.line c.first c.last := by
  rw [selectObject, Nat.min_eq_left hp.col_le]
  cases kind with
  | paragraph => exact absurd rfl hkind
  | _ => rfl

/-- What is chosen on the line of the cursor. -/
theorem exists_columns?_of_selectObject {s : Selection} (hp : b.InBounds p)
    (hkind : kind ≠ .paragraph) (h : b.selectObject operator ⟨around, kind⟩ p = some s) :
    p.col < (b.line p.line).length ∧ b.lineLength p.line ≠ 0 ∧
      ∃ c, kind.columns? around (b.line p.line) p.col = some c ∧
        s = .ofColumns operator p.line c.first c.last := by
  rw [selectObject_of_ne_paragraph hp hkind] at h
  split at h
  · cases h
  · rename_i hlen
    obtain ⟨c, hc, rfl⟩ := Option.map_eq_some_iff.mp h
    exact ⟨hp.col_lt hlen, hlen, c, hc, rfl⟩

/-- **The outer object covers the inner one**, but on an empty pair of angle brackets. -/
theorem selectObject_covers {s : Selection} (hp : b.InBounds p)
    (hangles : kind = .pair '<' '>' → ∀ i, ¬ IsOnEmptyPair '<' '>' (b.line p.line) p.col i)
    (h : b.selectObject operator ⟨false, kind⟩ p = some s) :
    ∃ t, b.selectObject operator ⟨true, kind⟩ p = some t ∧ t.Covers s := by
  by_cases hkind : kind = .paragraph
  · subst hkind
    cases h
    exact ⟨_, rfl, Selection.ofLines_covers b operator _ (Nat.le_add_right _ _)⟩
  · obtain ⟨hcol, hlen, inner, hinner, rfl⟩ := exists_columns?_of_selectObject hp hkind h
    obtain ⟨outer, houter, hcovers⟩ := ObjectKind.columns?_covers hcol hangles hinner
    refine ⟨_, ?_, Selection.ofColumns_covers hcovers operator p.line⟩
    rw [selectObject_of_ne_paragraph hp hkind, if_neg hlen, houter]
    rfl

/-- **The outer object contains the cursor**, but for quotes. -/
theorem selectObject_contains {t : Selection} (hp : b.InBounds p)
    (hquote : ∀ mark, kind ≠ .quote mark)
    (h : b.selectObject operator ⟨true, kind⟩ p = some t) : t.Contains p := by
  by_cases hkind : kind = .paragraph
  · subst hkind
    cases h
    obtain ⟨hfirst, hlast⟩ := b.paragraph_around p.line
    exact Selection.ofLines_contains hp operator hfirst (Nat.le_trans hlast (Nat.le_add_right _ _))
  · obtain ⟨hcol, -, outer, houter, rfl⟩ := exists_columns?_of_selectObject hp hkind h
    exact Selection.ofColumns_contains (ObjectKind.columns?_contains hcol hquote houter) operator

/-- On an empty pair of angle brackets the outer object is the pair, and the inner one the inside of
the element around it. -/
theorem selectObject_empty_angles (hp : b.InBounds p)
    (h : IsOnEmptyPair '<' '>' (b.line p.line) p.col i) :
    b.selectObject operator ⟨true, .pair '<' '>'⟩ p =
        some (.ofColumns operator p.line i (i + 1)) ∧
      b.selectObject operator ⟨false, .pair '<' '>'⟩ p =
        b.selectObject operator ⟨false, .tag⟩ p := by
  obtain ⟨houter, hinner⟩ := h.columns?_angles
  have hlen : b.lineLength p.line ≠ 0 := by
    have hlt := (List.getElem?_eq_some_iff.mp h.opens).1
    rw [lineLength]
    omega
  have hpair : ObjectKind.pair '<' '>' ≠ .paragraph := by decide
  have htag : ObjectKind.tag ≠ .paragraph := by decide
  simp only [selectObject_of_ne_paragraph hp hpair, selectObject_of_ne_paragraph hp htag,
    if_neg hlen, houter, hinner]
  exact ⟨rfl, rfl⟩

end Buffer

/-! ## 6. Keys -/

/-- **What an object takes with what is around it covers what it takes without**, unless the object
is one of angle brackets and the cursor is on an empty pair of them: then the outer object is the
pair, and the inner one what the inner object of tags is. But for quotes, the outer object contains
the cursor. -/
theorem Buffer.simulate_around_covers_inner (b : Buffer) (start : Position)
    (operator : Option Operator) {key : Char} {kind : ObjectKind}
    (hkey : ObjectKind.ofKey? key = some kind) :
    let p := b.clamp start
    let selected (around : Bool) (key : Char) :=
      (b.simulate start
        (operator.elim [] Operator.keys ++ [TextObject.leadingKey around, key])).selection
    ((kind = .pair '<' '>' → ∀ i, ¬ IsOnEmptyPair '<' '>' (b.line p.line) p.col i) →
      ∀ s, selected false key = some s → ∃ t, selected true key = some t ∧ t.Covers s) ∧
    (kind = .pair '<' '>' → ∀ i, IsOnEmptyPair '<' '>' (b.line p.line) p.col i →
      selected true key = some (.ofColumns (operator.getD .visual) p.line i (i + 1)) ∧
        selected false key = selected false 't') ∧
    ((∀ mark, kind ≠ .quote mark) → ∀ t, selected true key = some t → t.Contains p) := by
  intro p selected
  have hp : b.InBounds p := b.inBounds_clamp start
  have hselected : ∀ around {key kind}, ObjectKind.ofKey? key = some kind →
      selected around key = b.selectObject (operator.getD .visual) ⟨around, kind⟩ p := by
    intro around key kind hkey
    have hkeys := Token.ofKeys_object operator around hkey []
    rw [List.append_nil, Token.ofKeys_nil] at hkeys
    simp only [selected, simulate, hkeys]
    rfl
  have htag : ObjectKind.ofKey? 't' = some .tag := rfl
  rw [hselected true hkey, hselected false hkey, hselected false htag]
  refine ⟨fun hangles s hs => selectObject_covers hp hangles hs, fun hkind i hi => ?_,
    fun hquote t ht => selectObject_contains hp hquote ht⟩
  subst hkind
  exact selectObject_empty_angles hp hi

/-- In a pair behind an empty one, and on the empty one, with the key of the closing bracket. -/
theorem Buffer.simulate_around_covers_inner_behind_an_empty_pair :
    let b := ofTexts ["<><b>c"]
    let p : Position := ⟨0, 3⟩
    let inner : Selection := ⟨.yank, p, p, false⟩
    ObjectKind.ofKey? '>' = some (.pair '<' '>') ∧ b.clamp p = p ∧
      (∀ i, ¬ IsOnEmptyPair '<' '>' (b.line p.line) p.col i) ∧
      (b.simulate p ['y', 'i', '>']).selection = some inner ∧
      (∃ t, (b.simulate p ['y', 'a', '>']).selection = some t ∧ t.Covers inner) ∧
      (b.simulate p ['y', 'a', '>']).selection = some ⟨.yank, ⟨0, 2⟩, ⟨0, 4⟩, false⟩ ∧
      Selection.Contains ⟨.yank, ⟨0, 2⟩, ⟨0, 4⟩, false⟩ p ∧
      IsOnEmptyPair '<' '>' (b.line 0) 1 0 ∧
      (b.simulate ⟨0, 1⟩ ['y', 'a', '>']).selection =
        some ⟨.yank, ⟨0, 0⟩, ⟨0, 1⟩, false⟩ := by
  intro b p inner
  have hkey : ObjectKind.ofKey? '>' = some (.pair '<' '>') := rfl
  have hp : b.clamp p = p := by decide +kernel
  have hangles : ∀ i, ¬ IsOnEmptyPair '<' '>' (b.line p.line) p.col i := by
    intro i h
    have hi : i = 2 ∨ i = 3 := by
      have hfirst : i ≤ 3 := h.first_le
      have hlast : 3 ≤ i + 1 := h.le_last
      omega
    rcases hi with rfl | rfl
    · exact absurd h.closes (by decide +kernel)
    · exact absurd h.opens (by decide +kernel)
  have hinner : (b.simulate p ['y', 'i', '>']).selection = some inner := by decide +kernel
  have houter : (b.simulate p ['y', 'a', '>']).selection =
      some ⟨.yank, ⟨0, 2⟩, ⟨0, 4⟩, false⟩ := by decide +kernel
  have hempty : IsOnEmptyPair '<' '>' (b.line 0) 1 0 :=
    ⟨by decide +kernel, by decide +kernel, by decide, by decide⟩
  obtain ⟨hcovers, -, hcontains⟩ := b.simulate_around_covers_inner p (some .yank) hkey
  obtain ⟨-, hpair, -⟩ := b.simulate_around_covers_inner ⟨0, 1⟩ (some .yank) hkey
  rw [hp] at hcovers hcontains
  exact ⟨hkey, hp, hangles, hinner, hcovers (fun _ => hangles) inner hinner, houter,
    hcontains nofun _ houter, hempty, (hpair rfl 0 hempty).1⟩

/-- On an empty pair of angle brackets in an element the outer object does not cover the inner
one. -/
theorem Buffer.simulate_around_empty_angles :
    let b := ofTexts ["<a>x<>y</a>"]
    let inner : Selection := ⟨.visual, ⟨0, 3⟩, ⟨0, 6⟩, false⟩
    let outer : Selection := ⟨.visual, ⟨0, 4⟩, ⟨0, 5⟩, false⟩
    (b.simulate ⟨0, 4⟩ ['v', 'i', '<']).selection = some inner ∧
      (b.simulate ⟨0, 4⟩ ['v', 'a', '<']).selection = some outer ∧ ¬ outer.Covers inner := by
  refine ⟨by decide +kernel, by decide +kernel, fun hcovers => ?_⟩
  exact absurd hcovers.first_le (by decide)

end MotionTutor
