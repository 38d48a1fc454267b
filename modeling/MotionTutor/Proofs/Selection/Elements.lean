import Mathlib.Data.List.Pairwise
import MotionTutor.Proofs.Checked.Tags

/-!
# The innermost element

What the tags of a line are (`IsTag`), how they match (`Matches`), and that the element of a column
is the innermost one around it (`tagObject_innermost`):

* the tags are read in at most as many rounds as the line has characters, whatever its brackets
  (`tagsInRounds_length`), and they are the named ones whose bracket no earlier bracket holds open
  (`mem_tagsOf_iff`);
* a matched element lies between the tags of a later one, or ends before it begins
  (`pairwise_elementsOf`): the tags that stay open when a closing tag has taken its own were opened
  before the one it took;
* so, of the elements around a column, the one that opens last lies inside all the others
  (`elementAt?_eq_some_iff`).
-/

namespace MotionTutor

variable {cells : List Char} {t : Tag} {tags opened : List Tag}

/-! ## 1. The tags of a line -/

/-- No opening bracket before column `i` is still open there. -/
def NoneOpen (cells : List Char) (i : Nat) : Prop :=
  ∀ k < i, cells[k]? = some '<' → ∃ j, k < j ∧ j < i ∧ cells[j]? = some '>'

/-- The text between the brackets of a tag gives it a name, and does not end in a slash, as that of
a tag that closes itself does. -/
structure Tag.IsNamed (inner : List Char) (t : Tag) : Prop where
  closing_iff : t.closing = true ↔ inner.head? = some '/'
  name_eq : t.name =
    (if t.closing then inner.drop 1 else inner).takeWhile fun c => !isBlank c && c != '/'
  name_ne_nil : t.name ≠ []
  not_selfClosing : inner.getLast? ≠ some '/'

/-- A named tag from an opening bracket, which is not itself inside a tag, to the next closing
one. -/
structure IsTag (cells : List Char) (t : Tag) : Prop where
  noneOpen : NoneOpen cells t.columns.first
  opens : cells[t.columns.first]? = some '<'
  first_lt : t.columns.first < t.columns.last
  closes : cells[t.columns.last]? = some '>'
  next : ∀ j, t.columns.first < j → j < t.columns.last → cells[j]? ≠ some '>'
  named : t.IsNamed ((cells.take t.columns.last).drop (t.columns.first + 1))

theorem Tag.ofInner?_eq_some_iff {inner : List Char} {columns : Columns} :
    Tag.ofInner? inner columns = some t ↔ t.columns = columns ∧ t.IsNamed inner := by
  obtain ⟨name, closing, at_⟩ := t
  have hclosing : (inner.head? == some '/') = closing ↔
      (closing = true ↔ inner.head? = some '/') := by
    cases closing <;> simp
  simp only [Tag.ofInner?, Option.ite_none_left_eq_some, not_or, Option.some.injEq, Tag.mk.injEq]
  constructor
  · rintro ⟨⟨hname, hself⟩, rfl, hc, rfl⟩
    exact ⟨rfl, hclosing.mp hc, by rw [← hc], hname, hself⟩
  · rintro ⟨rfl, hiff, hname, hne, hself⟩
    have hc := hclosing.mpr hiff
    simp only at hname hne
    rw [hc, ← hname]
    exact ⟨⟨hne, hself⟩, rfl, rfl, rfl⟩

/-- What is known when the tags are read from column `i` on: no bracket is open, or one is, with
the text behind it read so far. -/
def ReadsTags (cells : List Char) (i : Nat) : Option (Nat × List Char) → Prop
  | none => NoneOpen cells i
  | some (start, inner) => NoneOpen cells start ∧ cells[start]? = some '<' ∧ start < i ∧
      (∀ j, start < j → j < i → cells[j]? ≠ some '>') ∧
      inner.reverse = (cells.take i).drop (start + 1)

/-- The tag that the open bracket begins is the one that the next closing bracket ends. -/
theorem ReadsTags.ofInner?_eq_some_iff {start i : Nat} {inner : List Char}
    (h : ReadsTags cells i (some (start, inner))) (hi : cells[i]? = some '>') :
    Tag.ofInner? inner.reverse ⟨start, i⟩ = some t ↔
      IsTag cells t ∧ t.columns.first = start := by
  obtain ⟨hnone, hopens, hlt, hnext, hinner⟩ := h
  rw [Tag.ofInner?_eq_some_iff, hinner]
  constructor
  · rintro ⟨hcolumns, hnamed⟩
    have hfirst : t.columns.first = start := by rw [hcolumns]
    have hlast : t.columns.last = i := by rw [hcolumns]
    subst hfirst hlast
    exact ⟨⟨hnone, hopens, hlt, hi, hnext, hnamed⟩, rfl⟩
  · rintro ⟨htag, rfl⟩
    have hlast : t.columns.last = i := by
      refine Nat.le_antisymm (Nat.le_of_not_lt fun hafter => ?_)
        (Nat.le_of_not_lt fun hbefore => ?_)
      · exact htag.next i hlt hafter hi
      · exact hnext _ htag.first_lt hbefore htag.closes
    subst hlast
    exact ⟨rfl, htag.named⟩

/-- No other tag begins inside the one that the open bracket begins. -/
theorem ReadsTags.first_cases {start i : Nat} {inner : List Char}
    (h : ReadsTags cells i (some (start, inner))) (hi : cells[i]? = some '>')
    (htag : IsTag cells t) (hle : start ≤ t.columns.first) :
    t.columns.first = start ∨ i + 1 ≤ t.columns.first := by
  obtain ⟨-, hopens, -, hnext, -⟩ := h
  refine Classical.byContradiction fun hn => ?_
  have hne : t.columns.first ≠ i := by
    intro he
    have hopens' := htag.opens
    rw [he, hi] at hopens'
    cases hopens'
  obtain ⟨j, hj, hji, hcloses⟩ := htag.noneOpen start (by omega) hopens
  exact hnext j hj (by omega) hcloses

/-! What one more character changes. -/

section Step

variable {i start : Nat} {c : Char} {inner : List Char}

theorem ReadsTags.opens (h : ReadsTags cells i none) (hi : cells[i]? = some '<') :
    ReadsTags cells (i + 1) (some (i, [])) :=
  ⟨h, hi, Nat.lt_succ_self i, fun j hj hji => by omega, by simp⟩

theorem ReadsTags.passes (h : ReadsTags cells i none) (hi : cells[i]? ≠ some '<') :
    ReadsTags cells (i + 1) none := by
  intro k hk hopens
  have hne : k ≠ i := fun he => hi (he ▸ hopens)
  obtain ⟨j, hj, hji, hcloses⟩ := h k (by omega) hopens
  exact ⟨j, hj, Nat.lt_succ_of_lt hji, hcloses⟩

/-- Behind a closing bracket no bracket is open. -/
theorem readsTags_none_of_closes (hi : cells[i]? = some '>') : ReadsTags cells (i + 1) none := by
  intro k hk hopens
  have hne : k ≠ i := by
    rintro rfl
    rw [hi] at hopens
    cases hopens
  exact ⟨i, by omega, Nat.lt_succ_self i, hi⟩

theorem ReadsTags.reads (h : ReadsTags cells i (some (start, inner))) (hi : cells[i]? = some c)
    (hc : c ≠ '>') : ReadsTags cells (i + 1) (some (start, c :: inner)) := by
  obtain ⟨hnone, hopens, hlt, hnext, hinner⟩ := h
  obtain ⟨hlen, hget⟩ := List.getElem?_eq_some_iff.mp hi
  refine ⟨hnone, hopens, Nat.lt_succ_of_lt hlt, fun j hj hji hcloses => ?_, ?_⟩
  · have hne : j ≠ i := by
      rintro rfl
      exact hc (Option.some.inj (hi.symm.trans hcloses))
    exact hnext j hj (by omega) hcloses
  · have htake : start + 1 ≤ (cells.take i).length := by
      rw [List.length_take_of_le (Nat.le_of_lt hlen)]
      exact hlt
    rw [List.reverse_cons, hinner, List.take_succ_eq_append_getElem hlen,
      List.drop_append_of_le_length htake, hget]

/-- Behind the last character no tag begins, and a bracket that is open begins none. -/
theorem ReadsTags.not_isTag {inside : Option (Nat × List Char)} (h : ReadsTags cells i inside)
    (hi : cells.length ≤ i) (htag : IsTag cells t) :
    ¬ (inside.map Prod.fst).getD i ≤ t.columns.first := by
  intro hle
  have hlast := htag.first_lt
  obtain ⟨hlt, -⟩ := List.getElem?_eq_some_iff.mp htag.closes
  cases inside with
  | none =>
    simp only [Option.map_none, Option.getD_none] at hle
    omega
  | some reading => exact h.2.2.2.1 _ (Nat.lt_of_le_of_lt hle hlast) (by omega) htag.closes

end Step

/-- **Reading from a column on gives the tags that begin there or later**, with the one that is
being read. -/
theorem mem_tagsFrom_iff {inside : Option (Nat × List Char)} {i : Nat} {rest : List Char}
    (hreads : ReadsTags cells i inside) (hrest : cells.drop i = rest) :
    t ∈ tagsFrom inside i rest ↔
      IsTag cells t ∧ (inside.map Prod.fst).getD i ≤ t.columns.first := by
  induction rest generalizing inside i with
  | nil =>
    simp only [tagsFrom, List.not_mem_nil, false_iff, not_and]
    exact hreads.not_isTag (List.drop_eq_nil_iff.mp hrest)
  | cons c rest ih =>
    have hget : cells[i]? = some c := by
      rw [← List.head?_drop, hrest]
      rfl
    have hbehind : cells.drop (i + 1) = rest := by
      rw [← List.tail_drop, hrest]
      rfl
    cases inside with
    | none =>
      rw [tagsFrom]
      split
      · rename_i hopens
        exact ih (hreads.opens (hopens ▸ hget)) hbehind
      · rename_i hopens
        have hi : cells[i]? ≠ some '<' := fun he => hopens (Option.some.inj (hget.symm.trans he))
        rw [ih (hreads.passes hi) hbehind]
        refine and_congr_right fun htag => ?_
        have hne : t.columns.first ≠ i := fun he => hi (he ▸ htag.opens)
        simp only [Option.map_none, Option.getD_none]
        omega
    | some reading =>
      obtain ⟨start, inner⟩ := reading
      rw [tagsFrom]
      split
      · rename_i hcloses
        subst hcloses
        have hstart := hreads.2.2.1
        rw [List.mem_append, Option.mem_toList, hreads.ofInner?_eq_some_iff hget,
          ih (readsTags_none_of_closes hget) hbehind]
        simp only [Option.map_none, Option.getD_none, Option.map_some, Option.getD_some]
        rw [← and_or_left]
        refine and_congr_right fun htag => ⟨?_, hreads.first_cases hget htag⟩
        rintro (hfirst | hfirst)
        · exact Nat.le_of_eq hfirst.symm
        · omega
      · rename_i hcloses
        exact ih (hreads.reads hget hcloses) hbehind

theorem mem_tagsOf_iff : t ∈ tagsOf cells ↔ IsTag cells t := by
  have hnone : ReadsTags cells 0 none := fun k hk => absurd hk (Nat.not_lt_zero k)
  rw [tagsOf, mem_tagsFrom_iff hnone List.drop_zero]
  exact and_iff_left (Nat.zero_le _)

/-- The tags lie one behind the other. -/
theorem TagsWithin.pairwise {lo hi : Nat} (h : TagsWithin lo hi tags) :
    (∀ t ∈ tags, lo ≤ t.columns.first) ∧
      tags.Pairwise fun s t => s.columns.last < t.columns.first := by
  induction tags generalizing lo with
  | nil => exact ⟨nofun, .nil⟩
  | cons s tags ih =>
    obtain ⟨hlo, hlt, -, hrest⟩ := h
    obtain ⟨hbehind, hpair⟩ := ih hrest
    refine ⟨fun t ht => ?_, .cons (fun t ht => hbehind t ht) hpair⟩
    rcases List.mem_cons.mp ht with rfl | ht
    · exact hlo
    · have := hbehind t ht
      omega

theorem tagsWithin_tagsOf (cells : List Char) : TagsWithin 0 cells.length (tagsOf cells) := by
  have htags := tagsWithin_tagsFrom none 0 cells nofun
  rwa [Nat.zero_add] at htags

/-! ## 2. Reading ends -/

/-- The tags from column `i` on, read in rounds, each of which goes on behind one character or
behind one pair of brackets; `none` if they are not at the end of the line after `rounds` rounds. -/
def tagsInRounds (cells : List Char) : Nat → Nat → Option (List Tag)
  | 0, i => if i < cells.length then none else some []
  | rounds + 1, i =>
    match cells[i]? with
    | none => some []
    | some c =>
      if c = '<' then
        match (cells.drop (i + 1)).findIdx? (· == '>') with
        | none => some []
        | some k =>
          (tagsInRounds cells rounds (i + 1 + k + 1)).map fun tags =>
            (Tag.ofInner? ((cells.drop (i + 1)).take k) ⟨i, i + 1 + k⟩).toList ++ tags
      else tagsInRounds cells rounds (i + 1)

theorem tagsInRounds_eq {rounds i : Nat} (h : cells.length ≤ i + rounds) :
    tagsInRounds cells rounds i = some (tagsFrom none i (cells.drop i)) := by
  induction rounds generalizing i with
  | zero =>
    rw [tagsInRounds, if_neg (by omega), List.drop_eq_nil_of_le (by omega)]
    rfl
  | succ rounds ih =>
    rw [tagsInRounds]
    by_cases hi : i < cells.length
    · rw [List.getElem?_eq_getElem hi, List.drop_eq_getElem_cons hi, tagsFrom]
      simp only
      split
      · rw [Checked.tagsFrom_inside]
        cases (cells.drop (i + 1)).findIdx? (· == '>') with
        | none => rfl
        | some k =>
          dsimp only
          rw [ih (show cells.length ≤ i + 1 + k + 1 + rounds by omega)]
          simp only [Option.map_some, List.drop_drop, List.reverse_nil, List.nil_append,
            Nat.add_assoc]
      · exact ih (by omega)
    · rw [List.getElem?_eq_none (Nat.le_of_not_lt hi),
        List.drop_eq_nil_of_le (Nat.le_of_not_lt hi)]
      rfl

/-- **Reading the tags of a line ends** after as many rounds as the line has characters. -/
theorem tagsInRounds_length (cells : List Char) :
    tagsInRounds cells cells.length 0 = some (tagsOf cells) :=
  tagsInRounds_eq (Nat.le_add_left _ _)

/-! ## 3. Matching -/

/-- How the tags match from left to right, with the open tags so far, the nearest first, and the
elements to come: an opening tag is open from then on; a closing tag takes the nearest open tag of
its name and discards the ones opened after that, or else there is none and it is passed. -/
inductive Matches : List Tag → List Tag → List Element → Prop
  | nil {opened : List Tag} : Matches opened [] []
  | opening {opened tags : List Tag} {es : List Element} {t : Tag} (ht : t.closing = false)
      (h : Matches (t :: opened) tags es) : Matches opened (t :: tags) es
  | closing {after opened tags : List Tag} {es : List Element} {start t : Tag}
      (ht : t.closing = true) (hname : start.name = t.name)
      (hafter : ∀ u ∈ after, u.name ≠ t.name) (h : Matches opened tags es) :
      Matches (after ++ start :: opened) (t :: tags) (⟨start.columns, t.columns⟩ :: es)
  | stray {opened tags : List Tag} {es : List Element} {t : Tag} (ht : t.closing = true)
      (hopened : ∀ u ∈ opened, u.name ≠ t.name) (h : Matches opened tags es) :
      Matches opened (t :: tags) es

theorem takeOpen_eq_some_iff {name : List Char} {start : Tag} {left : List Tag} :
    takeOpen name opened = some (start, left) ↔
      ∃ after, opened = after ++ start :: left ∧ start.name = name ∧
        ∀ u ∈ after, u.name ≠ name := by
  induction opened with
  | nil => simp [takeOpen]
  | cons u opened ih =>
    rw [takeOpen]
    split
    · rename_i hname
      constructor
      · intro h
        cases h
        exact ⟨[], rfl, hname, List.forall_mem_nil _⟩
      · rintro ⟨after, hopened, hstart, hafter⟩
        cases after with
        | nil =>
          cases hopened
          rfl
        | cons v after =>
          cases hopened
          exact absurd hname (hafter _ List.mem_cons_self)
    · rename_i hname
      rw [ih]
      constructor
      · rintro ⟨after, rfl, hstart, hafter⟩
        refine ⟨u :: after, rfl, hstart, fun v hv => ?_⟩
        rcases List.mem_cons.mp hv with rfl | hv
        · exact hname
        · exact hafter v hv
      · rintro ⟨after, hopened, hstart, hafter⟩
        cases after with
        | nil =>
          cases hopened
          exact absurd hstart hname
        | cons v after =>
          cases hopened
          exact ⟨after, rfl, hstart, fun v hv => hafter v (List.mem_cons_of_mem _ hv)⟩

theorem takeOpen_eq_none_iff {name : List Char} :
    takeOpen name opened = none ↔ ∀ u ∈ opened, u.name ≠ name := by
  induction opened with
  | nil => simp [takeOpen]
  | cons u opened ih =>
    rw [takeOpen, List.forall_mem_cons]
    split
    · rename_i hname
      exact iff_of_false (Option.some_ne_none _) fun h => h.1 hname
    · rename_i hname
      rw [ih]
      exact (and_iff_right hname).symm

/-- **The tags match in one way only**, and `matchTags` finds it. -/
theorem matches_iff {es : List Element} : Matches opened tags es ↔ es = matchTags opened tags := by
  constructor
  · intro h
    induction h with
    | nil => rw [matchTags]
    | opening ht _ ih => rw [matchTags, if_neg (by rw [ht]; decide), ih]
    | closing ht hname hafter _ ih =>
      rw [matchTags, if_pos ht, takeOpen_eq_some_iff.mpr ⟨_, rfl, hname, hafter⟩, ih]
    | stray ht hopened _ ih => rw [matchTags, if_pos ht, takeOpen_eq_none_iff.mpr hopened, ih]
  · rintro rfl
    induction tags generalizing opened with
    | nil =>
      rw [matchTags]
      exact .nil
    | cons t tags ih =>
      rw [matchTags]
      split
      · rename_i ht
        split
        · rename_i hnone
          exact .stray ht (takeOpen_eq_none_iff.mp hnone) ih
        · rename_i start left hsome
          obtain ⟨after, rfl, hname, hafter⟩ := takeOpen_eq_some_iff.mp hsome
          exact .closing ht hname hafter ih
      · rename_i ht
        exact .opening (Bool.eq_false_iff.mpr ht) ih

/-! ## 4. Nested or disjoint -/

namespace Element

/-- The element lies between the tags of another one. -/
def Inside (e f : Element) : Prop :=
  f.opening.last < e.opening.first ∧ e.closing.last < f.closing.first

/-- The element ends before another one begins. -/
def Before (e f : Element) : Prop := e.closing.last < f.opening.first

/-- The column is on the element, its tags included. -/
def Around (e : Element) (col : Nat) : Prop := e.opening.first ≤ col ∧ col ≤ e.closing.last

end Element

/-- An element that is still to come closes at one of the tags to come, and opens there too or at a
tag that is open. -/
theorem opening_of_mem_matchTags {lo size : Nat} (htags : TagsWithin lo size tags) {e : Element}
    (he : e ∈ matchTags opened tags) : lo ≤ e.closing.first ∧
      ((∃ u ∈ opened, u.columns = e.opening) ∨ lo ≤ e.opening.first) := by
  induction tags generalizing lo opened with
  | nil =>
    rw [matchTags] at he
    cases he
  | cons t tags ih =>
    obtain ⟨hlo, hlt, -, hrest⟩ := htags
    rw [matchTags] at he
    split at he
    · split at he
      · obtain ⟨hclosing, hopening⟩ := ih hrest he
        exact ⟨by omega, hopening.imp id (by omega)⟩
      · rename_i start left htake
        obtain ⟨hstart, hleft⟩ := takeOpen_mem htake
        rcases List.mem_cons.mp he with rfl | he
        · exact ⟨hlo, .inl ⟨start, hstart, rfl⟩⟩
        · obtain ⟨hclosing, hopening⟩ := ih hrest he
          refine ⟨by omega, ?_⟩
          rcases hopening with ⟨u, hu, hcolumns⟩ | hopening
          · exact .inl ⟨u, hleft u hu, hcolumns⟩
          · exact .inr (by omega)
    · obtain ⟨hclosing, hopening⟩ := ih hrest he
      refine ⟨by omega, ?_⟩
      rcases hopening with ⟨u, hu, hcolumns⟩ | hopening
      · rcases List.mem_cons.mp hu with rfl | hu
        · exact .inr (hcolumns ▸ hlo)
        · exact .inl ⟨u, hu, hcolumns⟩
      · exact .inr (by omega)

/-- **An element that closes later lies around the earlier one or behind it**, if the open tags are
in the order of the line, the nearest first. -/
theorem pairwise_matchTags {lo size : Nat} (htags : TagsWithin lo size tags)
    (hopened : opened.Pairwise fun u v => v.columns.last < u.columns.first)
    (hlast : ∀ u ∈ opened, u.columns.last < lo) :
    (matchTags opened tags).Pairwise fun e f => e.Inside f ∨ e.Before f := by
  induction tags generalizing lo opened with
  | nil =>
    rw [matchTags]
    exact .nil
  | cons t tags ih =>
    obtain ⟨hlo, hlt, -, hrest⟩ := htags
    have hbefore : ∀ u ∈ opened, u.columns.last < t.columns.last + 1 := by
      intro u hu
      have := hlast u hu
      omega
    rw [matchTags]
    split
    · split
      · exact ih hrest hopened hbefore
      · rename_i start left htake
        obtain ⟨after, rfl, -, -⟩ := takeOpen_eq_some_iff.mp htake
        obtain ⟨hstart, hleft⟩ := List.pairwise_cons.mp (List.pairwise_append.mp hopened).2.1
        refine .cons (fun f hf => ?_) (ih hrest hleft fun u hu => hbefore u (by simp [hu]))
        obtain ⟨hclosing, ⟨u, hu, hcolumns⟩ | hopening⟩ := opening_of_mem_matchTags hrest hf
        · -- what stays open was opened before the tag that is taken
          have := hstart u hu
          exact .inl ⟨hcolumns ▸ this, hclosing⟩
        · exact .inr hopening
    · refine ih hrest (.cons (fun u hu => ?_) hopened) fun u hu => ?_
      · have := hlast u hu
        omega
      · rcases List.mem_cons.mp hu with rfl | hu
        · exact Nat.lt_succ_self _
        · exact hbefore u hu

theorem pairwise_elementsOf (cells : List Char) :
    (elementsOf cells).Pairwise fun e f => e.Inside f ∨ e.Before f :=
  pairwise_matchTags (tagsWithin_tagsOf cells) .nil nofun

variable {e f : Element} {col : Nat}

/-- **Two matched elements are nested or disjoint.** -/
theorem nested_or_disjoint (he : e ∈ elementsOf cells) (hf : f ∈ elementsOf cells) (hne : e ≠ f) :
    e.Inside f ∨ f.Inside e ∨ e.Before f ∨ f.Before e := by
  have hsymm : Std.Symm fun e f : Element =>
      e.Inside f ∨ f.Inside e ∨ e.Before f ∨ f.Before e := by
    refine ⟨fun e f h => ?_⟩
    rcases h with h | h | h | h
    · exact .inr (.inl h)
    · exact .inl h
    · exact .inr (.inr (.inr h))
    · exact .inr (.inr (.inl h))
  have hpair := (pairwise_elementsOf cells).imp (S := fun e f =>
    e.Inside f ∨ f.Inside e ∨ e.Before f ∨ f.Before e) fun h =>
      h.elim .inl fun hb => .inr (.inr (.inl hb))
  exact hpair.forall he hf hne

/-! ## 5. The innermost element -/

/-- The matched element around a column that lies inside all the others around it. -/
structure IsInnermostElement (cells : List Char) (col : Nat) (e : Element) : Prop where
  mem : e ∈ elementsOf cells
  around : e.Around col
  inside : ∀ f ∈ elementsOf cells, f.Around col → f ≠ e → e.Inside f

theorem Element.contains_iff : e.contains col = true ↔ e.Around col := by
  rw [Element.contains, Bool.and_eq_true, decide_eq_true_eq, decide_eq_true_eq, Element.Around]

theorem foldl_inner_eq_none_iff {best : Option Element} {es : List Element} :
    es.foldl Element.inner best = none ↔ best = none ∧ es = [] := by
  induction es generalizing best with
  | nil => exact (and_iff_left rfl).symm
  | cons f es ih =>
    rw [List.foldl_cons, ih]
    refine iff_of_false (fun h => ?_) nofun
    cases best with
    | none => cases h.1
    | some g =>
      have hinner := h.1
      rw [Element.inner] at hinner
      split at hinner <;> cases hinner

/-- No element opens behind the one that is chosen. -/
theorem opening_le_of_foldl_inner {best : Option Element} {es : List Element}
    (h : es.foldl Element.inner best = some e) :
    ∀ f, best = some f ∨ f ∈ es → f.opening.first ≤ e.opening.first := by
  induction es generalizing best with
  | nil =>
    rintro f (hbest | hf)
    · rw [List.foldl_nil, hbest] at h
      cases h
      exact Nat.le_refl _
    · cases hf
  | cons g es ih =>
    have hrest := ih h
    rintro f (hbest | hf)
    · subst hbest
      rw [Element.inner] at hrest
      split at hrest
      · have := hrest g (.inl rfl)
        omega
      · exact hrest f (.inl rfl)
    · rcases List.mem_cons.mp hf with rfl | hf
      · cases best with
        | none => exact hrest f (.inl rfl)
        | some b =>
          rw [Element.inner] at hrest
          split at hrest
          · exact hrest f (.inl rfl)
          · have := hrest b (.inl rfl)
            omega
      · exact hrest f (.inr hf)

theorem isInnermostElement_of_elementAt? (h : elementAt? cells col = some e) :
    IsInnermostElement cells col e := by
  have hmem := (foldl_inner_mem h).resolve_left nofun
  obtain ⟨hmem, haround⟩ := List.mem_filter.mp hmem
  rw [Element.contains_iff] at haround
  refine ⟨hmem, haround, fun f hf hfcol hne => ?_⟩
  have hle := opening_le_of_foldl_inner h f
    (.inr (List.mem_filter.mpr ⟨hf, Element.contains_iff.mpr hfcol⟩))
  have hopening := (within_of_mem_elementsOf hmem).opening_lt
  rcases nested_or_disjoint hmem hf hne.symm with hin | hin | hbefore | hbefore
  · exact hin
  · -- an element inside this one would open behind it
    have := hin.1
    omega
  · have := haround.2
    have := hfcol.1
    rw [Element.Before] at hbefore
    omega
  · have := haround.1
    have := hfcol.2
    rw [Element.Before] at hbefore
    omega

theorem elementAt?_eq_none_iff :
    elementAt? cells col = none ↔ ∀ e ∈ elementsOf cells, ¬ e.Around col := by
  rw [elementAt?, foldl_inner_eq_none_iff, and_iff_right rfl, List.filter_eq_nil_iff]
  simp only [Element.contains_iff]

/-- **The element of a column is the innermost one around it.** -/
theorem elementAt?_eq_some_iff :
    elementAt? cells col = some e ↔ IsInnermostElement cells col e := by
  refine ⟨isInnermostElement_of_elementAt?, fun h => ?_⟩
  cases hfound : elementAt? cells col with
  | none => exact absurd h.around (elementAt?_eq_none_iff.mp hfound e h.mem)
  | some f =>
    have hf := isInnermostElement_of_elementAt? hfound
    refine congrArg some (Classical.byContradiction fun hne => ?_)
    have hin := (h.inside f hf.mem hf.around hne).1
    have hin' := (hf.inside e h.mem h.around (Ne.symm hne)).1
    have := (within_of_mem_elementsOf h.mem).opening_lt
    have := (within_of_mem_elementsOf hf.mem).opening_lt
    omega

/-- **A tag object is the innermost element around the column**, in any line. Reading the tags
ends, they are the named ones, and they match from left to right in one way; two matched elements
are nested or disjoint. With its tags the object is the innermost matched element around the column,
and there is none just if no element is; without them it is what lies strictly between the two tags,
if anything does. -/
theorem tagObject_innermost (cells : List Char) :
    tagsInRounds cells cells.length 0 = some (tagsOf cells) ∧
    ((tagsOf cells).Pairwise (fun s t => s.columns.last < t.columns.first) ∧
      ∀ t, t ∈ tagsOf cells ↔ IsTag cells t) ∧
    (∀ es, Matches [] (tagsOf cells) es ↔ es = elementsOf cells) ∧
    (∀ e ∈ elementsOf cells, ∀ f ∈ elementsOf cells, e ≠ f →
      e.Inside f ∨ f.Inside e ∨ e.Before f ∨ f.Before e) ∧
    ∀ col,
      (∀ c, tagObject true cells col = some c ↔
        ∃ e, IsInnermostElement cells col e ∧ c = ⟨e.opening.first, e.closing.last⟩) ∧
      (tagObject true cells col = none ↔ ∀ e ∈ elementsOf cells, ¬ e.Around col) ∧
      (∀ c, tagObject false cells col = some c ↔
        ∃ e, IsInnermostElement cells col e ∧ c.IsBetween e.opening.last e.closing.first) ∧
      (tagObject false cells col = none ↔
        ∀ e, IsInnermostElement cells col e → e.closing.first = e.opening.last + 1) := by
  refine ⟨tagsInRounds_length cells, ⟨(tagsWithin_tagsOf cells).pairwise.2, fun t =>
    mem_tagsOf_iff⟩, fun es => matches_iff, fun e he f hf => nested_or_disjoint he hf,
    fun col => ⟨fun c => ?_, ?_, fun c => ?_, ?_⟩⟩
  · simp only [tagObject, Option.bind_eq_some_iff, elementAt?_eq_some_iff, if_true,
      Option.some.injEq]
    exact exists_congr fun e => and_congr_right fun _ => eq_comm
  · simp only [tagObject, Option.bind_eq_none_iff, if_true, reduceCtorEq, imp_false]
    rw [← elementAt?_eq_none_iff, Option.eq_none_iff_forall_ne_some]
  · simp only [tagObject, Option.bind_eq_some_iff, elementAt?_eq_some_iff, Bool.false_eq_true,
      if_false, Columns.between?_eq_some_iff]
  · simp only [tagObject, Option.bind_eq_none_iff, elementAt?_eq_some_iff, Bool.false_eq_true,
      if_false, Columns.between?_eq_none_iff]
    refine forall₂_congr fun e he => ?_
    have := (within_of_mem_elementsOf he.mem).between
    omega

/-- Two elements with a tag that nothing closes in the inner one, and a bracket that nothing closes
behind them. -/
theorem tagObject_innermost_unclosed :
    let cells := ['<', 'a', '>', '<', 'b', '>', '<', 'u', '>', 't', '<', '/', 'b', '>', 'x',
      '<', '/', 'a', '>', '<']
    let outer : Element := ⟨⟨0, 2⟩, ⟨15, 18⟩⟩
    let inner : Element := ⟨⟨3, 5⟩, ⟨10, 13⟩⟩
    inner ∈ elementsOf cells ∧ outer ∈ elementsOf cells ∧ inner ≠ outer ∧
      (inner.Inside outer ∨ outer.Inside inner ∨ inner.Before outer ∨ outer.Before inner) := by
  intro cells outer inner
  have hinner : inner ∈ elementsOf cells := by decide
  have houter : outer ∈ elementsOf cells := by decide
  have hne : inner ≠ outer := by decide
  exact ⟨hinner, houter, hne, (tagObject_innermost cells).2.2.2.1 inner hinner outer houter hne⟩

end MotionTutor
