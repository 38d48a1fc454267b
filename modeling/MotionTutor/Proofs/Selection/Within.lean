import MotionTutor.Selection.Object
import MotionTutor.Proofs.Text.Run

/-!
# Objects stay on their line

Every object that is chosen on a line of cells is a range of its columns (`Columns.Within`), for
whatever column the object is looked up at. What each kind needs:

* words and sentences grow from the column by runs, which stay on the line;
* the columns of the quotes increase, so the two quotes of a pair are in order;
* the closing bracket is looked for from the opening one on;
* the tags of a line follow each other, and a closing tag only takes a tag opened before it.
-/

namespace MotionTutor

/-- The columns are in order and on a line of `size` cells. -/
structure Columns.Within (size : Nat) (c : Columns) : Prop where
  first_le : c.first ≤ c.last
  last_lt : c.last < size

variable {cells : List Char} {col : Nat}

/-! ## 1. Words and sentences -/

theorem within_innerWord (classOf : Char → CharClass) (h : col < cells.length) :
    (innerWord classOf cells col).Within cells.length := by
  have hrun := add_runFrom_le (fun c => decide (classOf c = classAt classOf cells col))
    (show col + 1 ≤ cells.length from h)
  constructor
  · simp only [innerWord]; omega
  · simp only [innerWord]; omega

/-- The blanks beside a region on the line, and the region with them. -/
theorem Columns.Within.extend {c : Columns} (h : c.Within cells.length) (test : Char → Bool) :
    Columns.Within cells.length ⟨c.first, c.last + runFrom test cells (c.last + 1)⟩ := by
  have hrun := add_runFrom_le test (show c.last + 1 ≤ cells.length from h.last_lt)
  have hfirst := h.first_le
  constructor
  · simp only; omega
  · simp only; omega

theorem within_aroundWord (classOf : Char → CharClass) (h : col < cells.length) :
    (aroundWord classOf cells col).Within cells.length := by
  have hinner := within_innerWord classOf h
  simp only [aroundWord]
  split
  · split
    · exact hinner
    · exact hinner.extend _
  · split
    · exact hinner.extend _
    · have hbefore := runBefore_le isBlank cells (innerWord classOf cells col).first
      have hfirst := hinner.first_le
      exact ⟨by simp only; omega, hinner.last_lt⟩

theorem within_wordObject (size : WordSize) (around : Bool) (h : col < cells.length) :
    (wordObject size around cells col).Within cells.length := by
  rw [wordObject]
  split
  · exact within_aroundWord _ h
  · exact within_innerWord _ h

theorem within_sentenceObject (around : Bool) (h : col < cells.length) :
    (sentenceObject around cells col).Within cells.length := by
  have hinner : Columns.Within cells.length (sentenceObject false cells col) := by
    constructor
    · simp only [sentenceObject, Bool.false_eq_true, if_false]; omega
    · simp only [sentenceObject, Bool.false_eq_true, if_false]; omega
  cases around with
  | false => exact hinner
  | true => exact hinner.extend isBlank

/-! ## 2. Delimited regions -/

/-- The columns strictly between the last one of an opening delimiter and the first one of a closing
delimiter, of which there is at least one. -/
structure Columns.IsBetween (afterFirst beforeLast : Nat) (c : Columns) : Prop where
  first_eq : c.first = afterFirst + 1
  last_eq : c.last + 1 = beforeLast
  first_le : c.first ≤ c.last

theorem Columns.between?_eq_some_iff {afterFirst beforeLast : Nat} {c : Columns} :
    Columns.between? afterFirst beforeLast = some c ↔ c.IsBetween afterFirst beforeLast := by
  rw [Columns.between?]
  constructor
  · intro h
    split at h
    · cases h
      exact ⟨rfl, by simp only; omega, by simp only; omega⟩
    · cases h
  · rintro ⟨hfirst, rfl, hle⟩
    obtain ⟨first, last⟩ := c
    simp only at hfirst hle ⊢
    rw [if_pos (by omega), hfirst, Nat.add_sub_cancel]

theorem Columns.between?_eq_none_iff {afterFirst beforeLast : Nat} :
    Columns.between? afterFirst beforeLast = none ↔ beforeLast ≤ afterFirst + 1 := by
  rw [Columns.between?, ite_eq_right_iff]
  simp only [reduceCtorEq, imp_false, Nat.not_lt]

/-- What lies between two delimiters lies before the closing one. -/
theorem Columns.within_of_between? {afterFirst beforeLast size : Nat} {c : Columns}
    (h : Columns.between? afterFirst beforeLast = some c) (hsize : beforeLast < size) :
    c.Within size := by
  rw [Columns.between?] at h
  split at h
  · cases h
    constructor
    · simp only; omega
    · simp only; omega
  · cases h

/-- A delimited object is a pair of columns in order, or what lies between them. -/
theorem Columns.Within.of_delimited {pair : Option Columns} {around : Bool} {size : Nat}
    {c : Columns} (hpair : ∀ p ∈ pair, p.Within size)
    (h : (pair.bind fun p => if around then some p else Columns.between? p.first p.last) = some c) :
    c.Within size := by
  obtain ⟨p, hp, hc⟩ := Option.bind_eq_some_iff.mp h
  split at hc
  · cases hc
    exact hpair _ hp
  · exact Columns.within_of_between? hc (hpair p hp).last_lt

/-! ## 3. Quotes -/

/-- The columns of a character are some of the columns of the line, in order. -/
theorem columnsOf_sublist (cells : List Char) (mark : Char) :
    (columnsOf cells mark).Sublist (List.range cells.length) := by
  have hsub := (List.filter_sublist (p := fun q : Char × Nat => q.1 == mark)
    (l := cells.zipIdx)).map Prod.snd
  rwa [List.zipIdx_map_snd, ← List.range_eq_range'] at hsub

theorem pairwise_columnsOf (cells : List Char) (mark : Char) :
    (columnsOf cells mark).Pairwise (· < ·) :=
  List.pairwise_lt_range.sublist (columnsOf_sublist cells mark)

theorem mem_columnsOf {mark : Char} {i : Nat} :
    i ∈ columnsOf cells mark ↔ cells[i]? = some mark := by
  simp only [columnsOf, List.mem_map, List.mem_filter, Prod.exists, beq_iff_eq]
  constructor
  · rintro ⟨c, k, ⟨hmem, rfl⟩, rfl⟩
    exact List.mk_mem_zipIdx_iff_getElem?.mp hmem
  · exact fun h => ⟨mark, i, ⟨List.mk_mem_zipIdx_iff_getElem?.mpr h, rfl⟩, rfl⟩

/-- Columns that increase pair up in order. -/
theorem within_of_mem_pairUp {quotes : List Nat} {size : Nat}
    (hsub : quotes.Sublist (List.range size)) : ∀ p ∈ pairUp quotes, p.Within size := by
  induction quotes using pairUp.induct with
  | case1 first last rest ih =>
    intro p hp
    rw [pairUp] at hp
    rcases List.mem_cons.mp hp with rfl | hp
    · have hlt := List.rel_of_pairwise_cons (List.pairwise_lt_range.sublist hsub) List.mem_cons_self
      have hlast := List.mem_range.mp (hsub.subset (List.mem_cons_of_mem first List.mem_cons_self))
      exact ⟨Nat.le_of_lt hlt, hlast⟩
    · have htail : rest.Sublist (first :: last :: rest) :=
        (List.sublist_cons_self last rest).trans (List.sublist_cons_self first _)
      exact ih (htail.trans hsub) p hp
  | case2 quotes hne =>
    intro p hp
    rw [pairUp] at hp
    · cases hp
    · exact hne

theorem within_quotePair? (mark : Char) (cells : List Char) (col : Nat) :
    ∀ p ∈ quotePair? mark cells col, p.Within cells.length := by
  intro p hp
  have hsub := columnsOf_sublist cells mark
  simp only [quotePair?] at hp
  split at hp
  · rename_i q hq
    cases hp
    exact within_of_mem_pairUp hsub _ (List.mem_of_find?_eq_some hq)
  · split at hp
    · rename_i first last rest hafter
      cases hp
      -- the two quotes after the column are the first pair of the quotes after it
      have hsub' := (List.filter_sublist (p := fun q => decide (col < q))).trans hsub
      rw [hafter] at hsub'
      exact within_of_mem_pairUp hsub' ⟨first, last⟩ List.mem_cons_self
    · cases hp

theorem within_quoteObject {mark : Char} {around : Bool} {c : Columns}
    (h : quoteObject mark around cells col = some c) : c.Within cells.length :=
  .of_delimited (within_quotePair? mark cells col) h

/-! ## 4. Brackets -/

theorem openingBefore_lt {opening closing : Char} {depth first : Nat} {before : List Char}
    (h : openingBefore opening closing depth before = some first) : first < before.length := by
  induction before generalizing depth with
  | nil => cases h
  | cons c before ih =>
    rw [openingBefore] at h
    rw [List.length_cons]
    split at h
    · have := ih h; omega
    · split at h
      · split at h
        · cases h; omega
        · have := ih h; omega
      · have := ih h; omega

/-- What is found on the way left is an opening bracket. -/
theorem getElem?_openingBefore {opening closing : Char} {depth first : Nat} {before : List Char}
    (h : openingBefore opening closing depth before = some first) :
    before.reverse[first]? = some opening := by
  induction before generalizing depth with
  | nil => cases h
  | cons c before ih =>
    have hstep : ∀ {depth}, openingBefore opening closing depth before = some first →
        (c :: before).reverse[first]? = some opening := by
      intro depth h
      rw [List.reverse_cons, List.getElem?_append_left, ih h]
      rw [List.length_reverse]
      exact openingBefore_lt h
    rw [openingBefore] at h
    split at h
    · exact hstep h
    · split at h
      · rename_i hopening
        split at h
        · cases h
          rw [List.reverse_cons, ← List.length_reverse, List.getElem?_concat_length, hopening]
        · exact hstep h
      · exact hstep h

theorem closingFrom_bounds {opening closing : Char} {depth i last : Nat} {after : List Char}
    (h : closingFrom opening closing depth i after = some last) :
    i ≤ last ∧ last < i + after.length := by
  induction after generalizing depth i with
  | nil => cases h
  | cons c after ih =>
    rw [closingFrom] at h
    rw [List.length_cons]
    split at h
    · have := ih h; omega
    · split at h
      · split at h
        · cases h; omega
        · have := ih h; omega
      · have := ih h; omega

theorem openingBracket?_le {opening closing : Char} {first : Nat}
    (h : openingBracket? opening closing cells col = some first) : first ≤ col := by
  rw [openingBracket?] at h
  split at h
  · cases h; exact Nat.le_refl _
  · have hlt := openingBefore_lt h
    rw [List.length_reverse, List.length_take] at hlt
    omega

theorem getElem?_openingBracket? {opening closing : Char} {first : Nat}
    (h : openingBracket? opening closing cells col = some first) : cells[first]? = some opening := by
  rw [openingBracket?] at h
  split at h
  · rename_i hcol
    cases h
    exact hcol
  · have hlt := openingBefore_lt h
    have hget := getElem?_openingBefore h
    rw [List.length_reverse, List.length_take] at hlt
    rwa [List.reverse_reverse, List.getElem?_take_of_lt (by omega)] at hget

theorem within_bracketPair? (opening closing : Char) (hcol : col < cells.length) :
    ∀ p ∈ bracketPair? opening closing cells col, p.Within cells.length := by
  intro p hp
  rw [bracketPair?] at hp
  split at hp
  · cases hp
  · rename_i first hfirst
    split at hp
    · cases hp
    · rename_i last hlast
      split at hp
      · cases hp
      · cases hp
        have hle := openingBracket?_le hfirst
        have hbounds := closingFrom_bounds hlast
        rw [List.length_drop] at hbounds
        constructor
        · exact hbounds.1
        · simp only; omega

theorem within_bracketObject {opening closing : Char} {around : Bool} {c : Columns}
    (hcol : col < cells.length) (h : bracketObject opening closing around cells col = some c) :
    c.Within cells.length :=
  .of_delimited (within_bracketPair? opening closing hcol) h

/-! ## 5. Tags -/

/-- The tags lie one behind the other between the columns `lo` and `hi`. -/
def TagsWithin (lo hi : Nat) : List Tag → Prop
  | [] => True
  | t :: tags =>
    lo ≤ t.columns.first ∧ t.columns.first < t.columns.last ∧ t.columns.last < hi ∧
      TagsWithin (t.columns.last + 1) hi tags

theorem TagsWithin.of_le {lo lo' hi : Nat} {tags : List Tag} (h : TagsWithin lo' hi tags)
    (hle : lo ≤ lo') : TagsWithin lo hi tags := by
  cases tags with
  | nil => exact h
  | cons t tags => exact ⟨Nat.le_trans hle h.1, h.2⟩

theorem Tag.columns_ofInner? {inner : List Char} {columns : Columns} {t : Tag}
    (h : Tag.ofInner? inner columns = some t) : t.columns = columns := by
  simp only [Tag.ofInner?, Option.ite_none_left_eq_some] at h
  obtain ⟨-, ht⟩ := h
  cases ht
  rfl

/-- The tags that are read lie behind the bracket that is open, or else from the column at hand
on. -/
theorem tagsWithin_tagsFrom (inside : Option (Nat × List Char)) (i : Nat) (rest : List Char)
    (hinside : ∀ start ∈ inside.map Prod.fst, start < i) :
    TagsWithin ((inside.map Prod.fst).getD i) (i + rest.length) (tagsFrom inside i rest) := by
  induction rest generalizing inside i with
  | nil => trivial
  | cons c rest ih =>
    have hlen : i + (c :: rest).length = i + 1 + rest.length := by rw [List.length_cons]; omega
    rw [hlen]
    cases inside with
    | none =>
      rw [tagsFrom]
      split
      · exact ih (some (i, [])) (i + 1) (by rintro _ ⟨⟩; exact Nat.lt_succ_self i)
      · exact (ih none (i + 1) nofun).of_le (Nat.le_succ i)
    | some open_ =>
      obtain ⟨start, inner⟩ := open_
      have hstart : start < i := hinside start rfl
      rw [tagsFrom]
      split
      · have hrest := ih none (i + 1) nofun
        cases ht : Tag.ofInner? inner.reverse ⟨start, i⟩ with
        | none => exact hrest.of_le (show start ≤ i + 1 by omega)
        | some t =>
          have hcols := Tag.columns_ofInner? ht
          refine ⟨?_, ?_, ?_, ?_⟩
          · rw [hcols]; exact Nat.le_refl _
          · rw [hcols]; exact hstart
          · rw [hcols]; simp only; omega
          · rw [hcols]; exact hrest
      · exact ih (some (start, c :: inner)) (i + 1)
          (by rintro _ ⟨⟩; exact Nat.lt_succ_of_lt hstart)

/-- The two tags of an element lie on the line, one behind the other. -/
structure Element.Within (size : Nat) (e : Element) : Prop where
  opening_lt : e.opening.first < e.opening.last
  between : e.opening.last < e.closing.first
  closing_lt : e.closing.first < e.closing.last
  last_lt : e.closing.last < size

theorem takeOpen_mem {name : List Char} {opened left : List Tag} {t : Tag}
    (h : takeOpen name opened = some (t, left)) : t ∈ opened ∧ ∀ u ∈ left, u ∈ opened := by
  induction opened with
  | nil => cases h
  | cons u opened ih =>
    rw [takeOpen] at h
    split at h
    · cases h
      exact ⟨List.mem_cons_self, fun v hv => List.mem_cons_of_mem _ hv⟩
    · obtain ⟨ht, hleft⟩ := ih h
      exact ⟨List.mem_cons_of_mem _ ht, fun v hv => List.mem_cons_of_mem _ (hleft v hv)⟩

/-- A closing tag closes a tag that was opened before it. -/
theorem within_of_mem_matchTags {lo size : Nat} {opened tags : List Tag}
    (hopened : ∀ t ∈ opened, t.columns.first < t.columns.last ∧ t.columns.last < lo)
    (htags : TagsWithin lo size tags) : ∀ e ∈ matchTags opened tags, e.Within size := by
  induction tags generalizing lo opened with
  | nil =>
    intro e he
    cases opened <;> cases he
  | cons t tags ih =>
    obtain ⟨hlo, hlt, hhi, hrest⟩ := htags
    -- the tags that stay open lie before the tag at hand, and so before the tags after it
    have hbefore : ∀ u ∈ opened,
        u.columns.first < u.columns.last ∧ u.columns.last < t.columns.last + 1 := by
      intro u hu
      have := hopened u hu
      omega
    intro e he
    rw [matchTags] at he
    split at he
    · split at he
      · exact ih hbefore hrest e he
      · rename_i start left htake
        obtain ⟨hstart, hleft⟩ := takeOpen_mem htake
        rcases List.mem_cons.mp he with rfl | he
        · have := hopened start hstart
          exact ⟨this.1, by simp only; omega, hlt, hhi⟩
        · exact ih (fun u hu => hbefore u (hleft u hu)) hrest e he
    · refine ih ?_ hrest e he
      intro u hu
      rcases List.mem_cons.mp hu with rfl | hu
      · exact ⟨hlt, Nat.lt_succ_self _⟩
      · exact hbefore u hu

theorem within_of_mem_elementsOf {e : Element} (h : e ∈ elementsOf cells) :
    e.Within cells.length := by
  have htags := tagsWithin_tagsFrom none 0 cells nofun
  rw [Nat.zero_add] at htags
  exact within_of_mem_matchTags (fun _ ht => absurd ht List.not_mem_nil) htags e h

/-- The innermost of some elements is one of them. -/
theorem foldl_inner_mem {best : Option Element} {es : List Element} {e : Element}
    (h : es.foldl Element.inner best = some e) : best = some e ∨ e ∈ es := by
  induction es generalizing best with
  | nil => exact Or.inl h
  | cons f es ih =>
    rcases ih h with hbest | hmem
    · cases best with
      | none =>
        cases hbest
        exact Or.inr List.mem_cons_self
      | some g =>
        rw [Element.inner] at hbest
        split at hbest
        · cases hbest
          exact Or.inr List.mem_cons_self
        · exact Or.inl hbest
    · exact Or.inr (List.mem_cons_of_mem f hmem)

theorem within_elementAt? {e : Element} (h : elementAt? cells col = some e) :
    e.Within cells.length := by
  rcases foldl_inner_mem h with hn | hmem
  · cases hn
  · exact within_of_mem_elementsOf (List.mem_filter.mp hmem).1

theorem within_tagObject {around : Bool} {c : Columns} (h : tagObject around cells col = some c) :
    c.Within cells.length := by
  obtain ⟨e, he, hc⟩ := Option.bind_eq_some_iff.mp h
  have hw := within_elementAt? he
  have h1 := hw.opening_lt
  have h2 := hw.between
  have h3 := hw.closing_lt
  have h4 := hw.last_lt
  split at hc
  · cases hc
    exact ⟨by simp only; omega, h4⟩
  · exact Columns.within_of_between? hc (by omega)

/-! ## 6. Any object -/

/-- **An object chosen on a line is a range of its columns.** -/
theorem ObjectKind.within_columns? {kind : ObjectKind} {around : Bool} {c : Columns}
    (hcol : col < cells.length) (h : kind.columns? around cells col = some c) :
    c.Within cells.length := by
  cases kind with
  | word size =>
    cases h
    exact within_wordObject size around hcol
  | sentence =>
    cases h
    exact within_sentenceObject around hcol
  | paragraph => cases h
  | tag => exact within_tagObject h
  | quote mark => exact within_quoteObject h
  | pair opening closing =>
    simp only [ObjectKind.columns?] at h
    split at h
    · rename_i columns hpair
      cases h
      exact within_bracketObject hcol hpair
    · split at h
      · exact within_tagObject h
      · cases h

end MotionTutor
