import MotionTutor.Proofs.Selection.Within

/-!
# The innermost pair of brackets

A text is balanced in a kind of bracket if every opening one is closed in it and every closing one
is opened in it (`Balanced`), and a pair of a line is an opening and a closing bracket with a
balanced text between them (`IsPair`). A bracket object is the pair around the column that opens
last, or what lies between its brackets (`bracketObject_innermost`).

* A search for a closing bracket runs over balanced texts and stops behind one
  (`closingFrom_eq_some_iff`); the search for an opening one is its mirror image
  (`openingBefore_eq_map_closingFrom`), and so is a balanced text (`Balanced.reverse`).
* Wherever a balanced text is cut, its parts are balanced, or else a pair in it is cut
  (`Balanced.append_cases`). So an opening bracket that nothing closes rules out every pair around
  it.
-/

namespace MotionTutor

variable {opening closing : Char}

/-! ## 1. Balanced texts -/

/-- The brackets of a text pair up; its other characters do not matter. -/
inductive Balanced (opening closing : Char) : List Char → Prop
  | nil : Balanced opening closing []
  | other {c : Char} {text : List Char} (hopening : c ≠ opening) (hclosing : c ≠ closing)
      (h : Balanced opening closing text) : Balanced opening closing (c :: text)
  | nested {inside text : List Char} (hinside : Balanced opening closing inside)
      (h : Balanced opening closing text) :
      Balanced opening closing (opening :: (inside ++ closing :: text))

namespace Balanced

theorem append {s t : List Char} (hs : Balanced opening closing s)
    (ht : Balanced opening closing t) : Balanced opening closing (s ++ t) := by
  induction hs with
  | nil => exact ht
  | other ho hc _ ih => exact .other ho hc ih
  | nested hi _ _ ih =>
    rw [List.cons_append, List.append_assoc, List.cons_append]
    exact .nested hi ih

/-- Read backwards, the brackets change their roles. -/
theorem reverse {t : List Char} (h : Balanced opening closing t) :
    Balanced closing opening t.reverse := by
  induction h with
  | nil => exact .nil
  | other ho hc _ ih =>
    rw [List.reverse_cons]
    exact ih.append (.other hc ho .nil)
  | nested _ _ ihi ih =>
    simp only [List.reverse_cons, List.reverse_append, List.append_assoc, List.singleton_append]
    exact ih.append (.nested ihi .nil)

/-- **Where a balanced text is cut**, both parts are balanced, or a pair of brackets is cut, with
balanced texts between it and the cut; any balanced text may then stand in place of the pair. -/
theorem append_cases {t : List Char} (h : Balanced opening closing t) :
    ∀ u v, t = u ++ v → Balanced opening closing u ∧ Balanced opening closing v ∨
      ∃ before left right after, u = before ++ opening :: left ∧ v = right ++ closing :: after ∧
        Balanced opening closing left ∧ Balanced opening closing right ∧
        ∀ m, Balanced opening closing m → Balanced opening closing (before ++ (m ++ after)) := by
  induction h with
  | nil =>
    intro u v huv
    obtain ⟨rfl, rfl⟩ := List.append_eq_nil_iff.mp huv.symm
    exact Or.inl ⟨.nil, .nil⟩
  | @other c t ho hc h ih =>
    intro u v huv
    cases u with
    | nil =>
      rw [List.nil_append] at huv
      exact Or.inl ⟨.nil, huv ▸ .other ho hc h⟩
    | cons d u =>
      obtain ⟨rfl, rfl⟩ := List.cons.inj huv
      rcases ih u v rfl with ⟨hu, hv⟩ | ⟨before, left, right, after, rfl, rfl, hl, hr, hm⟩
      · exact Or.inl ⟨.other ho hc hu, hv⟩
      · exact Or.inr ⟨c :: before, left, right, after, rfl, rfl, hl, hr,
          fun m hb => .other ho hc (hm m hb)⟩
  | @nested inside t hi h ihi ih =>
    intro u v huv
    cases u with
    | nil =>
      rw [List.nil_append] at huv
      exact Or.inl ⟨.nil, huv ▸ .nested hi h⟩
    | cons d u =>
      obtain ⟨rfl, hrest⟩ := List.cons.inj huv
      rcases List.append_eq_append_iff.mp hrest with ⟨w, rfl, hw⟩ | ⟨w, rfl, rfl⟩
      · cases w with
        | nil =>
          -- the cut is in front of the closing bracket
          rw [List.nil_append] at hw
          rw [List.append_nil]
          exact Or.inr ⟨[], inside, [], t, rfl, hw.symm, hi, .nil, fun m hb => hb.append h⟩
        | cons e w =>
          -- the cut is behind the pair
          obtain ⟨rfl, rfl⟩ := List.cons.inj hw
          rcases ih w v rfl with ⟨hu, hv⟩ | ⟨before, left, right, after, rfl, rfl, hl, hr, hm⟩
          · exact Or.inl ⟨.nested hi hu, hv⟩
          · refine Or.inr ⟨opening :: (inside ++ closing :: before), left, right, after, ?_, rfl,
              hl, hr, fun m hb => ?_⟩
            · rw [List.cons_append, List.append_assoc, List.cons_append]
            · rw [List.cons_append, List.append_assoc, List.cons_append]
              exact .nested hi (hm m hb)
      · -- the cut is in the inner text
        rcases ihi u w rfl with ⟨hu, hw⟩ | ⟨before, left, right, after, rfl, rfl, hl, hr, hm⟩
        · exact Or.inr ⟨[], u, w, t, rfl, rfl, hu, hw, fun m hb => hb.append h⟩
        · refine Or.inr ⟨opening :: before, left, right, after ++ closing :: t, rfl, ?_, hl, hr,
            fun m hb => ?_⟩
          · rw [List.append_assoc, List.cons_append]
          · have hinside := hm m hb
            rw [← List.append_assoc m, List.cons_append, ← List.append_assoc]
            exact .nested hinside h

/-- A balanced text may stand anywhere in a balanced text. -/
theorem insert {m u v : List Char} (hm : Balanced opening closing m)
    (h : Balanced opening closing (u ++ v)) : Balanced opening closing (u ++ (m ++ v)) := by
  rcases h.append_cases u v rfl with ⟨hu, hv⟩ | ⟨before, left, right, after, rfl, rfl, hl, hr, ht⟩
  · exact hu.append (hm.append hv)
  · have hpair := ht _ (.nested (hl.append (hm.append hr)) .nil)
    simpa using hpair

end Balanced

/-! ## 2. The search to the right -/

/-- A search for a closing bracket runs over a balanced text. -/
theorem closingFrom_append (hne : opening ≠ closing) {t : List Char}
    (h : Balanced opening closing t) (depth i : Nat)
    (rest : List Char) : closingFrom opening closing (depth + 1) i (t ++ rest) =
      closingFrom opening closing (depth + 1) (i + t.length) rest := by
  induction h generalizing depth i rest with
  | nil => rfl
  | other ho hc _ ih =>
    rw [List.cons_append, closingFrom, if_neg ho, if_neg hc, ih, List.length_cons]
    congr 1
    omega
  | nested _ _ ihi ih =>
    rw [List.cons_append, closingFrom, if_pos rfl, List.append_assoc, ihi, List.cons_append,
      closingFrom, if_neg hne.symm, if_pos rfl, if_neg (by omega), Nat.add_sub_cancel, ih]
    simp only [List.length_cons, List.length_append]
    congr 1
    omega

/-- The text before the bracket that a search stops at is balanced behind as many opening brackets
as it was deep at its start. -/
theorem balanced_of_closingFrom {depth i j : Nat} {t : List Char}
    (h : closingFrom opening closing (depth + 1) i t = some j) :
    ∃ inside rest, t = inside ++ closing :: rest ∧ j = i + inside.length ∧
      Balanced opening closing (List.replicate depth opening ++ inside) := by
  induction t generalizing depth i with
  | nil => cases h
  | cons c t ih =>
    rw [closingFrom] at h
    split at h
    · rename_i hc
      obtain ⟨inside, rest, rfl, rfl, hb⟩ := ih h
      refine ⟨opening :: inside, rest, by rw [hc]; rfl, ?_, ?_⟩
      · rw [List.length_cons]; omega
      · rwa [List.replicate_succ', List.append_assoc] at hb
    · split at h
      · rename_i hc
        subst hc
        split at h
        · rename_i hdepth
          obtain rfl : depth = 0 := by omega
          cases h
          exact ⟨[], t, rfl, rfl, .nil⟩
        · rename_i hdepth
          obtain ⟨d, rfl⟩ := Nat.exists_eq_succ_of_ne_zero (show depth ≠ 0 by omega)
          obtain ⟨inside, rest, rfl, rfl, hb⟩ := ih h
          refine ⟨c :: inside, rest, rfl, ?_, ?_⟩
          · rw [List.length_cons]; omega
          · rw [List.replicate_succ', List.append_assoc]
            exact (Balanced.nested .nil .nil).insert hb
      · rename_i ho hc
        obtain ⟨inside, rest, rfl, rfl, hb⟩ := ih h
        refine ⟨c :: inside, rest, rfl, ?_, ?_⟩
        · rw [List.length_cons]; omega
        · exact (Balanced.other ho hc .nil).insert hb

/-- **A search for a closing bracket stops behind a balanced text.** -/
theorem closingFrom_eq_some_iff (hne : opening ≠ closing) {i j : Nat} {t : List Char} :
    closingFrom opening closing 1 i t = some j ↔
      ∃ inside rest, t = inside ++ closing :: rest ∧ j = i + inside.length ∧
        Balanced opening closing inside := by
  constructor
  · intro h
    simpa using balanced_of_closingFrom h
  · rintro ⟨inside, rest, rfl, rfl, hb⟩
    rw [closingFrom_append hne hb 0, closingFrom, if_neg hne.symm, if_pos rfl, if_pos rfl]

/-! ## 3. The search to the left -/

/-- The search for an opening bracket is the search for a closing one, read backwards. -/
theorem openingBefore_eq_map_closingFrom (depth i : Nat) (t : List Char) :
    openingBefore opening closing depth t =
      (closingFrom closing opening (depth + 1) i t).map (i + t.length - 1 - ·) := by
  induction t generalizing depth i with
  | nil => rfl
  | cons c t ih =>
    have hlen : ∀ j, i + 1 + t.length - 1 - j = i + (c :: t).length - 1 - j := by
      intro j
      rw [List.length_cons]
      omega
    rw [openingBefore, closingFrom]
    split
    · rw [ih (depth + 1) (i + 1)]
      simp only [hlen]
    · split
      · rename_i hdepth hc
        by_cases hzero : depth = 0
        · rw [if_pos hzero, if_pos (by omega), Option.map_some, List.length_cons]
          congr 1
          omega
        · rw [if_neg hzero, if_neg (by omega), ih (depth - 1) (i + 1),
            show depth - 1 + 1 = depth + 1 - 1 by omega]
          simp only [hlen]
      · rw [ih depth (i + 1)]
        simp only [hlen]

/-- **A search for an opening bracket stops in front of a balanced text.** -/
theorem openingBefore_eq_some_iff (hne : opening ≠ closing) {i : Nat} {t : List Char} :
    openingBefore opening closing 0 t.reverse = some i ↔
      ∃ before inside, t = before ++ opening :: inside ∧ i = before.length ∧
        Balanced opening closing inside := by
  rw [openingBefore_eq_map_closingFrom 0 0, Option.map_eq_some_iff]
  constructor
  · rintro ⟨j, hj, rfl⟩
    obtain ⟨inside, before, ht, rfl, hb⟩ := (closingFrom_eq_some_iff hne.symm).mp hj
    have ht' := congrArg List.reverse ht
    rw [List.reverse_reverse, List.reverse_append, List.reverse_cons, List.append_assoc] at ht'
    refine ⟨before.reverse, inside.reverse, ht', ?_, hb.reverse⟩
    rw [ht]
    simp only [List.length_append, List.length_cons, List.length_reverse]
    omega
  · rintro ⟨before, inside, rfl, rfl, hb⟩
    refine ⟨inside.length, (closingFrom_eq_some_iff hne.symm).mpr
      ⟨inside.reverse, before.reverse, ?_, ?_, hb.reverse⟩, ?_⟩
    · simp
    · simp
    · simp only [List.length_append, List.length_cons, List.length_reverse]
      omega

/-! ## 4. Pairs -/

/-- An opening bracket and a closing one behind it, with a balanced text between them. -/
structure IsPair (opening closing : Char) (cells : List Char) (p : Columns) : Prop where
  first_lt : p.first < p.last
  opens : cells[p.first]? = some opening
  closes : cells[p.last]? = some closing
  balanced : Balanced opening closing ((cells.take p.last).drop (p.first + 1))

variable {cells : List Char} {col : Nat} {p q : Columns}

/-- A line falls apart at two of its characters. -/
theorem eq_append_of_getElem? {i j : Nat} {a b : Char} (hij : i < j) (hi : cells[i]? = some a)
    (hj : cells[j]? = some b) :
    cells = cells.take i ++ a :: ((cells.take j).drop (i + 1) ++ b :: cells.drop (j + 1)) := by
  obtain ⟨hilt, hi⟩ := List.getElem?_eq_some_iff.mp hi
  obtain ⟨hjlt, hj⟩ := List.getElem?_eq_some_iff.mp hj
  have htake : i < (cells.take j).length := by
    rw [List.length_take_of_le (Nat.le_of_lt hjlt)]
    exact hij
  have hbetween : (cells.take j).drop i = a :: (cells.take j).drop (i + 1) := by
    rw [List.drop_eq_getElem_cons htake, List.getElem_take, hi]
  have hbehind : cells.drop j = b :: cells.drop (j + 1) := by
    rw [List.drop_eq_getElem_cons hjlt, hj]
  calc cells = cells.take j ++ cells.drop j := (List.take_append_drop _ _).symm
    _ = (cells.take j).take i ++ (cells.take j).drop i ++ cells.drop j := by
      rw [List.take_append_drop i]
    _ = _ := by
      rw [List.take_take, Nat.min_eq_left (Nat.le_of_lt hij), hbetween, hbehind,
        List.append_assoc, List.cons_append]

theorem isPair_iff_append : IsPair opening closing cells p ↔
    ∃ before inside after, cells = before ++ opening :: (inside ++ closing :: after) ∧
      p = ⟨before.length, before.length + 1 + inside.length⟩ ∧
      Balanced opening closing inside := by
  constructor
  · rintro ⟨hlt, hopens, hcloses, hb⟩
    obtain ⟨hfirst, -⟩ := List.getElem?_eq_some_iff.mp hopens
    obtain ⟨hlast, -⟩ := List.getElem?_eq_some_iff.mp hcloses
    refine ⟨cells.take p.first, (cells.take p.last).drop (p.first + 1), cells.drop (p.last + 1),
      eq_append_of_getElem? hlt hopens hcloses, ?_, hb⟩
    rw [List.length_take_of_le (Nat.le_of_lt hfirst), List.length_drop,
      List.length_take_of_le (Nat.le_of_lt hlast), Nat.add_sub_cancel' hlt]
  · rintro ⟨before, inside, after, rfl, rfl, hb⟩
    have hsplit : before ++ opening :: (inside ++ closing :: after) =
        (before ++ opening :: inside) ++ closing :: after := by simp
    have hlen : before.length + 1 + inside.length = (before ++ opening :: inside).length := by
      rw [List.length_append, List.length_cons]
      omega
    refine ⟨by simp only; omega, by simp, ?_, ?_⟩
    · simp only [hsplit, hlen, List.getElem?_append_right (Nat.le_refl _), Nat.sub_self]
      rfl
    · simp only [hsplit, hlen, List.take_left']
      simpa using hb

/-- The closing bracket of a pair is the one that the search from its opening bracket finds. -/
theorem isPair_iff_closingFrom (hne : opening ≠ closing) : IsPair opening closing cells p ↔
    cells[p.first]? = some opening ∧
      closingFrom opening closing 0 p.first (cells.drop p.first) = some p.last := by
  constructor
  · intro hp
    refine ⟨hp.opens, ?_⟩
    obtain ⟨before, inside, after, rfl, rfl, hb⟩ := isPair_iff_append.mp hp
    rw [List.drop_left, closingFrom, if_pos rfl]
    exact (closingFrom_eq_some_iff hne).mpr ⟨inside, after, rfl, rfl, hb⟩
  · rintro ⟨hopens, hlast⟩
    obtain ⟨hfirst, hget⟩ := List.getElem?_eq_some_iff.mp hopens
    rw [List.drop_eq_getElem_cons hfirst, hget, closingFrom, if_pos rfl] at hlast
    obtain ⟨inside, after, hdrop, hlen, hb⟩ := (closingFrom_eq_some_iff hne).mp hlast
    have htake := List.length_take_of_le (Nat.le_of_lt hfirst)
    refine isPair_iff_append.mpr ⟨cells.take p.first, inside, after, ?_, ?_, hb⟩
    · rw [← hdrop, ← hget, ← List.drop_eq_getElem_cons hfirst, List.take_append_drop]
    · rw [htake, ← hlen]

/-- Where the search to the left begins: behind an opening bracket at the column, else at the
column. -/
def leftOf (opening : Char) (cells : List Char) (col : Nat) : Nat :=
  if cells[col]? = some opening then col + 1 else col

theorem openingBracket?_eq (hne : opening ≠ closing) (cells : List Char) (col : Nat) :
    openingBracket? opening closing cells col =
      openingBefore opening closing 0 (cells.take (leftOf opening cells col)).reverse := by
  rw [openingBracket?, leftOf]
  split
  · rename_i hcol
    obtain ⟨hlt, hget⟩ := List.getElem?_eq_some_iff.mp hcol
    rw [List.take_succ_eq_append_getElem hlt, List.reverse_append, List.reverse_singleton,
      List.singleton_append, hget, openingBefore, if_neg hne, if_pos rfl, if_pos rfl,
      List.length_reverse, List.length_take_of_le (Nat.le_of_lt hlt)]
  · rfl

theorem le_leftOf (opening : Char) (cells : List Char) (col : Nat) :
    col ≤ leftOf opening cells col := by
  rw [leftOf]
  split
  · exact Nat.le_succ col
  · exact Nat.le_refl col

/-- The search to the left begins between the brackets of a pair around the column. -/
theorem IsPair.leftOf_bounds (hq : IsPair opening closing cells q) (hne : opening ≠ closing)
    (hfirst : q.first ≤ col) (hlast : col ≤ q.last) :
    q.first < leftOf opening cells col ∧ leftOf opening cells col ≤ q.last := by
  have hright := hq.first_lt
  rw [leftOf]
  split
  · rename_i hopens
    have hcol : col ≠ q.last := by
      rintro rfl
      exact hne (Option.some.inj (hopens.symm.trans hq.closes))
    omega
  · rename_i hopens
    have hcol : col ≠ q.first := by
      rintro rfl
      exact hopens hq.opens
    omega

/-- A cut between the brackets of a pair cuts the text inside it. -/
theorem exists_take_eq {before inside : List Char} {k : Nat} (hlo : before.length < k)
    (hhi : k ≤ before.length + 1 + inside.length) (c : Char) (rest : List Char) :
    ∃ left right, inside = left ++ right ∧ k = before.length + 1 + left.length ∧
      (before ++ c :: (inside ++ rest)).take k = before ++ c :: left := by
  have hlen : (inside.take (k - (before.length + 1))).length = k - (before.length + 1) :=
    List.length_take_of_le (by omega)
  refine ⟨inside.take (k - (before.length + 1)), inside.drop (k - (before.length + 1)),
    (List.take_append_drop _ _).symm, by omega, ?_⟩
  obtain ⟨n, rfl⟩ : ∃ n, k = before.length + (n + 1) := ⟨k - (before.length + 1), by omega⟩
  rw [List.take_length_add_append, List.take_succ_cons, List.take_append_of_le_length (by omega),
    show before.length + (n + 1) - (before.length + 1) = n by omega]

/-- **A pair around a column is found, or one inside it that is around the column too.** -/
theorem exists_pair_of_around (hne : opening ≠ closing) (hq : IsPair opening closing cells q)
    (hfirst : q.first ≤ col) (hlast : col ≤ q.last) :
    ∃ p, openingBracket? opening closing cells col = some p.first ∧
      IsPair opening closing cells p ∧ q.first ≤ p.first ∧ col ≤ p.last := by
  have hcol := le_leftOf opening cells col
  obtain ⟨hlo, hhi⟩ := hq.leftOf_bounds hne hfirst hlast
  rw [openingBracket?_eq hne]
  generalize leftOf opening cells col = k at hcol hlo hhi
  obtain ⟨before, inside, after, rfl, rfl, hb⟩ := isPair_iff_append.mp hq
  simp only at hlo hhi
  obtain ⟨left, right, rfl, hleft, htake⟩ := exists_take_eq hlo hhi opening (closing :: after)
  rw [htake]
  rcases hb.append_cases left right rfl with ⟨hl, hr⟩ | ⟨outer, l, r, rest, rfl, rfl, hl, hr, -⟩
  · exact ⟨_, (openingBefore_eq_some_iff hne).mpr ⟨before, left, rfl, rfl, hl⟩, hq,
      Nat.le_refl _, hlast⟩
  · refine ⟨⟨(before ++ opening :: outer).length,
      (before ++ opening :: outer).length + 1 + (l ++ r).length⟩, ?_, ?_, ?_, ?_⟩
    · exact (openingBefore_eq_some_iff hne).mpr
        ⟨before ++ opening :: outer, l, by simp, rfl, hl⟩
    · exact isPair_iff_append.mpr ⟨before ++ opening :: outer, l ++ r,
        rest ++ closing :: after, by simp, rfl, hl.append hr⟩
    · simp
    · simp only [List.length_append, List.length_cons] at hleft ⊢
      omega

/-! ## 5. The innermost pair -/

/-- The pair around a column that opens last. -/
structure IsInnermostPair (opening closing : Char) (cells : List Char) (col : Nat) (p : Columns) :
    Prop where
  isPair : IsPair opening closing cells p
  first_le : p.first ≤ col
  le_last : col ≤ p.last
  innermost : ∀ q, IsPair opening closing cells q → q.first ≤ col → col ≤ q.last →
    q.first ≤ p.first

theorem bracketPair?_eq_some_iff (hne : opening ≠ closing) :
    bracketPair? opening closing cells col = some p ↔
      openingBracket? opening closing cells col = some p.first ∧
        IsPair opening closing cells p ∧ col ≤ p.last := by
  rw [bracketPair?]
  cases hfirst : openingBracket? opening closing cells col with
  | none => simp only [reduceCtorEq, false_and]
  | some first =>
    have hopens := getElem?_openingBracket? hfirst
    have hpair : ∀ last, IsPair opening closing cells ⟨first, last⟩ ↔
        closingFrom opening closing 0 first (cells.drop first) = some last := by
      intro last
      rw [isPair_iff_closingFrom hne]
      exact and_iff_right hopens
    simp only
    constructor
    · intro h
      split at h
      · cases h
      · rename_i last hlast
        split at h
        · cases h
        · cases h
          exact ⟨rfl, (hpair last).mpr hlast, by simp only; omega⟩
    · rintro ⟨hp, hisPair, hcol⟩
      obtain ⟨_, last⟩ := p
      cases hp
      rw [(hpair last).mp hisPair]
      exact if_neg (Nat.not_lt.mpr hcol)

theorem bracketPair?_eq_some_iff_innermost (hne : opening ≠ closing) :
    bracketPair? opening closing cells col = some p ↔
      IsInnermostPair opening closing cells col p := by
  constructor
  · intro h
    obtain ⟨hfirst, hp, hcol⟩ := (bracketPair?_eq_some_iff hne).mp h
    refine ⟨hp, openingBracket?_le hfirst, hcol, fun q hq hqfirst hqlast => ?_⟩
    obtain ⟨p', hfirst', -, hle, -⟩ := exists_pair_of_around hne hq hqfirst hqlast
    rw [hfirst] at hfirst'
    exact Option.some.inj hfirst' ▸ hle
  · rintro ⟨hp, hfirst, hcol, hinner⟩
    obtain ⟨p', hfirst', hp', hle, hcol'⟩ := exists_pair_of_around hne hp hfirst hcol
    -- the pair that is found opens where the innermost one does, so it is the same
    have hge := hinner p' hp' (openingBracket?_le hfirst') hcol'
    have hsame : p'.first = p.first := Nat.le_antisymm hge hle
    rw [hsame] at hfirst'
    exact (bracketPair?_eq_some_iff hne).mpr ⟨hfirst', hp, hcol⟩

theorem bracketPair?_eq_none_iff (hne : opening ≠ closing) :
    bracketPair? opening closing cells col = none ↔
      ∀ p, IsPair opening closing cells p → ¬ (p.first ≤ col ∧ col ≤ p.last) := by
  constructor
  · rintro hnone p hp ⟨hfirst, hcol⟩
    obtain ⟨p', hfirst', hp', -, hcol'⟩ := exists_pair_of_around hne hp hfirst hcol
    rw [(bracketPair?_eq_some_iff hne).mpr ⟨hfirst', hp', hcol'⟩] at hnone
    cases hnone
  · intro h
    refine Option.eq_none_iff_forall_ne_some.mpr fun p hp => ?_
    have hin := (bracketPair?_eq_some_iff_innermost hne).mp hp
    exact h p hin.isPair ⟨hin.first_le, hin.le_last⟩

/-- **A bracket object is the innermost pair around the column**, in any line and for every kind of
bracket: with its brackets it is that pair, and there is none just if no pair is around the column;
without them it is what lies strictly between them, if anything does. -/
theorem bracketObject_innermost (hne : opening ≠ closing) (cells : List Char) (col : Nat) :
    (∀ p, bracketObject opening closing true cells col = some p ↔
      IsInnermostPair opening closing cells col p) ∧
    (bracketObject opening closing true cells col = none ↔
      ∀ p, IsPair opening closing cells p → ¬ (p.first ≤ col ∧ col ≤ p.last)) ∧
    (∀ c, bracketObject opening closing false cells col = some c ↔
      ∃ p, IsInnermostPair opening closing cells col p ∧ c.IsBetween p.first p.last) ∧
    (bracketObject opening closing false cells col = none ↔
      ∀ p, IsInnermostPair opening closing cells col p → p.last = p.first + 1) := by
  have haround : bracketObject opening closing true cells col =
      bracketPair? opening closing cells col := by
    simp [bracketObject]
  have hinside : bracketObject opening closing false cells col =
      (bracketPair? opening closing cells col).bind fun p => Columns.between? p.first p.last := by
    simp [bracketObject]
  rw [haround, hinside]
  refine ⟨fun p => bracketPair?_eq_some_iff_innermost hne, bracketPair?_eq_none_iff hne,
    fun c => ?_, ?_⟩
  · simp only [Option.bind_eq_some_iff, bracketPair?_eq_some_iff_innermost hne,
      Columns.between?_eq_some_iff]
  · simp only [Option.bind_eq_none_iff, bracketPair?_eq_some_iff_innermost hne,
      Columns.between?_eq_none_iff]
    refine forall₂_congr fun p hp => ?_
    have := hp.isPair.first_lt
    omega

/-- The cursor stands on a closing bracket, with brackets that nothing closes or opens on both
sides. -/
theorem bracketObject_innermost_unmatched :
    '(' ≠ ')' ∧ IsInnermostPair '(' ')' [')', '(', 'a', '(', '[', ')', '(', ')', '('] 5 ⟨3, 5⟩ :=
  ⟨by decide, ((bracketObject_innermost (by decide) _ _).1 _).mp (by decide)⟩

end MotionTutor
