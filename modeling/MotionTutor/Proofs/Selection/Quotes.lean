import MotionTutor.Proofs.Selection.Within

/-!
# Quoted strings pair up from the left

The quotes of a line pair up from left to right, whatever the column is: a quoted object is the
first of these pairs that closes at or behind the column (`quotePair?_eq_find?`), also where it is
looked up as the next two quotes behind the column. So it never goes from the closing quote of one
string to the opening quote of the next (`quoteObject_leftToRight`).
-/

namespace MotionTutor

variable {cells : List Char} {mark : Char} {col : Nat}

/-! ## 1. Pairs from the left -/

theorem length_le_one_of_not_pair {quotes : List Nat}
    (h : ∀ first last rest, quotes = first :: last :: rest → False) : quotes.length ≤ 1 := by
  cases quotes with
  | nil => exact Nat.zero_le 1
  | cons first rest =>
    cases rest with
    | nil => exact Nat.le_refl 1
    | cons last rest => exact (h first last rest rfl).elim

/-- The pairs hold the quotes at an even place and the ones behind them. -/
theorem getElem?_pairUp_eq_some_iff {quotes : List Nat} {k : Nat} {p : Columns} :
    (pairUp quotes)[k]? = some p ↔
      quotes[2 * k]? = some p.first ∧ quotes[2 * k + 1]? = some p.last := by
  induction quotes using pairUp.induct generalizing k with
  | case1 first last rest ih =>
    rw [pairUp]
    cases k with
    | zero =>
      obtain ⟨a, b⟩ := p
      simp
    | succ k =>
      rw [List.getElem?_cons_succ, ih]
      rfl
  | case2 quotes hne =>
    -- without two quotes there is no pair
    have hlast : quotes[2 * k + 1]? = none := by
      refine List.getElem?_eq_none ?_
      have := length_le_one_of_not_pair hne
      omega
    rw [pairUp, hlast]
    · simp only [List.getElem?_nil, reduceCtorEq, and_false]
    · exact hne

theorem first_mem_of_mem_pairUp {quotes : List Nat} {p : Columns} (h : p ∈ pairUp quotes) :
    p.first ∈ quotes := by
  obtain ⟨k, hk⟩ := List.mem_iff_getElem?.mp h
  exact List.mem_of_getElem? (getElem?_pairUp_eq_some_iff.mp hk).1

/-! ## 2. The pair of a column -/

variable {quotes : List Nat} {p : Columns}

/-- A pair around the column is the first one that closes at or behind it. -/
theorem find?_closing_of_around (h : quotes.Pairwise (· < ·))
    (hp : (pairUp quotes).find? (fun p => p.first ≤ col && col ≤ p.last) = some p) :
    (pairUp quotes).find? (col ≤ ·.last) = some p := by
  induction quotes using pairUp.induct with
  | case1 first last rest ih =>
    rw [pairUp, List.find?_cons] at hp ⊢
    obtain ⟨-, hrest⟩ := List.pairwise_cons.mp h
    obtain ⟨hlast, hrest⟩ := List.pairwise_cons.mp hrest
    split at hp
    · rename_i haround
      rw [Bool.and_eq_true] at haround
      rw [haround.2]
      exact hp
    · -- the pairs behind this one open behind it
      have hmem := first_mem_of_mem_pairUp (List.mem_of_find?_eq_some hp)
      have haround := List.find?_some hp
      simp only [Bool.and_eq_true, decide_eq_true_eq] at haround
      have := hlast _ hmem
      rw [decide_eq_false (show ¬ col ≤ last by omega)]
      exact ih hrest hp
  | case2 quotes hne =>
    rw [pairUp] at hp
    · cases hp
    · exact hne

/-- Without a pair around the column, the next two quotes behind it are the first pair that closes
at or behind it: they cannot be the closing quote of one string and the opening one of the next. -/
theorem head?_pairUp_filter (h : quotes.Pairwise (· < ·))
    (hnone : (pairUp quotes).find? (fun p => p.first ≤ col && col ≤ p.last) = none) :
    (pairUp (quotes.filter (col < ·))).head? = (pairUp quotes).find? (col ≤ ·.last) := by
  induction quotes using pairUp.induct with
  | case1 first last rest ih =>
    obtain ⟨hfirst, hrest⟩ := List.pairwise_cons.mp h
    obtain ⟨-, hrest⟩ := List.pairwise_cons.mp hrest
    have hlt := hfirst last List.mem_cons_self
    rw [pairUp, List.find?_cons] at hnone ⊢
    split at hnone
    · cases hnone
    · rename_i haround
      simp only [Bool.and_eq_false_iff, decide_eq_false_iff_not] at haround
      by_cases hcol : col ≤ last
      · have hbefore : col < first := by omega
        have hbehind : col < last := by omega
        simp only [decide_eq_true hcol, List.filter_cons, decide_eq_true hbefore,
          decide_eq_true hbehind, if_true, pairUp, List.head?_cons]
      · have hbefore : ¬ col < first := by omega
        have hbehind : ¬ col < last := by omega
        simp only [decide_eq_false hcol, List.filter_cons, decide_eq_false hbefore,
          decide_eq_false hbehind, Bool.false_eq_true, if_false]
        exact ih hrest hnone
  | case2 quotes hne =>
    rw [pairUp, pairUp]
    · rfl
    · exact hne
    · intro first last rest hf
      have hle := (List.filter_sublist (p := fun q => decide (col < q)) (l := quotes)).length_le
      have := length_le_one_of_not_pair hne
      rw [hf] at hle
      simp only [List.length_cons] at hle
      omega

/-- **The string of a column is the first pair that closes at or behind it.** -/
theorem quotePair?_eq_find? (mark : Char) (cells : List Char) (col : Nat) :
    quotePair? mark cells col = (pairUp (columnsOf cells mark)).find? (col ≤ ·.last) := by
  have hsorted := pairwise_columnsOf cells mark
  simp only [quotePair?]
  generalize columnsOf cells mark = quotes at hsorted
  split
  · rename_i p hp
    exact (find?_closing_of_around hsorted hp).symm
  · rename_i hnone
    rw [← head?_pairUp_filter hsorted hnone]
    split
    · rename_i first last rest hf
      rw [hf, pairUp]
      rfl
    · rename_i hne
      rw [pairUp]
      · rfl
      · exact hne

/-! ## 3. The quotes by their places -/

/-- The pair number `k` is the first one that closes at or behind the column. -/
structure IsStringAt (quotes : List Nat) (col k : Nat) (p : Columns) : Prop where
  opens : quotes[2 * k]? = some p.first
  closes : quotes[2 * k + 1]? = some p.last
  le_last : col ≤ p.last
  least : ∀ j < k, ∀ last, quotes[2 * j + 1]? = some last → last < col

/-- A quote at an odd place closes the pair with the one before it. -/
theorem exists_getElem?_pairUp {k last : Nat} (h : quotes[2 * k + 1]? = some last) :
    ∃ first, (pairUp quotes)[k]? = some ⟨first, last⟩ := by
  obtain ⟨hlt, -⟩ := List.getElem?_eq_some_iff.mp h
  have hfirst := List.getElem?_eq_getElem (show 2 * k < quotes.length by omega)
  exact ⟨_, getElem?_pairUp_eq_some_iff.mpr ⟨hfirst, h⟩⟩

theorem find?_pairUp_eq_some_iff :
    (pairUp quotes).find? (col ≤ ·.last) = some p ↔ ∃ k, IsStringAt quotes col k p := by
  rw [List.find?_eq_some_iff_getElem]
  simp only [decide_eq_true_eq, Bool.not_eq_eq_eq_not, Bool.not_true, decide_eq_false_iff_not,
    Nat.not_le]
  constructor
  · rintro ⟨hle, k, hk, hp, hbefore⟩
    obtain ⟨hopens, hcloses⟩ := getElem?_pairUp_eq_some_iff.mp
      ((List.getElem?_eq_getElem hk).trans (congrArg some hp))
    refine ⟨k, hopens, hcloses, hle, fun j hj last hlast => ?_⟩
    obtain ⟨first, hq⟩ := exists_getElem?_pairUp hlast
    obtain ⟨hlt, hget⟩ := List.getElem?_eq_some_iff.mp hq
    have hcol := hbefore j hj
    rwa [hget] at hcol
  · rintro ⟨k, hopens, hcloses, hle, hleast⟩
    obtain ⟨hk, hp⟩ := List.getElem?_eq_some_iff.mp
      (getElem?_pairUp_eq_some_iff.mpr ⟨hopens, hcloses⟩)
    refine ⟨hle, k, hk, hp, fun j hj => ?_⟩
    have hq := List.getElem?_eq_getElem (show j < (pairUp quotes).length by omega)
    exact hleast j hj _ (getElem?_pairUp_eq_some_iff.mp hq).2

theorem find?_pairUp_eq_none_iff :
    (pairUp quotes).find? (col ≤ ·.last) = none ↔
      ∀ k last, quotes[2 * k + 1]? = some last → last < col := by
  rw [List.find?_eq_none]
  simp only [decide_eq_true_eq, Nat.not_le]
  constructor
  · intro h k last hlast
    obtain ⟨first, hq⟩ := exists_getElem?_pairUp hlast
    exact h _ (List.mem_of_getElem? hq)
  · intro h q hq
    obtain ⟨k, hk⟩ := List.mem_iff_getElem?.mp hq
    exact h k _ (getElem?_pairUp_eq_some_iff.mp hk).2

theorem IsStringAt.first_lt {k : Nat} (h : IsStringAt quotes col k p)
    (hsorted : quotes.Pairwise (· < ·)) : p.first < p.last := by
  obtain ⟨hk, hopens⟩ := List.getElem?_eq_some_iff.mp h.opens
  obtain ⟨hk', hcloses⟩ := List.getElem?_eq_some_iff.mp h.closes
  have hlt := List.pairwise_iff_getElem.mp hsorted _ _ hk hk' (Nat.lt_succ_self _)
  omega

/-- The opening quote of a string closes no other one. -/
theorem IsStringAt.ne_closes {k j : Nat} (h : IsStringAt quotes col k p)
    (hsorted : quotes.Pairwise (· < ·)) : quotes[2 * j + 1]? ≠ some p.first := by
  intro hj
  obtain ⟨hk, hopens⟩ := List.getElem?_eq_some_iff.mp h.opens
  obtain ⟨hj, hcloses⟩ := List.getElem?_eq_some_iff.mp hj
  have hordered := List.pairwise_iff_getElem.mp hsorted
  rcases Nat.lt_or_gt_of_ne (show 2 * k ≠ 2 * j + 1 by omega) with hlt | hlt
  · have := hordered _ _ hk hj hlt
    omega
  · have := hordered _ _ hj hk hlt
    omega

/-- **A quoted object is a string that pairs up from the left.** With its quotes it is the first
pair of quotes, counted from the left, that closes at or behind the column, and there is none just
if every pair closes before it; without them it is what lies strictly between, if anything does. So
it never goes from the closing quote of one string to the opening quote of the next. -/
theorem quoteObject_leftToRight (mark : Char) (cells : List Char) (col : Nat) :
    ((columnsOf cells mark).Pairwise (· < ·) ∧
      ∀ i, i ∈ columnsOf cells mark ↔ cells[i]? = some mark) ∧
    (∀ p, quoteObject mark true cells col = some p ↔
      ∃ k, IsStringAt (columnsOf cells mark) col k p) ∧
    (quoteObject mark true cells col = none ↔
      ∀ k last, (columnsOf cells mark)[2 * k + 1]? = some last → last < col) ∧
    (∀ c, quoteObject mark false cells col = some c ↔
      ∃ k p, IsStringAt (columnsOf cells mark) col k p ∧ c.IsBetween p.first p.last) ∧
    (quoteObject mark false cells col = none ↔
      ∀ k p, IsStringAt (columnsOf cells mark) col k p → p.last = p.first + 1) ∧
    (∀ k first last, (columnsOf cells mark)[2 * k + 1]? = some first →
      (columnsOf cells mark)[2 * k + 2]? = some last →
      quoteObject mark true cells col ≠ some ⟨first, last⟩ ∧
        ∀ c, c.IsBetween first last → quoteObject mark false cells col ≠ some c) := by
  have hsorted := pairwise_columnsOf cells mark
  have haround : quoteObject mark true cells col =
      (pairUp (columnsOf cells mark)).find? (col ≤ ·.last) := by
    simp [quoteObject, quotePair?_eq_find?]
  have hinside : quoteObject mark false cells col =
      ((pairUp (columnsOf cells mark)).find? (col ≤ ·.last)).bind fun p =>
        Columns.between? p.first p.last := by
    simp [quoteObject, quotePair?_eq_find?]
  rw [haround, hinside]
  refine ⟨⟨hsorted, fun i => mem_columnsOf⟩, fun p => find?_pairUp_eq_some_iff,
    find?_pairUp_eq_none_iff, fun c => ?_, ?_, fun k first last hfirst hlast => ⟨?_, ?_⟩⟩
  · simp only [Option.bind_eq_some_iff, find?_pairUp_eq_some_iff, Columns.between?_eq_some_iff]
    exact ⟨fun ⟨p, ⟨k, hk⟩, hc⟩ => ⟨k, p, hk, hc⟩, fun ⟨k, p, hk, hc⟩ => ⟨p, ⟨k, hk⟩, hc⟩⟩
  · simp only [Option.bind_eq_none_iff, find?_pairUp_eq_some_iff, Columns.between?_eq_none_iff]
    constructor
    · intro h k p hk
      exact Nat.le_antisymm (h p ⟨k, hk⟩) (hk.first_lt hsorted)
    · rintro h p ⟨k, hk⟩
      exact Nat.le_of_eq (h k p hk)
  · intro h
    obtain ⟨j, hj⟩ := find?_pairUp_eq_some_iff.mp h
    exact hj.ne_closes hsorted hfirst
  · intro c hc h
    obtain ⟨p, hp, hbetween⟩ := Option.bind_eq_some_iff.mp h
    obtain ⟨j, hj⟩ := find?_pairUp_eq_some_iff.mp hp
    have hopens : p.first = first := by
      have := (Columns.between?_eq_some_iff.mp hbetween).first_eq
      have := hc.first_eq
      omega
    exact hj.ne_closes hsorted (hopens ▸ hfirst)

/-- Between two strings, with a quote left over at the end of the line. -/
theorem quoteObject_leftToRight_between_strings :
    (columnsOf ['"', 'a', '"', ',', '"', 'b', '"', '"'] '"')[1]? = some 2 ∧
      (columnsOf ['"', 'a', '"', ',', '"', 'b', '"', '"'] '"')[2]? = some 4 ∧
      quoteObject '"' true ['"', 'a', '"', ',', '"', 'b', '"', '"'] 3 ≠ some ⟨2, 4⟩ :=
  ⟨by decide, by decide,
    ((quoteObject_leftToRight '"' ['"', 'a', '"', ',', '"', 'b', '"', '"'] 3).2.2.2.2.2
      0 2 4 (by decide) (by decide)).1⟩

end MotionTutor
