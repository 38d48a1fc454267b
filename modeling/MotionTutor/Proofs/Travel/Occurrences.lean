import MotionTutor.Proofs.Selection.Within
import MotionTutor.Proofs.Travel.Bounds

/-!
# Which occurrence a search lands on

The occurrences of a character beyond a cursor are the columns of its line that hold the character
and lie on the far side of it, the nearest first (`Buffer.occurrencesBeyond`). A search lands by
these alone:

* one that lands on its target goes to the occurrence that its count names, or nowhere if there
  are fewer (`searchTimes_onTarget`);
* one that stops short of its target goes to the cell before the nearest occurrence, whatever the
  count, since from there the nearest occurrence is the same one (`searchTimes_besideTarget`).

From an occurrence, the one that a count names has as many occurrences behind it as the count says,
and the last of them is where the search began. So the reversed search with the same count leads
back (`searchTimes_reversed`).
-/

namespace MotionTutor

/-! ## 1. Columns that hold a character -/

section Columns

variable {cells : List Char} {x : Char} {i : Nat}

theorem lt_length_of_mem_columnsOf (h : i ∈ columnsOf cells x) : i < cells.length :=
  List.mem_range.mp ((columnsOf_sublist cells x).subset h)

theorem map_zipIdx_filter (cells : List Char) (x : Char) (k : Nat) :
    ((cells.zipIdx k).filter (·.1 == x)).map (·.2) = (columnsOf cells x).map (k + ·) := by
  rw [List.zipIdx_eq_map_add, List.filter_map, List.map_map, columnsOf, List.map_map]
  rfl

theorem columnsOf_append (xs ys : List Char) (x : Char) :
    columnsOf (xs ++ ys) x = columnsOf xs x ++ (columnsOf ys x).map (xs.length + ·) := by
  rw [← map_zipIdx_filter, columnsOf, List.zipIdx_append, List.filter_append, List.map_append,
    Nat.zero_add, ← columnsOf]

theorem columnsOf_singleton (c x : Char) : columnsOf [c] x = if c == x then [0] else [] := by
  rw [columnsOf, List.zipIdx_singleton, List.filter_cons]
  split
  · rfl
  · rfl

theorem columnsOf_cons (c : Char) (cells : List Char) (x : Char) :
    columnsOf (c :: cells) x =
      (if c == x then [0] else []) ++ (columnsOf cells x).map (1 + ·) := by
  rw [← List.singleton_append, columnsOf_append, columnsOf_singleton, List.length_singleton]

/-- The first column is where a search for the character from the left finds it. -/
theorem head?_columnsOf (cells : List Char) (x : Char) :
    (columnsOf cells x).head? = cells.findIdx? (· == x) := by
  induction cells with
  | nil => rfl
  | cons c cells ih =>
    rw [columnsOf_cons, List.findIdx?_cons]
    split
    · rfl
    · rw [List.nil_append, List.head?_map, ih]
      simp only [Nat.add_comm]

/-- The columns to the right of column `i` are those of the rest of the line. -/
theorem filter_columnsOf (cells : List Char) (x : Char) (i : Nat) :
    (columnsOf cells x).filter (i < ·) =
      (columnsOf (cells.drop (i + 1)) x).map (i + 1 + ·) := by
  rcases Nat.lt_or_ge i cells.length with hlt | hge
  · have hlength : (cells.take (i + 1)).length = i + 1 := List.length_take_of_le hlt
    have hbefore : (columnsOf (cells.take (i + 1)) x).filter (i < ·) = [] := by
      refine List.filter_eq_nil_iff.mpr fun j hj => ?_
      have hj := lt_length_of_mem_columnsOf hj
      simp only [decide_eq_true_eq]
      omega
    have hbehind : ((columnsOf (cells.drop (i + 1)) x).map (i + 1 + ·)).filter (i < ·) =
        (columnsOf (cells.drop (i + 1)) x).map (i + 1 + ·) := by
      refine List.filter_eq_self.mpr fun j hj => ?_
      obtain ⟨k, -, rfl⟩ := List.mem_map.mp hj
      exact decide_eq_true (by omega)
    have hsplit := columnsOf_append (cells.take (i + 1)) (cells.drop (i + 1)) x
    rw [List.take_append_drop, hlength] at hsplit
    rw [hsplit, List.filter_append, hbefore, hbehind, List.nil_append]
  · rw [List.drop_eq_nil_of_le (Nat.le_succ_of_le hge)]
    refine List.filter_eq_nil_iff.mpr fun j hj => ?_
    have hj := lt_length_of_mem_columnsOf hj
    simp only [decide_eq_true_eq]
    omega

/-- Read from the right, a line has the same columns in the other order. -/
theorem columnsOf_reverse (cells : List Char) (x : Char) :
    columnsOf cells.reverse x = ((columnsOf cells x).map (cells.length - 1 - ·)).reverse := by
  induction cells with
  | nil => rfl
  | cons c cells ih =>
    have hrest : ((columnsOf cells x).map (1 + ·)).map ((c :: cells).length - 1 - ·) =
        (columnsOf cells x).map (cells.length - 1 - ·) := by
      rw [List.map_map]
      refine List.map_congr_left fun j _ => ?_
      simp only [Function.comp_apply, List.length_cons]
      omega
    rw [List.reverse_cons, columnsOf_append, ih, columnsOf_singleton, columnsOf_cons,
      List.map_append, List.reverse_append, hrest, List.length_reverse]
    split
    · rfl
    · rfl

theorem columnsOf_order (d : Direction) (cells : List Char) (x : Char) :
    columnsOf (d.order cells) x = (d.order (columnsOf cells x)).map (d.place cells.length) := by
  cases d with
  | forward => exact (List.map_id _).symm
  | backward => rw [Direction.order, columnsOf_reverse, Direction.order, List.map_reverse]; rfl

end Columns

/-! ## 2. Occurrences beyond a cursor -/

namespace Direction

/-- Column `j` lies beyond column `i`. -/
def Beyond (d : Direction) (i j : Nat) : Prop :=
  match d with
  | forward => i < j
  | backward => j < i

instance (d : Direction) (i j : Nat) : Decidable (d.Beyond i j) :=
  match d with
  | .forward => inferInstanceAs (Decidable (i < j))
  | .backward => inferInstanceAs (Decidable (j < i))

variable {d : Direction} {i j k : Nat}

theorem mem_order {α : Type} {xs : List α} {a : α} : a ∈ d.order xs ↔ a ∈ xs := by
  cases d with
  | forward => exact Iff.rfl
  | backward => exact List.mem_reverse

theorem Beyond.trans (hij : d.Beyond i j) (hjk : d.Beyond j k) : d.Beyond i k := by
  cases d with
  | forward => exact Nat.lt_trans hij hjk
  | backward => exact Nat.lt_trans hjk hij

theorem not_beyond_self (d : Direction) (i : Nat) : ¬ d.Beyond i i := by
  cases d with
  | forward => exact Nat.lt_irrefl i
  | backward => exact Nat.lt_irrefl i

/-- A reader meets later what lies beyond. -/
theorem place_lt_place {size : Nat} (hi : i ≤ size - 1) (hj : j < size) :
    d.place size i < d.place size j ↔ d.Beyond i j := by
  cases d with
  | forward => exact Iff.rfl
  | backward =>
    simp only [place, Beyond]
    omega

end Direction

namespace Search

/-- The column where a search lands that finds its target in column `j`. -/
def columnFor (s : Search) (j : Nat) : Nat :=
  match s.landing, s.direction with
  | .onTarget, _ => j
  | .besideTarget, .forward => j - 1
  | .besideTarget, .backward => j + 1

theorem columnFor_of_onTarget {s : Search} (hs : s.landing = .onTarget) (j : Nat) :
    s.columnFor j = j := by
  rw [columnFor, hs]

theorem landingAfter?_eq (s : Search) (cells : List Char) (i : Nat) :
    s.landingAfter? cells i = ((columnsOf cells s.target).filter (i < ·)).head?.map fun j =>
      if s.landing = .onTarget then j else j - 1 := by
  rw [landingAfter?, filter_columnsOf, List.head?_map, head?_columnsOf, Option.map_map]
  congr 1
  funext between
  simp only [Function.comp_apply]
  split
  · omega
  · omega

/-- What the reader lands on at a place is in the column for it. -/
theorem place_landing (s : Search) {size i j : Nat} (hi : i ≤ size - 1) (hj : j < size)
    (hbeyond : s.direction.Beyond i j) :
    s.direction.place size (if s.landing = .onTarget then s.direction.place size j
      else s.direction.place size j - 1) = s.columnFor j := by
  obtain ⟨direction, landing, target⟩ := s
  cases direction with
  | forward =>
    cases landing with
    | onTarget => rfl
    | besideTarget => rfl
  | backward =>
    simp only [Direction.Beyond] at hbeyond
    cases landing with
    | onTarget =>
      simp only [Direction.place, columnFor, if_pos]
      omega
    | besideTarget =>
      simp only [Direction.place, columnFor, reduceCtorEq, if_false]
      omega

/-- The cell short of an occurrence beyond column `i` is not before `i`, and the occurrence is the
next cell. -/
theorem beyond_columnFor (s : Search) (hs : s.landing = .besideTarget) {i j k : Nat}
    (hj : s.direction.Beyond i j) :
    s.direction.Beyond (s.columnFor j) k ↔ k = j ∨ s.direction.Beyond j k := by
  cases hd : s.direction with
  | forward =>
    rw [hd] at hj
    simp only [columnFor, hs, hd, Direction.Beyond] at hj ⊢
    omega
  | backward =>
    rw [hd] at hj
    simp only [columnFor, hs, hd, Direction.Beyond] at hj ⊢
    omega

end Search

namespace Buffer

/-- The columns on the line of `p` that hold `x` and lie beyond `p`, the nearest first. -/
def occurrencesBeyond (b : Buffer) (d : Direction) (x : Char) (p : Position) : List Nat :=
  (d.order (columnsOf (b.line p.line) x)).filter (d.Beyond p.col ·)

variable {b : Buffer} {d : Direction} {s : Search} {x : Char} {p q : Position} {line i j n : Nat}
  {js before behind : List Nat}

theorem mem_occurrencesBeyond :
    j ∈ b.occurrencesBeyond d x p ↔ b.charAt ⟨p.line, j⟩ = some x ∧ d.Beyond p.col j := by
  rw [occurrencesBeyond, List.mem_filter, Direction.mem_order, mem_columnsOf, decide_eq_true_eq,
    charAt]

/-- The reader meets the columns one beyond the other. -/
theorem pairwise_order_columnsOf (d : Direction) (cells : List Char) (x : Char) :
    (d.order (columnsOf cells x)).Pairwise d.Beyond := by
  cases d with
  | forward => exact pairwise_columnsOf cells x
  | backward => exact List.pairwise_reverse.mpr (pairwise_columnsOf cells x)

/-- Beyond an occurrence are those that the reader meets after it. -/
theorem occurrencesBeyond_of_split
    (h : d.order (columnsOf (b.line line) x) = before ++ j :: behind) :
    b.occurrencesBeyond d x ⟨line, j⟩ = behind := by
  have hsorted := pairwise_order_columnsOf d (b.line line) x
  rw [h] at hsorted
  obtain ⟨-, hfrom, hbefore⟩ := List.pairwise_append.mp hsorted
  have hnone : before.filter (d.Beyond j ·) = [] := by
    refine List.filter_eq_nil_iff.mpr fun k hk => ?_
    have hkj := hbefore k hk j List.mem_cons_self
    exact fun hjk => d.not_beyond_self k (hkj.trans (of_decide_eq_true hjk))
  have hall : behind.filter (d.Beyond j ·) = behind :=
    List.filter_eq_self.mpr fun k hk => decide_eq_true (List.rel_of_pairwise_cons hfrom hk)
  rw [occurrencesBeyond, h, List.filter_append, hnone, List.nil_append,
    List.filter_cons_of_neg (by simpa using d.not_beyond_self j), hall]

/-- From the nearest occurrence beyond a cell, the others lie beyond. -/
theorem occurrencesBeyond_of_cons (h : b.occurrencesBeyond d x p = j :: js) :
    b.occurrencesBeyond d x ⟨p.line, j⟩ = js := by
  obtain ⟨before, behind, hsplit, -, hj, hjs⟩ := List.filter_eq_cons_iff.mp h
  have hsorted := pairwise_order_columnsOf d (b.line p.line) x
  rw [hsplit] at hsorted
  have hfrom := (List.pairwise_append.mp hsorted).2.1
  rw [occurrencesBeyond_of_split hsplit, ← hjs]
  refine (List.filter_eq_self.mpr fun k hk => ?_).symm
  exact decide_eq_true ((of_decide_eq_true hj).trans (List.rel_of_pairwise_cons hfrom hk))

/-- Short of the nearest occurrence, the same ones lie beyond. -/
theorem occurrencesBeyond_columnFor (hs : s.landing = .besideTarget)
    (h : b.occurrencesBeyond s.direction s.target p = j :: js) :
    b.occurrencesBeyond s.direction s.target ⟨p.line, s.columnFor j⟩ = j :: js := by
  have hj : s.direction.Beyond p.col j :=
    (mem_occurrencesBeyond.mp (h ▸ List.mem_cons_self)).2
  have hsorted := (pairwise_order_columnsOf s.direction (b.line p.line) s.target).filter
    (s.direction.Beyond p.col ·)
  rw [← occurrencesBeyond, h] at hsorted
  rw [← h]
  refine List.filter_congr fun k hk => ?_
  rw [decide_eq_decide, s.beyond_columnFor hs hj]
  constructor
  · rintro (rfl | hjk)
    · exact hj
    · exact hj.trans hjk
  · intro hbeyond
    have hk : k ∈ j :: js := h ▸ List.mem_filter.mpr ⟨hk, decide_eq_true hbeyond⟩
    exact (List.mem_cons.mp hk).imp_right (List.rel_of_pairwise_cons hsorted)

/-- Beyond an occurrence the other way are those that the reader met before it. -/
theorem occurrencesBeyond_reversed_of_split
    (h : d.order (columnsOf (b.line line) x) = before ++ j :: behind) :
    b.occurrencesBeyond d.reversed x ⟨line, j⟩ = before.reverse := by
  have horder : d.reversed.order (columnsOf (b.line line) x) =
      (d.order (columnsOf (b.line line) x)).reverse := by
    cases d with
    | forward => rfl
    | backward => exact (List.reverse_reverse _).symm
  rw [h, List.reverse_append, List.reverse_cons, List.append_assoc, List.singleton_append] at horder
  exact occurrencesBeyond_of_split horder

/-- Of the occurrences seen from the one that a count names, the other way, the same count names the
one under the cursor. -/
theorem getElem?_occurrencesBeyond_reversed (hp : b.charAt p = some x)
    (hj : (b.occurrencesBeyond d x p)[n]? = some j) :
    (b.occurrencesBeyond d.reversed x ⟨p.line, j⟩)[n]? = some p.col := by
  have hmem : p.col ∈ d.order (columnsOf (b.line p.line) x) :=
    Direction.mem_order.mpr (mem_columnsOf.mpr hp)
  obtain ⟨before, behind, hsplit⟩ := List.append_of_mem hmem
  have hbeyond : b.occurrencesBeyond d x p = behind := occurrencesBeyond_of_split hsplit
  rw [hbeyond] at hj
  -- `n` occurrences lie between the two
  obtain ⟨hlt, hget⟩ := List.getElem?_eq_some_iff.mp hj
  have hbehind : behind.take n ++ j :: behind.drop (n + 1) = behind := by
    rw [← hget, ← List.drop_eq_getElem_cons hlt, List.take_append_drop]
  have hback : d.order (columnsOf (b.line p.line) x) =
      (before ++ p.col :: behind.take n) ++ j :: behind.drop (n + 1) := by
    rw [hsplit, List.append_assoc, List.cons_append, hbehind]
  have hlength : (behind.take n).reverse.length = n := by
    rw [List.length_reverse, List.length_take_of_le (Nat.le_of_lt hlt)]
  rw [occurrencesBeyond_reversed_of_split hback, List.reverse_append, List.reverse_cons,
    List.append_assoc, List.getElem?_append_right (Nat.le_of_eq hlength), hlength, Nat.sub_self]
  rfl

/-! ## 3. Searches -/

/-- **A search lands by the nearest occurrence beyond the cursor.** -/
theorem searchOnce_eq (h : b.InBounds p) (s : Search) :
    b.searchOnce s p = (b.occurrencesBeyond s.direction s.target p).head?.map fun j =>
      ⟨p.line, s.columnFor j⟩ := by
  have hcol := h.col_le
  rw [lastCol, lineLength] at hcol
  have hlength : ∀ j ∈ s.direction.order (columnsOf (b.line p.line) s.target),
      j < (b.line p.line).length :=
    fun j hj => lt_length_of_mem_columnsOf (Direction.mem_order.mp hj)
  have hfilter : (s.direction.order (columnsOf (b.line p.line) s.target)).filter
        (fun j => s.direction.place (b.line p.line).length p.col <
          s.direction.place (b.line p.line).length j) =
      b.occurrencesBeyond s.direction s.target p := by
    refine List.filter_congr fun j hj => ?_
    rw [decide_eq_decide]
    exact Direction.place_lt_place hcol (hlength j hj)
  rw [searchOnce, Search.landingAfter?_eq, columnsOf_order, List.filter_map, Function.comp_def,
    hfilter, List.head?_map, Option.map_map, Option.map_map]
  refine Option.map_congr fun j hj => ?_
  have hmem := List.mem_of_mem_head? hj
  have hbeyond := (mem_occurrencesBeyond.mp hmem).2
  simp only [Function.comp_apply]
  rw [s.place_landing hcol (hlength j (List.mem_filter.mp hmem).1) hbeyond]

theorem inBounds_of_mem_occurrencesBeyond (h : b.InBounds p)
    (hj : j ∈ b.occurrencesBeyond d x p) : b.InBounds ⟨p.line, j⟩ := by
  obtain ⟨hlt, -⟩ := List.getElem?_eq_some_iff.mp (mem_occurrencesBeyond.mp hj).1
  exact ⟨h.line_le, Nat.le_sub_one_of_lt hlt⟩

theorem ne_of_mem_occurrencesBeyond (hj : j ∈ b.occurrencesBeyond d x p) :
    (⟨p.line, j⟩ : Position) ≠ p := by
  intro heq
  have hbeyond := (mem_occurrencesBeyond.mp hj).2
  rw [← heq] at hbeyond
  exact d.not_beyond_self j hbeyond

theorem searchTimes_of_nil (h : b.InBounds p)
    (hnil : b.occurrencesBeyond s.direction s.target p = []) (n : Nat) :
    b.searchTimes s (n + 1) p = none := by
  rw [searchTimes, searchOnce_eq h, hnil]
  rfl

/-- A search that finds its target goes on from where it lands, unless it is there already. -/
theorem searchTimes_of_cons (h : b.InBounds p)
    (hcons : b.occurrencesBeyond s.direction s.target p = j :: js) (n : Nat) :
    b.searchTimes s (n + 1) p =
      if (⟨p.line, s.columnFor j⟩ : Position) = p then some p
      else b.searchTimes s n ⟨p.line, s.columnFor j⟩ := by
  rw [searchTimes, searchOnce_eq h, hcons]
  rfl

/-- **A search that lands on its target goes to the occurrence that its count names**, or fails if
there are fewer. -/
theorem searchTimes_onTarget (hs : s.landing = .onTarget) (h : b.InBounds p) (n : Nat) :
    b.searchTimes s (n + 1) p =
      (b.occurrencesBeyond s.direction s.target p)[n]?.map fun j => ⟨p.line, j⟩ := by
  induction n generalizing p with
  | zero =>
    cases hocc : b.occurrencesBeyond s.direction s.target p with
    | nil => exact searchTimes_of_nil h hocc 0
    | cons j js =>
      rw [searchTimes_of_cons h hocc, Search.columnFor_of_onTarget hs]
      split
      · rename_i heq
        exact congrArg some heq.symm
      · rfl
  | succ n ih =>
    cases hocc : b.occurrencesBeyond s.direction s.target p with
    | nil => exact searchTimes_of_nil h hocc (n + 1)
    | cons j js =>
      have hmem : j ∈ b.occurrencesBeyond s.direction s.target p := hocc ▸ List.mem_cons_self
      rw [searchTimes_of_cons h hocc, Search.columnFor_of_onTarget hs,
        if_neg (ne_of_mem_occurrencesBeyond hmem),
        ih (inBounds_of_mem_occurrencesBeyond h hmem), occurrencesBeyond_of_cons hocc]
      rfl

/-- **A search that stops short of its target goes to the cell before the nearest occurrence**,
whatever its count. -/
theorem searchTimes_besideTarget (hs : s.landing = .besideTarget) (h : b.InBounds p) (n : Nat) :
    b.searchTimes s (n + 1) p =
      (b.occurrencesBeyond s.direction s.target p).head?.map fun j => ⟨p.line, s.columnFor j⟩ := by
  cases hocc : b.occurrencesBeyond s.direction s.target p with
  | nil => exact searchTimes_of_nil h hocc n
  | cons j js =>
    have honce := searchOnce_eq h s
    rw [hocc, List.head?_cons, Option.map_some] at honce
    have hin := inBounds_searchOnce h honce
    rw [searchTimes_of_cons h hocc]
    split
    · rename_i heq
      exact congrArg some heq.symm
    · cases n with
      | zero => rfl
      | succ n =>
        rw [searchTimes_of_cons hin (occurrencesBeyond_columnFor hs hocc), if_pos rfl]
        rfl

/-- From `p`, searches for `x` with count `n` lead to the `n`th occurrence beyond `p`, if there are
so many, or to the cell short of the first one, if there is one; else they stay. -/
structure LandsOnOccurrences (b : Buffer) (p : Position) (x : Char) (n : Nat)
    (go : Search → Position) : Prop where
  onTarget : ∀ d, go ⟨d, .onTarget, x⟩ =
    (b.occurrencesBeyond d x p)[n - 1]?.elim p fun col => ⟨p.line, col⟩
  besideForward : go ⟨.forward, .besideTarget, x⟩ =
    (b.occurrencesBeyond .forward x p).head?.elim p fun col => ⟨p.line, col - 1⟩
  besideBackward : go ⟨.backward, .besideTarget, x⟩ =
    (b.occurrencesBeyond .backward x p).head?.elim p fun col => ⟨p.line, col + 1⟩

/-- **Counted searches land on occurrences.** -/
theorem landsOnOccurrences (h : b.InBounds p) (x : Char) (hn : 1 ≤ n) :
    b.LandsOnOccurrences p x n fun s => (b.searchTimes s n p).getD p := by
  obtain ⟨n, rfl⟩ : ∃ k, n = k + 1 := ⟨n - 1, by omega⟩
  have hgetD : ∀ (found : Option Nat) (go : Nat → Position),
      (found.map go).getD p = found.elim p go := by
    intro found go
    cases found with
    | none => rfl
    | some col => rfl
  constructor
  · intro d
    rw [searchTimes_onTarget rfl h, hgetD, Nat.add_sub_cancel]
  · rw [searchTimes_besideTarget rfl h, hgetD]
    rfl
  · rw [searchTimes_besideTarget rfl h, hgetD]
    rfl

/-- **The reversed search leads back.** From an occurrence, the search with the same count the other
way ends where the first one began. -/
theorem searchTimes_reversed (hs : s.landing = .onTarget) (h : b.InBounds p)
    (hp : b.charAt p = some s.target) (hq : b.searchTimes s n p = some q) :
    b.searchTimes s.reversed n q = some p := by
  cases n with
  | zero =>
    cases hq
    rfl
  | succ n =>
    have hin := inBounds_searchTimes h hq
    rw [searchTimes_onTarget hs h] at hq
    obtain ⟨j, hj, rfl⟩ := Option.map_eq_some_iff.mp hq
    have hback := getElem?_occurrencesBeyond_reversed hp hj
    have hreversed := searchTimes_onTarget (s := s.reversed) hs hin n
    exact hreversed.trans (congrArg (Option.map _) hback)

end Buffer

end MotionTutor
