import MotionTutor.Proofs.Checked.Objects

/-!
# Tagged elements by places

The tags of a line are cut out between the columns of their brackets, and the tags that are open
are kept in the order in which they were opened, the nearest one last. A closing tag looks for the
last open tag of its name and drops the open tags from there on. No cut and no look-up faults
(`tagColumns_eq`); read backwards, the open tags are the stack of `matchTags`.
-/

namespace MotionTutor.Checked

variable {cells : List Char}

/-! ## 1. The tags of a line -/

theorem lt_of_findUp {passes : Nat → Checked Bool} {stop i j : Nat}
    (h : findUp passes stop i = .ok (some j)) : i ≤ j ∧ j < stop := by
  induction i using findUp.induct stop with
  | case1 i hi ih =>
    rw [findUp, if_pos hi] at h
    cases hp : passes i with
    | error fault =>
      rw [hp] at h
      cases h
    | ok here =>
      rw [hp, ok_bind] at h
      cases here with
      | true =>
        cases h
        exact ⟨Nat.le_refl _, hi⟩
      | false =>
        have hrest := ih h
        omega
  | case2 i hi =>
    rw [findUp, if_neg hi] at h
    cases h

/-- Whether the character at a column closes a tag. -/
def closesTag (cells : List Char) (i : Nat) : Checked Bool := do return (← get cells i) == '>'

/-- The tags from column `i` on. -/
def tagsAt (cells : List Char) (i : Nat) : Checked (List Tag) :=
  if i < cells.length then do
    if (← get cells i) = '<' then
      match _found : findUp (closesTag cells) cells.length (i + 1) with
      | .error fault => .error fault
      | .ok none => return []
      | .ok (some stop) =>
        let inner ← slice cells (i + 1) stop
        return (Tag.ofInner? inner ⟨i, stop⟩).toList ++ (← tagsAt cells (stop + 1))
    else tagsAt cells (i + 1)
  else return []
termination_by cells.length - i
decreasing_by
  · have := lt_of_findUp _found
    omega
  · omega

/-- Behind an opening bracket the tag goes to the next closing one, if there is one. -/
theorem tagsFrom_inside (start : Nat) (inner : List Char) (i : Nat) (rest : List Char) :
    tagsFrom (some (start, inner)) i rest = match rest.findIdx? (· == '>') with
      | none => []
      | some k => (Tag.ofInner? (inner.reverse ++ rest.take k) ⟨start, i + k⟩).toList ++
          tagsFrom none (i + k + 1) (rest.drop (k + 1)) := by
  induction rest generalizing inner i with
  | nil => rfl
  | cons c rest ih =>
    rw [tagsFrom, List.findIdx?_cons]
    by_cases hc : c = '>'
    · rw [if_pos hc, if_pos (beq_iff_eq.mpr hc)]
      simp only [List.take_zero, List.append_nil, Nat.add_zero, List.drop_succ_cons, List.drop_zero]
    · rw [if_neg hc, if_neg (fun h => hc (beq_iff_eq.mp h)), ih]
      cases rest.findIdx? (· == '>') with
      | none => rfl
      | some k =>
        simp only [Option.map_some, List.reverse_cons, List.append_assoc, List.singleton_append,
          List.take_succ_cons, List.drop_succ_cons, Nat.add_assoc, Nat.add_comm 1]

theorem tagsAt_of_found {i stop : Nat} (hi : i < cells.length) (hc : cells[i] = '<')
    (h : findUp (closesTag cells) cells.length (i + 1) = .ok (some stop)) :
    tagsAt cells i = do
      let inner ← slice cells (i + 1) stop
      return (Tag.ofInner? inner ⟨i, stop⟩).toList ++ (← tagsAt cells (stop + 1)) := by
  rw [tagsAt, if_pos hi, get_of_lt hi, ok_bind, if_pos hc]
  split
  · rename_i hs
    rw [h] at hs
    cases hs
  · rename_i hs
    rw [h] at hs
    cases hs
  · rename_i hs
    rw [h] at hs
    cases hs
    rfl

theorem tagsAt_of_end {i : Nat} (hi : i < cells.length) (hc : cells[i] = '<')
    (h : findUp (closesTag cells) cells.length (i + 1) = .ok none) : tagsAt cells i = .ok [] := by
  rw [tagsAt, if_pos hi, get_of_lt hi, ok_bind, if_pos hc]
  split
  · rename_i hs
    rw [h] at hs
    cases hs
  · rfl
  · rename_i hs
    rw [h] at hs
    cases hs

theorem findUp_closesTag (cells : List Char) (i : Nat) :
    findUp (closesTag cells) cells.length i =
      .ok (((cells.drop i).findIdx? (· == '>')).map (i + ·)) := by
  rw [← placeFrom?_eq]
  refine findUp_eq (· == '>') i ?_
  intro j hj
  rw [closesTag, get_of_lt hj]
  rfl

theorem tagsAt_eq (cells : List Char) (i : Nat) :
    tagsAt cells i = .ok (tagsFrom none i (cells.drop i)) := by
  induction hn : cells.length - i using Nat.strongRecOn generalizing i with
  | ind n ih =>
    by_cases hi : i < cells.length
    · rw [List.drop_eq_getElem_cons hi, tagsFrom]
      by_cases hc : cells[i] = '<'
      · have hfound := findUp_closesTag cells (i + 1)
        rw [if_pos hc, tagsFrom_inside]
        cases hk : (cells.drop (i + 1)).findIdx? (· == '>') with
        | none =>
          rw [hk] at hfound
          exact tagsAt_of_end hi hc hfound
        | some k =>
          rw [hk] at hfound
          obtain ⟨-, hstop⟩ := lt_of_findUp hfound
          rw [tagsAt_of_found hi hc hfound, slice_of_le (Nat.le_add_right _ _) (Nat.le_of_lt hstop),
            ih _ (by omega) (i + 1 + k + 1) rfl, List.drop_take, Nat.add_sub_cancel_left]
          simp only [ok_bind, List.reverse_nil, List.nil_append, List.drop_drop, Nat.add_assoc]
          rfl
      · rw [tagsAt, if_pos hi, get_of_lt hi, ok_bind, if_neg hc, if_neg hc]
        exact ih _ (by omega) (i + 1) rfl
    · rw [tagsAt, if_neg hi, List.drop_eq_nil_of_le (Nat.le_of_not_lt hi)]
      rfl

/-! ## 2. Matching -/

/-- Whether an open tag has a name. -/
def isNamed (name : List Char) (opened : List Tag) (i : Nat) : Checked Bool := do
  return (← get opened i).name == name

/-- An element replaces the best one so far if it contains the column and opens later. -/
def betterAt (col : Nat) (best : Option Element) (e : Element) : Option Element :=
  if e.opening.first ≤ col ∧ col ≤ e.closing.last ∧ best.all (·.opening.first < e.opening.first)
  then some e else best

/-- The innermost element at a column. `opened` holds the open tags, the nearest one last; `best` is
the innermost element so far. -/
def matchAt (col : Nat) (opened : List Tag) (best : Option Element) :
    List Tag → Checked (Option Element)
  | [] => return best
  | t :: tags => do
    if !t.closing then matchAt col (opened ++ [t]) best tags
    else
      match ← findDown (isNamed t.name opened) opened.length with
      | none => matchAt col opened best tags
      | some i =>
        let start ← get opened i
        matchAt col (opened.take i) (betterAt col best ⟨start.columns, t.columns⟩) tags

/-- The tagged element at a column. -/
def tagColumns (around : Bool) (cells : List Char) (col : Nat) : Checked (Option Columns) := do
  match ← matchAt col [] none (← tagsAt cells 0) with
  | none => return none
  | some e =>
    if around then return some ⟨e.opening.first, e.closing.last⟩
    else between e.opening.last e.closing.first

/-- The nearest open tag of a name is the first one of the stack. -/
theorem takeOpen_eq (name : List Char) (stack : List Tag) :
    takeOpen name stack = (stack.findIdx? (·.name == name)).bind fun k =>
      stack[k]?.map (·, stack.drop (k + 1)) := by
  induction stack with
  | nil => rfl
  | cons t stack ih =>
    rw [takeOpen, List.findIdx?_cons]
    by_cases ht : t.name = name
    · rw [if_pos ht, if_pos (beq_iff_eq.mpr ht)]
      rfl
    · rw [if_neg ht, if_neg (fun h => ht (beq_iff_eq.mp h)), ih]
      cases stack.findIdx? (·.name == name) with
      | none => rfl
      | some k => rfl

theorem isNamed_eq (name : List Char) (opened : List Tag) : ∀ i (hi : i < opened.length),
    isNamed name opened i = .ok (opened[i].name == name) := by
  intro i hi
  rw [isNamed, get_of_lt hi]
  rfl

theorem betterAt_eq (col : Nat) (best : Option Element) (e : Element) :
    betterAt col best e = if e.contains col then Element.inner best e else best := by
  rw [betterAt, Element.contains]
  by_cases hcol : e.opening.first ≤ col ∧ col ≤ e.closing.last
  · have hcontains : (decide (e.opening.first ≤ col) && decide (col ≤ e.closing.last)) = true := by
      rw [decide_eq_true hcol.1, decide_eq_true hcol.2]
      rfl
    rw [if_pos hcontains]
    cases best with
    | none => exact if_pos ⟨hcol.1, hcol.2, rfl⟩
    | some f =>
      rw [Element.inner]
      by_cases hlater : f.opening.first < e.opening.first
      · rw [if_pos hlater, if_pos ⟨hcol.1, hcol.2, decide_eq_true hlater⟩]
      · rw [if_neg hlater, if_neg (fun h => hlater (of_decide_eq_true h.2.2))]
  · rw [if_neg (fun h => hcol ⟨h.1, h.2.1⟩), if_neg]
    rw [Bool.and_eq_true, decide_eq_true_eq, decide_eq_true_eq]
    exact hcol

theorem matchAt_eq (col : Nat) (opened : List Tag) (best : Option Element) (tags : List Tag) :
    matchAt col opened best tags =
      .ok (((matchTags opened.reverse tags).filter (·.contains col)).foldl Element.inner best) := by
  induction tags generalizing opened best with
  | nil =>
    rw [matchAt, matchTags]
    rfl
  | cons t tags ih =>
    rw [matchAt, matchTags]
    cases t.closing with
    | false =>
      rw [Bool.not_false, if_pos rfl, if_neg (by decide), ih, List.reverse_append]
      rfl
    | true =>
      have hdown := findDown_eq (fun u : Tag => u.name == t.name) (isNamed_eq t.name opened)
        (Nat.le_refl _)
      rw [placeBefore?_eq _ (Nat.le_refl _), List.take_length] at hdown
      rw [Bool.not_true, if_neg (by decide), if_pos rfl, hdown, ok_bind, takeOpen_eq]
      cases hk : opened.reverse.findIdx? (·.name == t.name) with
      | none => exact ih opened best
      | some k =>
        obtain ⟨hlt, -⟩ := List.findIdx?_eq_some_iff_getElem.mp hk
        rw [List.length_reverse] at hlt
        have hplace : opened.length - 1 - k < opened.length := by omega
        have hleft : opened.length - (k + 1) = opened.length - 1 - k := by omega
        simp only [Option.map_some, Option.bind_some, List.getElem?_reverse hlt,
          List.getElem?_eq_getElem hplace, get_of_lt hplace, ok_bind, List.drop_reverse, hleft]
        rw [ih, betterAt_eq, List.filter_cons]
        split
        · rfl
        · rfl

theorem tagColumns_eq (around : Bool) (cells : List Char) (col : Nat) :
    tagColumns around cells col = .ok (tagObject around cells col) := by
  have hbest := matchAt_eq col [] none (tagsFrom none 0 cells)
  have helement : (List.foldl Element.inner none ((matchTags ([] : List Tag).reverse
      (tagsFrom none 0 cells)).filter (·.contains col))) = elementAt? cells col := rfl
  rw [tagColumns, tagsAt_eq, List.drop_zero, ok_bind, hbest, ok_bind, tagObject, helement]
  cases elementAt? cells col with
  | none => rfl
  | some e =>
    cases around with
    | true => rfl
    | false => exact between_eq _ _

end MotionTutor.Checked
