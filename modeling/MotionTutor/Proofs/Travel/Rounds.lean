import MotionTutor.Proofs.Travel.Bounds
import MotionTutor.Proofs.Travel.Landing

/-!
# How many rounds a count takes

A counted motion goes in rounds: what it does once is done again, until the count is used up, a
search fails, or a round does not move. However large the count is, a motion takes no more rounds
than the buffer has cells, and a count as large as that is as good as any larger one
(`Buffer.destination_saturates`).

The reason is one for all motions: a round that moves goes ahead along an order of the cells
(`Buffer.GoesAhead`), so no round begins on a cell where an earlier one began
(`GoesAhead.pairwise_rounds`). The order is not the same for all of them:

* most motions and all searches go on as a reader does in their direction (`Meets`);
* to the first blank line or the last line, a motion may go back to the beginning of the last line;
* to the first character that is not blank, a motion may go to either side, but only once.
-/

namespace MotionTutor

variable {b : Buffer} {body : Position → Option Position} {ahead : Position → Position → Prop}
  {p q r : Position} {n : Nat}

/-! ## 1. The size of a buffer -/

namespace Buffer

/-- The number of cells: each line has as many as it has characters, and at least one. -/
def size (b : Buffer) : Nat := b.lines.foldr (fun cells n => max 1 cells.length + n) 0

theorem mem_cells : p ∈ b.cells ↔ b.InBounds p := by
  have hlast := b.lastLine_add_one
  have hcells : p ∈ b.cells ↔ p.line < b.lines.length ∧ p.col < b.width p.line := by
    obtain ⟨line, col⟩ := p
    simp only [cells, List.mem_flatMap, List.mem_map, List.mem_range, Position.mk.injEq]
    constructor
    · rintro ⟨l, hl, c, hc, rfl, rfl⟩
      exact ⟨hl, hc⟩
    · exact fun h => ⟨line, h.1, col, h.2, rfl, rfl⟩
  rw [hcells, width]
  constructor
  · rintro ⟨hline, hcol⟩
    exact ⟨by omega, by rw [lastCol]; omega⟩
  · rintro ⟨hline, hcol⟩
    rw [lastCol] at hcol
    omega

theorem length_cells (b : Buffer) : b.cells.length = b.size := by
  have hwidths : (List.range b.lines.length).map b.width =
      b.lines.map fun cells => max 1 cells.length := by
    refine List.ext_getElem (by simp) fun n hn hn' => ?_
    rw [List.length_map] at hn'
    rw [List.getElem_map, List.getElem_map, List.getElem_range, width, lineLength, line,
      List.getElem?_eq_getElem hn', Option.getD_some]
  rw [cells, List.length_flatMap]
  simp only [List.length_map, List.length_range]
  rw [hwidths, size, List.sum, List.foldr_map]

theorem length_lines_le_size (b : Buffer) : b.lines.length ≤ b.size := by
  rw [size]
  induction b.lines with
  | nil => exact Nat.le_refl 0
  | cons cells lines ih =>
    rw [List.foldr_cons, List.length_cons]
    omega

theorem lastLine_lt_size (b : Buffer) : b.lastLine < b.size := by
  have hlast := b.lastLine_add_one
  have hle := b.length_lines_le_size
  omega

end Buffer

/-! ## 2. Rounds -/

/-- Does `body` in up to `n` rounds, until it fails or does not move. With the position it comes to,
it gives the cells on which the rounds began, one for each. -/
def inRounds (body : Position → Option Position) : Nat → Position → Option Position × List Position
  | 0, p => (some p, [])
  | n + 1, p =>
    match body p with
    | none => (none, [p])
    | some q =>
      if q = p then (some p, [p])
      else ((inRounds body n q).1, p :: (inRounds body n q).2)

/-- The next round is the last one, or it moves and the rounds go on from there. -/
theorem inRounds_cases (body : Position → Option Position) (p : Position) :
    (∃ found, ∀ n, inRounds body (n + 1) p = (found, [p])) ∨
      ∃ q, body p = some q ∧ q ≠ p ∧
        ∀ n, inRounds body (n + 1) p = ((inRounds body n q).1, p :: (inRounds body n q).2) := by
  cases hbody : body p with
  | none => exact .inl ⟨none, fun n => by rw [inRounds, hbody]⟩
  | some q =>
    by_cases hq : q = p
    · exact .inl ⟨some p, fun n => by simp only [inRounds, hbody, if_pos hq]⟩
    · exact .inr ⟨q, rfl, hq, fun n => by simp only [inRounds, hbody, if_neg hq]⟩

namespace Buffer

/-- A step done as often as a count says goes in rounds. -/
theorem inRounds_step (b : Buffer) (m : Motion) (n : Nat) (p : Position) :
    (inRounds (fun q => some (b.step m q)) n p).1 = some (b.stepTimes m n p) := by
  induction n generalizing p with
  | zero => rfl
  | succ n ih =>
    simp only [inRounds, stepTimes]
    split
    · rfl
    · exact ih _

/-- A search done as often as a count says goes in rounds. -/
theorem inRounds_searchOnce (b : Buffer) (s : Search) (n : Nat) (p : Position) :
    (inRounds (b.searchOnce s) n p).1 = b.searchTimes s n p := by
  induction n generalizing p with
  | zero => rfl
  | succ n ih =>
    rw [inRounds, searchTimes]
    cases b.searchOnce s p with
    | none => rfl
    | some q =>
      simp only
      split
      · rfl
      · exact ih q

/-- Whenever `body` moves, it goes ahead along an order of the cells. -/
structure GoesAhead (b : Buffer) (body : Position → Option Position)
    (ahead : Position → Position → Prop) : Prop where
  irrefl : ∀ p, ¬ ahead p p
  trans : ∀ p q r, ahead p q → ahead q r → ahead p r
  inBounds : ∀ p q, b.InBounds p → body p = some q → b.InBounds q
  moves : ∀ p q, b.InBounds p → body p = some q → q ≠ p → ahead p q

namespace GoesAhead

/-- The rounds begin on cells of the buffer, which lie ahead but for the first one. -/
theorem mem_rounds (h : b.GoesAhead body ahead) (hp : b.InBounds p)
    (hr : r ∈ (inRounds body n p).2) : (r = p ∨ ahead p r) ∧ b.InBounds r := by
  induction n generalizing p with
  | zero => exact absurd hr List.not_mem_nil
  | succ n ih =>
    rcases inRounds_cases body p with ⟨found, hn⟩ | ⟨q, hbody, hq, hn⟩
    · rw [hn] at hr
      rw [List.mem_singleton.1 hr]
      exact ⟨.inl rfl, hp⟩
    · rw [hn] at hr
      rcases List.mem_cons.1 hr with rfl | hr
      · exact ⟨.inl rfl, hp⟩
      · have hpq := h.moves p q hp hbody hq
        obtain ⟨hqr, hin⟩ := ih (h.inBounds p q hp hbody) hr
        refine ⟨.inr ?_, hin⟩
        rcases hqr with rfl | hqr
        · exact hpq
        · exact h.trans p q r hpq hqr

/-- **Each round begins ahead of all rounds before it.** -/
theorem pairwise_rounds (h : b.GoesAhead body ahead) (hp : b.InBounds p) (n : Nat) :
    (inRounds body n p).2.Pairwise ahead := by
  induction n generalizing p with
  | zero => exact List.Pairwise.nil
  | succ n ih =>
    rcases inRounds_cases body p with ⟨found, hn⟩ | ⟨q, hbody, hq, hn⟩
    · rw [hn]
      exact List.pairwise_singleton ahead p
    · rw [hn]
      have hin := h.inBounds p q hp hbody
      have hpq := h.moves p q hp hbody hq
      refine List.Pairwise.cons (fun r hr => ?_) (ih hin)
      rcases (h.mem_rounds hin hr).1 with rfl | hqr
      · exact hpq
      · exact h.trans p q r hpq hqr

/-- **There are no more rounds than cells.** -/
theorem length_rounds_le (h : b.GoesAhead body ahead) (hp : b.InBounds p) (n : Nat) :
    (inRounds body n p).2.length ≤ b.size := by
  have hnodup : (inRounds body n p).2.Nodup := by
    refine (h.pairwise_rounds hp n).imp ?_
    rintro r s hrs rfl
    exact h.irrefl r hrs
  rw [← b.length_cells]
  exact hnodup.length_le_of_subset fun r hr => mem_cells.2 (h.mem_rounds hp hr).2

end GoesAhead

/-- A count that the rounds never use up may as well be larger. -/
theorem inRounds_of_length_le {most : Nat} (h : ∀ n, (inRounds body n p).2.length ≤ most)
    (hn : most ≤ n) : (inRounds body n p).1 = (inRounds body most p).1 := by
  induction most generalizing n p with
  | zero =>
    cases n with
    | zero => rfl
    | succ n =>
      have hlength := h (n + 1)
      rcases inRounds_cases body p with ⟨found, heq⟩ | ⟨q, -, -, heq⟩
      · rw [heq] at hlength
        exact absurd hlength (Nat.not_succ_le_zero _)
      · rw [heq] at hlength
        exact absurd hlength (Nat.not_succ_le_zero _)
  | succ most ih =>
    obtain ⟨n, rfl⟩ : ∃ k, n = k + 1 := ⟨n - 1, by omega⟩
    rcases inRounds_cases body p with ⟨found, heq⟩ | ⟨q, -, -, heq⟩
    · rw [heq, heq]
    · rw [heq, heq]
      refine ih (fun k => ?_) (Nat.le_of_succ_le_succ hn)
      have hlength := h (k + 1)
      rw [heq] at hlength
      exact Nat.le_of_succ_le_succ hlength

/-! ## 3. Every motion goes ahead -/

theorem goesAhead_of_meets (d : Direction)
    (hin : ∀ p q, b.InBounds p → body p = some q → b.InBounds q)
    (hmeets : ∀ p q, b.InBounds p → body p = some q → q ≠ p → Meets d p q) :
    b.GoesAhead body (Meets d) where
  irrefl := meets_irrefl d
  trans _ _ _ := meets_trans d
  inBounds := hin
  moves := hmeets

/-- The cell at which the text ends lies ahead of every other one. -/
theorem meets_farthestCell (h : b.InBounds p) (d : Direction) (hne : b.farthestCell d ≠ p) :
    Meets d p (b.farthestCell d) := by
  obtain ⟨line, col⟩ := p
  obtain ⟨hline, hcol⟩ := h
  cases d with
  | forward =>
    simp only [Meets, farthestCell, Position.lt_def] at hne ⊢
    rcases Nat.lt_or_eq_of_le hline with hlt | heq
    · exact .inl hlt
    · simp only at heq
      subst heq
      refine .inr ⟨rfl, Nat.lt_of_le_of_ne hcol fun heq => hne ?_⟩
      rw [heq]
  | backward =>
    simp only [Meets, farthestCell, Position.origin, Position.lt_def, ne_eq, Position.mk.injEq]
      at hne ⊢
    omega

theorem meets_wordStep {classOf : Char → CharClass} {travel : WordTravel} (h : b.InBounds p)
    (hne : b.wordStep classOf travel p ≠ p) :
    Meets travel.direction p (b.wordStep classOf travel p) := by
  rcases wordStep_nearest classOf travel h with hstop | ⟨-, hend⟩
  · exact hstop.meets
  · rw [hend] at hne ⊢
    split at hne
    · exact absurd rfl hne
    · rename_i htravel
      rw [if_neg htravel]
      exact meets_farthestCell h _ hne

/-- On one line the columns tell which cell lies ahead. -/
theorem meets_forward_of_col {col : Nat} (hne : (⟨p.line, col⟩ : Position) ≠ p)
    (hcol : p.col ≤ col) : Meets .forward p ⟨p.line, col⟩ := by
  refine .inr ⟨rfl, Nat.lt_of_le_of_ne hcol ?_⟩
  rintro rfl
  exact hne rfl

theorem meets_backward_of_col {col : Nat} (hne : (⟨p.line, col⟩ : Position) ≠ p)
    (hcol : col ≤ p.col) : Meets .backward p ⟨p.line, col⟩ := by
  refine .inr ⟨rfl, Nat.lt_of_le_of_ne hcol ?_⟩
  rintro rfl
  exact hne rfl

/-- A step that is made only in some cases goes ahead if it does so in these. -/
theorem meets_ite {c : Prop} [Decidable c] {d : Direction} (h : c → Meets d p q)
    (hne : (if c then q else p) ≠ p) : Meets d p (if c then q else p) := by
  split at hne
  · rename_i hc
    rw [if_pos hc]
    exact h hc
  · exact absurd rfl hne

/-- The motion to the next blank line leads to a later line, or to the start of the last one. -/
theorem goesAhead_paragraphForward (b : Buffer) :
    b.GoesAhead (fun q => some (b.step .paragraphForward q))
      (fun p q => p.line < q.line ∨ p.line = q.line ∧ q.col < p.col) where
  irrefl p := by omega
  trans p q r := by omega
  inBounds p q hp hq := by
    cases hq
    exact inBounds_step hp _
  moves p q hp hq hne := by
    cases hq
    obtain ⟨line, col⟩ := p
    have hline := hp.line_le
    simp only [step, blankLineAfter, ne_eq, Position.mk.injEq] at hline hne ⊢
    omega

/-- The motion to the first character that is not blank is there at once. -/
theorem goesAhead_firstNonBlank (b : Buffer) :
    b.GoesAhead (fun q => some (b.step .firstNonBlank q))
      (fun p q => p ≠ b.firstNonBlank p.line ∧ q = b.firstNonBlank q.line) where
  irrefl p h := h.1 h.2
  trans p q r hpq hqr := absurd hpq.2 hqr.1
  inBounds p q hp hq := by
    cases hq
    exact inBounds_step hp _
  moves p q _ hq hne := by
    cases hq
    exact ⟨hne.symm, rfl⟩

/-- **Every step goes ahead.** -/
theorem exists_goesAhead_step (b : Buffer) (m : Motion) :
    ∃ ahead, b.GoesAhead (fun q => some (b.step m q)) ahead := by
  have hin : ∀ p q, b.InBounds p → some (b.step m p) = some q → b.InBounds q := by
    intro p q hp hq
    cases hq
    exact inBounds_step hp m
  have hmeets : ∀ d, (∀ p, b.InBounds p → b.step m p ≠ p → Meets d p (b.step m p)) →
      ∃ ahead, b.GoesAhead (fun q => some (b.step m q)) ahead := by
    refine fun d h => ⟨Meets d, goesAhead_of_meets d hin fun p q hp hq hne => ?_⟩
    cases hq
    exact h p hp hne
  cases m with
  | word travel size => exact hmeets travel.direction fun p hp hne => meets_wordStep hp hne
  | firstNonBlank => exact ⟨_, b.goesAhead_firstNonBlank⟩
  | paragraphForward => exact ⟨_, b.goesAhead_paragraphForward⟩
  | lineStart =>
    exact hmeets .backward fun p _ hne => meets_backward_of_col hne (Nat.zero_le _)
  | lineEnd => exact hmeets .forward fun p hp hne => meets_forward_of_col hne hp.col_le
  | left => exact hmeets .backward fun p _ hne => meets_backward_of_col hne (Nat.sub_le _ _)
  | right =>
    exact hmeets .forward fun p hp hne =>
      meets_forward_of_col hne (Nat.le_min.2 ⟨Nat.le_succ _, hp.col_le⟩)
  | down =>
    refine hmeets .forward fun p _ hne => meets_ite (fun hline => ?_) hne
    exact .inl (Nat.lt_min.2 ⟨Nat.lt_succ_self _, hline⟩)
  | up =>
    refine hmeets .backward fun p _ hne => meets_ite (fun hline => ?_) hne
    exact .inl (Nat.lt_of_le_of_lt (Nat.min_le_left _ _) (Nat.sub_lt hline Nat.one_pos))
  | nextLine =>
    exact hmeets .forward fun p _ hne => meets_ite (fun _ => .inl (Nat.lt_succ_self _)) hne
  | prevLine =>
    refine hmeets .backward fun p _ hne => meets_ite (fun hline => ?_) hne
    exact .inl (Nat.sub_lt hline Nat.one_pos)
  | paragraphBackward =>
    refine hmeets .backward fun p _ hne => ?_
    obtain ⟨line, col⟩ := p
    simp only [step, blankLineBefore, Meets, Position.lt_def, ne_eq, Position.mk.injEq] at hne ⊢
    omega
  | _ => exact hmeets .forward fun p _ hne => absurd rfl hne

theorem le_of_landingAfter? {s : Search} {cells : List Char} {i j : Nat}
    (h : s.landingAfter? cells i = some j) : i ≤ j := by
  obtain ⟨between, -, hj⟩ := Option.map_eq_some_iff.mp h
  split at hj
  · omega
  · omega

/-- **Every search goes ahead in its direction.** -/
theorem goesAhead_searchOnce (b : Buffer) (s : Search) :
    b.GoesAhead (b.searchOnce s) (Meets s.direction) := by
  refine goesAhead_of_meets s.direction (fun p q => inBounds_searchOnce) fun p q hp hq hne => ?_
  obtain ⟨j, hj, rfl⟩ := Option.map_eq_some_iff.mp hq
  have hle := le_of_landingAfter? hj
  have hlt := landingAfter?_lt hj
  rw [Direction.length_order] at hlt
  have hcol := hp.col_le
  rw [lastCol, lineLength] at hcol
  cases hd : s.direction with
  | forward =>
    rw [hd] at hle hne
    exact meets_forward_of_col hne hle
  | backward =>
    rw [hd] at hle hne
    simp only [Direction.place] at hle hne ⊢
    exact meets_backward_of_col hne (by omega)

/-! ## 4. Counted motions -/

/-- Where a counted motion leads from `p`, with the cells on which the rounds of its loop began. The
motions that reckon with the count have no loop. -/
def destinationInRounds (b : Buffer) (last : Option Search) (m : Motion) (count : Option Nat)
    (p : Position) : Option Position × List Position :=
  let times := timesOf count
  match m with
  | .firstLine => (some (b.firstNonBlank (b.countedLine count 0)), [])
  | .lastLine => (some (b.firstNonBlank (b.countedLine count b.lastLine)), [])
  | .currentLine => (some (b.firstNonBlank (min (p.line + (times - 1)) b.lastLine)), [])
  | .search s => inRounds (b.searchOnce s) times p
  | .repeatSearch => last.elim (none, []) fun s => inRounds (b.searchOnce s) times p
  | .repeatSearchReversed =>
    last.elim (none, []) fun s => inRounds (b.searchOnce s.reversed) times p
  | m => inRounds (fun q => some (b.step m q)) times p

/-- Counting the rounds changes nothing. -/
theorem destinationInRounds_fst (b : Buffer) (last : Option Search) (m : Motion)
    (count : Option Nat) (p : Position) :
    (b.destinationInRounds last m count p).1 = b.destination last m count p := by
  cases m with
  | firstLine | lastLine | currentLine => rfl
  | search s => exact b.inRounds_searchOnce s _ p
  | repeatSearch =>
    cases last with
    | none => rfl
    | some s => exact b.inRounds_searchOnce s _ p
  | repeatSearchReversed =>
    cases last with
    | none => rfl
    | some s => exact b.inRounds_searchOnce s.reversed _ p
  | _ => exact b.inRounds_step _ _ p

/-- A counted motion reckons with its count, or fails at once, or goes ahead in rounds. -/
theorem destinationInRounds_cases (b : Buffer) (last : Option Search) (m : Motion) :
    (m = .firstLine ∨ m = .lastLine ∨ m = .currentLine) ∨
      (∀ count p, b.destinationInRounds last m count p = (none, [])) ∨
      ∃ body ahead, b.GoesAhead body ahead ∧
        ∀ count p, b.destinationInRounds last m count p = inRounds body (timesOf count) p := by
  cases m with
  | firstLine => exact .inl (.inl rfl)
  | lastLine => exact .inl (.inr (.inl rfl))
  | currentLine => exact .inl (.inr (.inr rfl))
  | search s => exact .inr (.inr ⟨_, _, b.goesAhead_searchOnce s, fun _ _ => rfl⟩)
  | repeatSearch =>
    cases last with
    | none => exact .inr (.inl fun _ _ => rfl)
    | some s => exact .inr (.inr ⟨_, _, b.goesAhead_searchOnce s, fun _ _ => rfl⟩)
  | repeatSearchReversed =>
    cases last with
    | none => exact .inr (.inl fun _ _ => rfl)
    | some s => exact .inr (.inr ⟨_, _, b.goesAhead_searchOnce s.reversed, fun _ _ => rfl⟩)
  | _ =>
    obtain ⟨ahead, hahead⟩ := b.exists_goesAhead_step _
    exact .inr (.inr ⟨_, ahead, hahead, fun _ _ => rfl⟩)

/-- A motion takes no more rounds than the buffer has cells. -/
theorem length_destinationInRounds_le (h : b.InBounds p) (last : Option Search) (m : Motion)
    (count : Option Nat) : (b.destinationInRounds last m count p).2.length ≤ b.size := by
  rcases b.destinationInRounds_cases last m with (rfl | rfl | rfl) | heq | ⟨body, ahead, ha, heq⟩
  · exact Nat.zero_le _
  · exact Nat.zero_le _
  · exact Nat.zero_le _
  · rw [heq]
    exact Nat.zero_le _
  · rw [heq]
    exact ha.length_rounds_le h _

/-- A count as large as the buffer names its last line. -/
theorem countedLine_of_size_le (hn : b.size ≤ n) (line : Nat) :
    b.countedLine (some n) line = b.lastLine := by
  have hlast := b.lastLine_lt_size
  exact Nat.min_eq_right (Nat.le_sub_one_of_lt (Nat.lt_of_lt_of_le hlast hn))

theorem timesOf_of_size_le (hn : b.size ≤ n) : timesOf (some n) = n :=
  Nat.max_eq_right (Nat.le_trans (Nat.succ_le_of_lt (Nat.zero_lt_of_lt b.lastLine_lt_size)) hn)

/-- A count as large as the buffer is as good as a larger one. -/
theorem destination_of_size_le (h : b.InBounds p) (last : Option Search) (m : Motion)
    (hn : b.size ≤ n) :
    b.destination last m (some n) p = b.destination last m (some b.size) p := by
  have hlast := b.lastLine_lt_size
  rcases b.destinationInRounds_cases last m with (rfl | rfl | rfl) | heq | ⟨body, ahead, ha, heq⟩
  · simp only [destination, countedLine_of_size_le hn, countedLine_of_size_le (Nat.le_refl _)]
  · simp only [destination, countedLine_of_size_le hn, countedLine_of_size_le (Nat.le_refl _)]
  · simp only [destination, timesOf_of_size_le hn, timesOf_of_size_le (Nat.le_refl b.size)]
    rw [Nat.min_eq_right (by omega), Nat.min_eq_right (by omega)]
  · rw [← destinationInRounds_fst, ← destinationInRounds_fst, heq, heq]
  · rw [← destinationInRounds_fst, ← destinationInRounds_fst, heq, heq, timesOf_of_size_le hn,
      timesOf_of_size_le (Nat.le_refl b.size)]
    exact inRounds_of_length_le (ha.length_rounds_le h) hn

/-- **Huge counts saturate at the size of the buffer.** From a cell of the buffer, after any search,
a motion with a count of at least the number of cells leads where it leads with that number; and
whatever the count, it takes no more rounds than there are cells. -/
theorem destination_saturates (h : b.InBounds p) (last : Option Search) (m : Motion) :
    (∀ n, b.size ≤ n →
      b.destination last m (some n) p = b.destination last m (some b.size) p) ∧
    ∀ count, (b.destinationInRounds last m count p).1 = b.destination last m count p ∧
      (b.destinationInRounds last m count p).2.length ≤ b.size :=
  ⟨fun _ hn => destination_of_size_le h last m hn,
    fun count => ⟨b.destinationInRounds_fst last m count p,
      length_destinationInRounds_le h last m count⟩⟩

/-- The motion to the next blank line steps back from the end of the last line, and is stuck then;
a search that stops short of its target is stuck at once. -/
theorem destination_saturates_stuck :
    let b := ofTexts ["a", "", "  x.y"]
    b.InBounds ⟨2, 4⟩ ∧
      b.destination none .paragraphForward (some maxCount) ⟨2, 4⟩ =
        b.destination none .paragraphForward (some 7) ⟨2, 4⟩ ∧
      b.destination none (.search ⟨.backward, .besideTarget, '.'⟩) (some maxCount) ⟨2, 4⟩ =
        b.destination none (.search ⟨.backward, .besideTarget, '.'⟩) (some 7) ⟨2, 4⟩ ∧
      b.destinationInRounds none .paragraphForward (some 7) ⟨2, 4⟩ =
        (some ⟨2, 0⟩, [⟨2, 4⟩, ⟨2, 0⟩]) := by
  have h : (ofTexts ["a", "", "  x.y"]).InBounds ⟨2, 4⟩ := ⟨by decide, by decide⟩
  have hsize : (ofTexts ["a", "", "  x.y"]).size = 7 := by decide
  have hmax : (ofTexts ["a", "", "  x.y"]).size ≤ maxCount := by decide
  have hparagraph := (destination_saturates h none .paragraphForward).1 maxCount hmax
  have hsearch :=
    (destination_saturates h none (.search ⟨.backward, .besideTarget, '.'⟩)).1 maxCount hmax
  rw [hsize] at hparagraph hsearch
  exact ⟨h, hparagraph, hsearch, by decide +kernel⟩

end Buffer

end MotionTutor
