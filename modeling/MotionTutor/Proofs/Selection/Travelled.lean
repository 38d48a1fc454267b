import MotionTutor.Proofs.Selection.WellFormed
import MotionTutor.Proofs.Simulation.Composition
import MotionTutor.Proofs.Travel.Occurrences
import MotionTutor.Proofs.Travel.Rounds

/-!
# What an operator selects

An operator selects what its motion travels over (`Buffer.SelectsTravelled`,
`Buffer.selectsTravelled_selectMotion`). From the cursor `p` to the cell `d` where the motion leads,
in either order, these are

* nothing, if the motion is a search that fails (`Buffer.SearchFails`);
* the lines between the two, if the motion goes by lines;
* both cells and those between them, under the visual operator and with the motions that take
  their end (`Motion.TakesEnd`);
* else all of these but the one that comes last in reading order;
* with the motion to the next word, no more of these than stand on the line of the cursor.

That an exclusive region ends on the cell before its far end means no more than that it has the
cells before that end (`Buffer.le_stepBack_iff`), also where this cell is the last one of the line
above. Selections are therefore described by the cells they have (`Buffer.Selects`).
-/

namespace MotionTutor

namespace Position

/-- The one of two positions that comes first in reading order. -/
def earlier (p q : Position) : Position := if q < p then q else p

/-- The one of two positions that comes last in reading order. -/
def later (p q : Position) : Position := if q < p then p else q

variable {p q : Position}

theorem earlier_of_le (h : p ≤ q) : p.earlier q = p := if_neg (not_lt_of_le h)

theorem later_of_le (h : p ≤ q) : p.later q = q := if_neg (not_lt_of_le h)

theorem earlier_eq_later_iff : p.earlier q = p.later q ↔ p = q := by
  unfold earlier later
  split
  · exact eq_comm
  · exact Iff.rfl

end Position

/-! ## 1. Motions under an operator -/

namespace Search

variable {s : Search}

theorem isForward_iff : s.isForward = true ↔ s.direction = .forward := decide_eq_true_iff

theorem isForward_reversed_iff : s.reversed.isForward = true ↔ s.direction = .backward := by
  obtain ⟨direction, landing, target⟩ := s
  cases direction with
  | forward => exact iff_of_false Bool.false_ne_true nofun
  | backward => exact iff_of_true rfl rfl

end Search

namespace Motion

/-- Under an operator these motions take the cell they lead to: to the end of a word, to the end of
the line, and the searches that go forward, repeated ones among them. -/
inductive TakesEnd (last : Option Search) : Motion → Prop
  | wordEnd (size : WordSize) : TakesEnd last (.word .nextEnd size)
  | wordEndBefore (size : WordSize) : TakesEnd last (.word .prevEnd size)
  | lineEnd : TakesEnd last .lineEnd
  | search {s : Search} (h : s.direction = .forward) : TakesEnd last (.search s)
  | again {s : Search} (hs : last = some s) (h : s.direction = .forward) :
      TakesEnd last .repeatSearch
  | back {s : Search} (hs : last = some s) (h : s.direction = .backward) :
      TakesEnd last .repeatSearchReversed

/-- The motion to the next word, which under an operator goes no further than to the end of the line
that it starts on. -/
def toNextWord : Motion → Bool
  | word .nextStart _ => true
  | _ => false

variable {m : Motion} {last : Option Search}

/-- **The regions that include their end are those of the motions that take it.** -/
theorem isInclusive_iff : m.isInclusive last = true ↔ m.TakesEnd last := by
  constructor
  · intro h
    cases m with
    | word travel size =>
      cases travel with
      | nextEnd => exact .wordEnd size
      | prevEnd => exact .wordEndBefore size
      | nextStart | prevStart => cases h
    | lineEnd => exact .lineEnd
    | search s => exact .search (Search.isForward_iff.mp h)
    | repeatSearch =>
      obtain ⟨s, hs, hforward⟩ := (Option.any_eq_true _ _).mp h
      exact .again hs (Search.isForward_iff.mp hforward)
    | repeatSearchReversed =>
      obtain ⟨s', hs', hforward⟩ := (Option.any_eq_true _ _).mp h
      obtain ⟨s, hs, rfl⟩ := Option.map_eq_some_iff.mp hs'
      exact .back hs (Search.isForward_reversed_iff.mp hforward)
    | _ => cases h
  · intro h
    cases h with
    | wordEnd size | wordEndBefore size | lineEnd => rfl
    | search h => exact Search.isForward_iff.mpr h
    | again hs h =>
      subst hs
      exact Search.isForward_iff.mpr h
    | back hs h =>
      subst hs
      exact Search.isForward_reversed_iff.mpr h

theorem not_toNextWord_of_isLinewise (h : m.isLinewise = true) : m.toNextWord = false := by
  cases m with
  | word travel size => cases h
  | _ => rfl

theorem underOperator_of_not_toNextWord (h : m.toNextWord = false) (operator : Operator)
    (c : Option Char) : m.underOperator operator c = m := by
  cases m with
  | word travel size =>
    cases travel with
    | nextStart => cases h
    | _ => rfl
  | _ => rfl

end Motion

namespace Buffer

variable {b : Buffer} {last : Option Search} {m : Motion} {count : Option Nat}
  {operator : Operator} {p q d : Position}

/-! ## 2. Searches that fail -/

/-- From `p` the motion is a search that fails: it repeats a search and there was none, or fewer
occurrences of its target lie beyond `p` than it asks for. One that lands on its target asks for as
many as its count says, one that lands beside it for one. -/
def SearchFails (b : Buffer) (last : Option Search) (m : Motion) (count : Option Nat)
    (p : Position) : Prop :=
  m.repeatsSearch = true ∧ last = none ∨
    ∃ s, m.searchOf? last = some s ∧ (b.occurrencesBeyond s.direction s.target p).length <
      if s.landing = .onTarget then timesOf count else 1

theorem searchTimes_eq_none_iff (h : b.InBounds p) (s : Search) (n : Nat) :
    b.searchTimes s (n + 1) p = none ↔ (b.occurrencesBeyond s.direction s.target p).length <
      if s.landing = .onTarget then n + 1 else 1 := by
  cases hs : s.landing with
  | onTarget =>
    rw [searchTimes_onTarget hs h, Option.map_eq_none_iff, List.getElem?_eq_none_iff, if_pos rfl]
    exact Nat.lt_succ_iff.symm
  | besideTarget =>
    rw [searchTimes_besideTarget hs h, Option.map_eq_none_iff, List.head?_eq_none_iff,
      if_neg nofun, Nat.lt_one_iff, List.length_eq_zero_iff]

/-- **Only a search leads nowhere, and it does so if it fails.** -/
theorem destination_eq_none_iff (h : b.InBounds p) :
    b.destination last m count p = none ↔ b.SearchFails last m count p := by
  have hsearch : ∀ s, b.searchTimes s (timesOf count) p = none ↔
      (b.occurrencesBeyond s.direction s.target p).length <
        if s.landing = .onTarget then timesOf count else 1 := by
    intro s
    obtain ⟨n, hn⟩ : ∃ n, timesOf count = n + 1 := ⟨timesOf count - 1, by rw [timesOf]; omega⟩
    rw [hn]
    exact searchTimes_eq_none_iff h s n
  unfold SearchFails
  cases m with
  | search s => simp [destination, Motion.repeatsSearch, Motion.searchOf?, hsearch]
  | repeatSearch =>
    cases last <;> simp [destination, Motion.repeatsSearch, Motion.searchOf?, hsearch]
  | repeatSearchReversed =>
    cases last <;> simp [destination, Motion.repeatsSearch, Motion.searchOf?, hsearch]
  | _ => simp [destination, Motion.repeatsSearch, Motion.searchOf?]

/-- A motion that can fail goes neither by lines nor to the next word. -/
theorem kind_of_searchFails (h : b.SearchFails last m count p) :
    m.isLinewise = false ∧ m.toNextWord = false := by
  cases m with
  | search s | repeatSearch | repeatSearchReversed => exact ⟨rfl, rfl⟩
  | _ =>
    rcases h with ⟨hrepeats, -⟩ | ⟨s, hs, -⟩
    · cases hrepeats
    · cases hs

/-! ## 3. The three regions -/

/-- A region of characters that the operator selects, with the cells of a property. -/
structure IsRegion (b : Buffer) (operator : Operator) (P : Position → Prop) (s : Selection) :
    Prop where
  wellFormed : s.WellFormed b
  operator : s.operator = operator
  characters : s.linewise = false
  cells : ∀ q, b.InBounds q → (s.first ≤ q ∧ q ≤ s.last ↔ P q)

/-- The operator selects the cells with a property: a region of characters, or nothing if no cell
has the property. -/
def Selects (b : Buffer) (operator : Operator) (P : Position → Prop) : Option Selection → Prop
  | none => ∀ q, b.InBounds q → ¬ P q
  | some s => b.IsRegion operator P s

theorem Selects.congr {P Q : Position → Prop} {selected : Option Selection}
    (hPQ : ∀ q, b.InBounds q → (P q ↔ Q q)) (h : b.Selects operator P selected) :
    b.Selects operator Q selected := by
  cases selected with
  | none => exact fun q hq hQ => h q hq ((hPQ q hq).mpr hQ)
  | some s =>
    exact ⟨h.wellFormed, h.operator, h.characters, fun q hq => (h.cells q hq).trans (hPQ q hq)⟩

/-- A motion that is no failing search leads to a cell. -/
theorem exists_destination (hp : b.InBounds p) (h : ¬ b.SearchFails last m count p) :
    ∃ d, b.destination last m count p = some d ∧ b.InBounds d := by
  obtain ⟨d, hd⟩ := Option.ne_none_iff_exists'.mp (mt (destination_eq_none_iff hp).mp h)
  exact ⟨d, hd, inBounds_destination hp hd⟩

theorem selectMotion_of_isLinewise (hp : b.InBounds p) (hline : m.isLinewise = true)
    (hd : b.destination last m count p = some d) :
    b.selectMotion last operator m count p =
      some (.ofLines b operator (min p.line d.line) (max p.line d.line)) := by
  have hunder := Motion.underOperator_of_not_toNextWord
    (Motion.not_toNextWord_of_isLinewise hline) operator (b.charAt p)
  simp only [selectMotion, hunder, hd, Option.map_some,
    clamp_of_inBounds (inBounds_destination hp hd), hline, if_true]

theorem selectMotion_of_not_isLinewise (hp : b.InBounds p) (hline : m.isLinewise = false)
    (hunder : m.underOperator operator (b.charAt p) = m)
    (hd : b.destination last m count p = some d) :
    b.selectMotion last operator m count p =
      if operator = .visual ∨ m.isInclusive last = true then
        some ⟨operator, p.earlier d, p.later d, false⟩
      else if p = d then none
      else some ⟨operator, p.earlier d, b.exclusiveEnd m (p.earlier d) (p.later d), false⟩ := by
  have hends : (if d < p then (d, p) else (p, d)) = (p.earlier d, p.later d) := by
    unfold Position.earlier Position.later
    split
    · rfl
    · rfl
  simp only [selectMotion, hunder, hd, Option.map_some,
    clamp_of_inBounds (inBounds_destination hp hd), hline, Bool.false_eq_true, if_false, hends,
    Position.earlier_eq_later_iff]

theorem ends_bounds (hp : b.InBounds p) (hd : b.InBounds d) :
    p.earlier d ≤ p.later d ∧ b.InBounds (p.earlier d) ∧ b.InBounds (p.later d) := by
  have h := ordered_bounds hp hd
  unfold Position.earlier Position.later
  split
  · rename_i hlt
    rwa [if_pos hlt] at h
  · rename_i hlt
    rwa [if_neg hlt] at h

/-- The cell before a cell ends what lies before that cell. -/
theorem le_stepBack_iff {first last : Position} (h : first < last) (hq : b.InBounds q) :
    q ≤ exclusiveEnd.stepBack b last ↔ q < last := by
  have hcol := hq.col_le
  rw [Position.lt_def] at h
  rw [exclusiveEnd.stepBack]
  split
  · rename_i hzero
    simp only [Position.le_def, Position.lt_def]
    constructor
    · omega
    · intro hlt
      rcases Nat.lt_or_ge q.line (last.line - 1) with hline | hline
      · exact .inl hline
      · have heq : q.line = last.line - 1 := by omega
        exact .inr ⟨heq, heq ▸ hcol⟩
  · simp only [Position.le_def, Position.lt_def]
    omega

/-- An exclusive region has the cells before its far end; with the motion to the next word, those on
its first line. -/
theorem le_exclusiveEnd_iff {first last : Position} (m : Motion) (h : first < last)
    (hq : b.InBounds q) (hfirst : first ≤ q) :
    q ≤ b.exclusiveEnd m first last ↔
      q < last ∧ (m.toNextWord = true → q.line = first.line) := by
  have hback := le_stepBack_iff h hq
  have hcol := hq.col_le
  rw [Position.le_def] at hfirst
  rw [Position.lt_def] at h
  unfold exclusiveEnd
  split
  · have hword : (Motion.word .nextStart ‹_›).toNextWord = true := rfl
    rw [imp_iff_right hword]
    split
    · -- the region ends with its first line
      simp only [Position.le_def, Position.lt_def]
      constructor
      · omega
      · rintro ⟨-, hline⟩
        exact .inr ⟨hline, hline ▸ hcol⟩
    · rw [hback, Position.lt_def]
      omega
  · rename_i hm
    have hword : m.toNextWord = false := by
      cases m with
      | word travel size =>
        cases travel with
        | nextStart => exact absurd rfl (hm size)
        | _ => rfl
      | _ => rfl
    rw [hback, hword, and_iff_left nofun]

theorem selects_inclusive (operator : Operator) (hp : b.InBounds p) (hd : b.InBounds d) :
    b.Selects operator (fun q => p.earlier d ≤ q ∧ q ≤ p.later d)
      (some ⟨operator, p.earlier d, p.later d, false⟩) := by
  obtain ⟨hle, hfirst, hlast⟩ := ends_bounds hp hd
  exact ⟨⟨hle, hfirst, hlast, nofun⟩, rfl, rfl, fun q _ => Iff.rfl⟩

theorem selects_exclusive (operator : Operator) (m : Motion) (hp : b.InBounds p)
    (hd : b.InBounds d) :
    b.Selects operator
      (fun q => p.earlier d ≤ q ∧ q < p.later d ∧
        (m.toNextWord = true → q.line = (p.earlier d).line))
      (if p = d then none
        else some ⟨operator, p.earlier d, b.exclusiveEnd m (p.earlier d) (p.later d), false⟩) := by
  obtain ⟨hle, hfirst, hlast⟩ := ends_bounds hp hd
  split
  · rename_i heq
    intro q _ ⟨hfrom, hto, _⟩
    rw [← Position.earlier_eq_later_iff.mpr heq] at hto
    exact Position.not_lt_of_le hfrom hto
  · rename_i hne
    have hlt := lt_of_le_of_ne hle (mt Position.earlier_eq_later_iff.mp hne)
    obtain ⟨hend, hin⟩ := exclusiveEnd_bounds m hfirst hlast hlt
    exact ⟨⟨hend, hfirst, hin, nofun⟩, rfl, rfl, fun q hq =>
      and_congr_right fun hfrom => le_exclusiveEnd_iff m hlt hq hfrom⟩

/-! ## 4. The motion to the next word -/

/-- A motion by words that goes forward does not lead back. -/
theorem le_stepTimes_word (travel : WordTravel) (htravel : travel.direction = .forward)
    (size : WordSize) (hp : b.InBounds p) (n : Nat) : p ≤ b.stepTimes (.word travel size) n p := by
  induction n generalizing p with
  | zero => exact Position.le_refl p
  | succ n ih =>
    simp only [stepTimes]
    split
    · exact Position.le_refl p
    · rename_i hne
      have hmeets : Meets travel.direction p (b.step (.word travel size) p) :=
        meets_wordStep hp hne
      rw [htravel] at hmeets
      exact Position.le_trans (Position.le_of_lt hmeets) (ih (inBounds_step hp (.word travel size)))

/-- The motion to the next word is itself under every operator but change on a word. -/
theorem underOperator_nextStart (size : WordSize)
    (h : ¬ (operator = .change ∧ ∃ c ∈ b.charAt p, isBlank c = false)) :
    (Motion.word .nextStart size).underOperator operator (b.charAt p) = .word .nextStart size := by
  refine if_neg fun hchange => h ⟨hchange.1, ?_⟩
  obtain ⟨c, hc, hblank⟩ := (Option.any_eq_true _ _).mp hchange.2
  exact ⟨c, hc, (Bool.not_eq_true' _).mp hblank⟩

theorem underOperator_of_takesEnd (h : operator = .visual ∨ m.TakesEnd last) :
    m.underOperator operator (b.charAt p) = m := by
  rcases h with rfl | hends
  · cases m with
    | word travel size =>
      cases travel with
      | nextStart => exact underOperator_nextStart size nofun
      | _ => rfl
    | _ => rfl
  · cases hends <;> rfl

/-- Change on a word takes the word without the blanks after it. -/
theorem selectMotion_change_word (last : Option Search) (size : WordSize) (count : Option Nat)
    (h : ∃ c ∈ b.charAt p, isBlank c = false) :
    b.selectMotion last .change (.word .nextStart size) count p =
      b.selectMotion last .change (.word .nextEnd size) count p := by
  obtain ⟨c, hc, hblank⟩ := h
  have hunder : (Motion.word .nextStart size).underOperator .change (b.charAt p) =
      .word .nextEnd size := by
    refine if_pos ⟨rfl, (Option.any_eq_true _ _).mpr ⟨c, hc, ?_⟩⟩
    rw [hblank]
    rfl
  unfold selectMotion
  rw [hunder]
  rfl

/-! ## 5. What is selected -/

/-- What an operator selects with a motion that leads from `p` to `d`, where `last` is the search
that the motion repeats, if it repeats one, and `toWordEnd` is what the operator selects with the
motion to the end of a word instead. -/
structure SelectsTravelled (b : Buffer) (last : Option Search) (operator : Operator) (m : Motion)
    (count : Option Nat) (p d : Position) (selected : Option Selection)
    (toWordEnd : WordSize → Option Selection) : Prop where
  fails : b.SearchFails last m count p → selected = none
  linewise : m.isLinewise = true →
    selected = some (.ofLines b operator (min p.line d.line) (max p.line d.line))
  inclusive : ¬ b.SearchFails last m count p → m.isLinewise = false →
    operator = .visual ∨ m.TakesEnd last →
      b.Selects operator (fun q => p.earlier d ≤ q ∧ q ≤ p.later d) selected
  exclusive : ¬ b.SearchFails last m count p → m.isLinewise = false → m.toNextWord = false →
    operator ≠ .visual → ¬ m.TakesEnd last →
      (selected = none ↔ p = d) ∧
        b.Selects operator (fun q => p.earlier d ≤ q ∧ q < p.later d) selected
  changeWord : ∀ size, m = .word .nextStart size → operator = .change →
    (∃ c ∈ b.charAt p, isBlank c = false) → selected = toWordEnd size
  word : ∀ size, m = .word .nextStart size → operator ≠ .visual →
    ¬ (operator = .change ∧ ∃ c ∈ b.charAt p, isBlank c = false) →
      (selected = none ↔ p = d) ∧
        b.Selects operator (fun q => p.earlier d ≤ q ∧ q < p.later d ∧ q.line = p.line) selected

/-- The cells of a region that leaves out its far end. -/
theorem selects_selectMotion_exclusive (hp : b.InBounds p) (hline : m.isLinewise = false)
    (hunder : m.underOperator operator (b.charAt p) = m) (hvisual : operator ≠ .visual)
    (hends : ¬ m.TakesEnd last) (hd : b.destination last m count p = some d) :
    (b.selectMotion last operator m count p = none ↔ p = d) ∧
      b.Selects operator
        (fun q => p.earlier d ≤ q ∧ q < p.later d ∧
          (m.toNextWord = true → q.line = (p.earlier d).line))
        (b.selectMotion last operator m count p) := by
  have hregion := selectMotion_of_not_isLinewise hp hline hunder hd
  rw [if_neg (not_or.mpr ⟨hvisual, mt Motion.isInclusive_iff.mp hends⟩)] at hregion
  rw [hregion]
  exact ⟨by simp, selects_exclusive operator m hp (inBounds_destination hp hd)⟩

/-- **An operator selects exactly what its motion travels over.** -/
theorem selectsTravelled_selectMotion (last : Option Search) (operator : Operator) (m : Motion)
    (count : Option Nat) (hp : b.InBounds p) :
    b.SelectsTravelled last operator m count p ((b.destination last m count p).getD p)
      (b.selectMotion last operator m count p)
      (fun size => b.selectMotion last operator (.word .nextEnd size) count p) where
  fails hfails := by
    have hnone := (destination_eq_none_iff hp).mpr hfails
    have hunder := Motion.underOperator_of_not_toNextWord (kind_of_searchFails hfails).2 operator
      (b.charAt p)
    simp only [selectMotion, hunder, hnone, Option.map_none]
  linewise hline := by
    have hfound : ¬ b.SearchFails last m count p := fun h =>
      Bool.false_ne_true ((kind_of_searchFails h).1.symm.trans hline)
    obtain ⟨d, hd, -⟩ := exists_destination hp hfound
    rw [hd]
    exact selectMotion_of_isLinewise hp hline hd
  inclusive hfound hline hends := by
    obtain ⟨d, hd, hin⟩ := exists_destination hp hfound
    have hregion := selectMotion_of_not_isLinewise hp hline (underOperator_of_takesEnd hends) hd
    rw [if_pos (hends.imp_right Motion.isInclusive_iff.mpr)] at hregion
    rw [hd, hregion]
    exact selects_inclusive operator hp hin
  exclusive hfound hline hword hvisual hends := by
    obtain ⟨d, hd, -⟩ := exists_destination hp hfound
    have hunder := Motion.underOperator_of_not_toNextWord hword operator (b.charAt p)
    have hregion := selects_selectMotion_exclusive hp hline hunder hvisual hends hd
    rw [hword] at hregion
    rw [hd]
    exact hregion.imp_right (.congr fun q _ => by simp)
  changeWord size hm hchange hc := by
    subst hm hchange
    exact selectMotion_change_word last size count hc
  word size hm hvisual hchange := by
    subst hm
    have hd : b.destination last (.word .nextStart size) count p =
        some (b.stepTimes (.word .nextStart size) (timesOf count) p) := rfl
    have hle := le_stepTimes_word .nextStart rfl size hp (timesOf count)
    have hregion := selects_selectMotion_exclusive hp rfl (underOperator_nextStart size hchange)
      hvisual nofun hd
    rw [hd, Option.getD_some]
    refine hregion.imp_right (.congr fun q _ => ?_)
    have hword : (Motion.word .nextStart size).toNextWord = true := rfl
    rw [Position.earlier_of_le hle, imp_iff_right hword]

end Buffer

end MotionTutor
