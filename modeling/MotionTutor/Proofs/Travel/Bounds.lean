import MotionTutor.Proofs.Travel.Reader

/-!
# Motions stay in the buffer

From a position in bounds every motion leads to one (`Buffer.inBounds_destination`), so bringing the
cursor back to the buffer after a motion changes nothing. A count repeats a step, and each step
stays in bounds by itself (`Buffer.inBounds_step`); a search stays on its line.
-/

namespace MotionTutor

namespace Buffer

variable {b : Buffer} {p q : Position}

/-! ## 1. Steps -/

theorem inBounds_firstNonBlank {n : Nat} (h : n ≤ b.lastLine) : b.InBounds (b.firstNonBlank n) := by
  refine ⟨h, ?_⟩
  rw [firstNonBlank]
  cases hfind : (b.line n).findIdx? (fun c => !isBlank c) with
  | none => exact Nat.zero_le _
  | some i =>
    obtain ⟨hlt, -⟩ := List.findIdx?_eq_some_iff_getElem.mp hfind
    exact Nat.le_sub_one_of_lt hlt

theorem blankLineAfter_le (n : Nat) : b.blankLineAfter n ≤ b.lastLine := Nat.min_le_right _ _

theorem inBounds_lineStart {n : Nat} (h : n ≤ b.lastLine) : b.InBounds ⟨n, 0⟩ :=
  ⟨h, Nat.zero_le _⟩

/-- **A step stays in the buffer.** -/
theorem inBounds_step (h : b.InBounds p) (m : Motion) : b.InBounds (b.step m p) := by
  have hline := h.line_le
  have hcol := h.col_le
  cases m with
  | word travel size => exact inBounds_wordStep h
  | lineStart => exact inBounds_lineStart hline
  | firstNonBlank => exact inBounds_firstNonBlank hline
  | lineEnd => exact ⟨hline, Nat.le_refl _⟩
  | left => exact ⟨hline, Nat.le_trans (Nat.sub_le _ _) hcol⟩
  | right => exact ⟨hline, Nat.min_le_right _ _⟩
  | down =>
    rw [step]
    split
    · exact b.inBounds_clamp _
    · exact h
  | up =>
    rw [step]
    split
    · exact b.inBounds_clamp _
    · exact h
  | nextLine =>
    rw [step]
    split
    · rename_i hlt
      exact inBounds_firstNonBlank hlt
    · exact h
  | prevLine =>
    rw [step]
    split
    · exact inBounds_firstNonBlank (Nat.le_trans (Nat.sub_le _ _) hline)
    · exact h
  | paragraphForward => exact inBounds_lineStart (blankLineAfter_le _)
  | paragraphBackward =>
    refine inBounds_lineStart ?_
    rw [blankLineBefore]
    omega
  | _ => exact h

theorem inBounds_stepTimes (h : b.InBounds p) (m : Motion) (n : Nat) :
    b.InBounds (b.stepTimes m n p) := by
  induction n generalizing p with
  | zero => exact h
  | succ n ih =>
    simp only [stepTimes]
    split
    · exact h
    · exact ih (inBounds_step h m)

/-! ## 2. Searches -/

theorem landingAfter?_lt {s : Search} {cells : List Char} {i j : Nat}
    (h : s.landingAfter? cells i = some j) : j < cells.length := by
  obtain ⟨between, hfind, hj⟩ := Option.map_eq_some_iff.mp h
  obtain ⟨hlt, -⟩ := List.findIdx?_eq_some_iff_getElem.mp hfind
  rw [List.length_drop] at hlt
  split at hj
  · omega
  · omega

theorem inBounds_searchOnce {s : Search} (h : b.InBounds p) (hq : b.searchOnce s p = some q) :
    b.InBounds q := by
  obtain ⟨i, hi, rfl⟩ := Option.map_eq_some_iff.mp hq
  have hlt := landingAfter?_lt hi
  rw [Direction.length_order] at hlt
  exact ⟨h.line_le, Nat.le_sub_one_of_lt (s.direction.place_lt hlt)⟩

theorem inBounds_searchTimes {s : Search} {n : Nat} (h : b.InBounds p)
    (hq : b.searchTimes s n p = some q) : b.InBounds q := by
  induction n generalizing p with
  | zero =>
    cases hq
    exact h
  | succ n ih =>
    rw [searchTimes] at hq
    split at hq
    · cases hq
    · rename_i r hr
      split at hq
      · cases hq
        exact h
      · exact ih (inBounds_searchOnce h hr) hq

/-! ## 3. Counted motions -/

/-- **A motion leads to a cell of the buffer.** -/
theorem inBounds_destination {last : Option Search} {m : Motion} {count : Option Nat}
    (h : b.InBounds p) (hq : b.destination last m count p = some q) : b.InBounds q := by
  cases m with
  | firstLine =>
    cases hq
    exact inBounds_firstNonBlank (Nat.min_le_right _ _)
  | lastLine =>
    cases hq
    exact inBounds_firstNonBlank (Nat.min_le_right _ _)
  | currentLine =>
    cases hq
    exact inBounds_firstNonBlank (Nat.min_le_right _ _)
  | search s => exact inBounds_searchTimes h hq
  | repeatSearch =>
    obtain ⟨s, -, hs⟩ := Option.bind_eq_some_iff.mp hq
    exact inBounds_searchTimes h hs
  | repeatSearchReversed =>
    obtain ⟨s, -, hs⟩ := Option.bind_eq_some_iff.mp hq
    exact inBounds_searchTimes h hs
  | _ =>
    cases hq
    exact inBounds_stepTimes h _ _

end Buffer

end MotionTutor
