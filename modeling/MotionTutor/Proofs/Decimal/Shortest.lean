import Mathlib.Data.List.TakeWhile
import MotionTutor.Decimal.Shortest
import MotionTutor.Proofs.Decimal.Share

/-!
# The shortest decimal of a share

A share other than one has a decimal below one: its exponent is negative (`shortest_below_one`). All
of the interval around such a number lies below one, so a point of the grid in it has no digit
before the decimal point.
-/

namespace MotionTutor.Decimal

/-! ## 1. Shares as binary fractions -/

/-- The mantissa and the exponent of a positive number below one are in these ranges. -/
structure BelowOne (mantissa : Nat) (exponent : Int) : Prop where
  mantissa_lt : mantissa < 2 ^ 53
  exponent_le : exponent ≤ -53

/-- A share is below one, or one itself. -/
theorem ofFloat_share {x : Float} (h : IsShare x) : ∃ m e, Binary.ofFloat x = .finite false m e ∧
    (BelowOne m e ∨ m = hiddenBit ∧ e = -52) := by
  have hle : x.toBits.toNat ≤ oneBits := h
  rw [Binary.ofFloat]
  generalize x.toBits.toNat = bits at hle
  have hmod : bits % hiddenBit < hiddenBit := Nat.mod_lt _ (by decide)
  have hsplit := Nat.div_add_mod bits hiddenBit
  have hdiv : bits / hiddenBit ≤ 1023 := Nat.div_le_of_le_mul hle
  have hbiased : bits / hiddenBit % exponentLimit = bits / hiddenBit :=
    Nat.mod_eq_of_lt (Nat.lt_of_le_of_lt hdiv (by decide))
  have hsign : decide (integerLimit ≤ bits) = false := by
    have hlimit : oneBits < integerLimit := by decide
    exact decide_eq_false (by omega)
  have hfinite : ¬ bits / hiddenBit = 2047 := by omega
  unfold Binary.ofBits
  dsimp only
  rw [hbiased, hsign, if_neg hfinite]
  by_cases hzero : bits / hiddenBit = 0
  · rw [if_pos hzero]
    simp only [hiddenBit] at *
    exact ⟨_, _, rfl, .inl ⟨by omega, by omega⟩⟩
  · rw [if_neg hzero]
    simp only [oneBits, hiddenBit] at *
    rcases Nat.eq_or_lt_of_le hdiv with hone | hlt
    · exact ⟨_, _, rfl, .inr ⟨by omega, by omega⟩⟩
    · exact ⟨_, _, rfl, .inl ⟨by omega, by omega⟩⟩

/-! ## 2. The grid below one -/

namespace Interval

variable {i : Interval} {place : Int} {n : Nat}

/-- What is in the interval is not below its lower end. -/
theorem lower_le_of_contains (h : i.contains place n = true) :
    i.lower * i.scale place ≤ n * i.unit place ∧ n * i.unit place ≤ i.upper * i.scale place := by
  unfold contains at h
  dsimp only at h
  split at h <;> rw [Bool.and_eq_true, decide_eq_true_eq, decide_eq_true_eq] at h
  · exact h
  · exact ⟨h.1.le, h.2.le⟩

theorem contains_of_nearest? (h : i.nearest? place = some n) : i.contains place n = true := by
  unfold nearest? at h
  dsimp only at h
  split at h
  · cases h
  · rename_i hbelow _
    cases h
    exact hbelow
  · rename_i _ habove
    cases h
    exact habove
  · rename_i hbelow habove
    split at h
    · cases h
      exact hbelow
    · cases h
      exact habove

theorem contains_of_firstHit {tries k : Nat} (h : i.firstHit k tries = some (n, place)) :
    i.contains place n = true := by
  induction tries generalizing k with
  | zero => cases h
  | succ tries ih =>
    rw [firstHit] at h
    split at h
    · rename_i hnearest
      cases h
      exact contains_of_nearest? hnearest
    · exact ih h

end Interval

section BelowOne

variable {m n : Nat} {e place : Int}

/-- The upper end of the interval around a number below one is below one. -/
theorem upper_lt_one (hbelow : BelowOne m e) : 4 * m + 2 < Nat.pow 2 (2 - e).toNat := by
  obtain ⟨hlt, he⟩ := hbelow
  have hsplit : (2 - e).toNat = 2 + 53 + (-e - 53).toNat := by omega
  rw [hsplit]
  show 4 * m + 2 < 2 ^ (2 + 53 + (-e - 53).toNat)
  rw [Nat.pow_add]
  calc 4 * m + 2 < 2 ^ (2 + 53) * 1 := by omega
    _ ≤ 2 ^ (2 + 53) * 2 ^ (-e - 53).toNat := Nat.mul_le_mul_left _ (Nat.two_pow_pos _)

theorem lower_pos (hm : 0 < m) : 0 < (Interval.around m e).lower := by
  show 0 < 4 * m - _
  split <;> omega

/-- The ends of the interval around a number below one, on the grid. -/
theorem bounds_of_contains (hm : 0 < m) (hbelow : BelowOne m e)
    (h : (Interval.around m e).contains place n = true) :
    0 < n ∧ n * (Nat.pow 2 (2 - e).toNat * Nat.pow 10 place.toNat) ≤
      (4 * m + 2) * Nat.pow 10 (-place).toNat := by
  obtain ⟨hlower, hupper⟩ := Interval.lower_le_of_contains h
  have hscale : (Interval.around m e).scale place = Nat.pow 10 (-place).toNat := by
    have hwhole : (e - 2).toNat = 0 := by
      have he := hbelow.exponent_le
      omega
    show Nat.pow 2 (e - 2).toNat * _ = _
    rw [hwhole]
    exact Nat.one_mul _
  rw [hscale] at hlower hupper
  refine ⟨Nat.pos_of_ne_zero fun hzero => ?_, hupper⟩
  rw [hzero, Nat.zero_mul] at hlower
  have hscalepos : 0 < Nat.pow 10 (-place).toNat := Nat.pow_pos (by decide)
  exact absurd hlower (Nat.not_le_of_lt (Nat.mul_pos (lower_pos hm) hscalepos))

/-- **A point of the grid near a number below one is a fraction**: a positive number of units, of
which one alone takes more. -/
theorem grid_of_contains (hm : 0 < m) (hbelow : BelowOne m e)
    (h : (Interval.around m e).contains place n = true) :
    0 < n ∧ place < 0 ∧ n < Nat.pow 10 (-place).toNat := by
  obtain ⟨hpos, hupper⟩ := bounds_of_contains hm hbelow h
  have hunit := upper_lt_one hbelow
  have hten : 1 ≤ Nat.pow 10 place.toNat := Nat.pow_pos (by decide)
  refine ⟨hpos, ?_, ?_⟩
  · -- at a place before the point one unit alone is beyond the interval
    by_contra hplace
    have hzero : (-place).toNat = 0 := by omega
    have hone : Nat.pow 10 0 = 1 := rfl
    rw [hzero, hone, Nat.mul_one] at hupper
    have hle : Nat.pow 2 (2 - e).toNat ≤
        n * (Nat.pow 2 (2 - e).toNat * Nat.pow 10 place.toNat) :=
      (Nat.le_mul_of_pos_right _ hten).trans (Nat.le_mul_of_pos_left _ hpos)
    exact absurd (hle.trans hupper) (Nat.not_le_of_lt hunit)
  · by_contra hlarge
    have hle : Nat.pow 10 (-place).toNat * Nat.pow 2 (2 - e).toNat ≤
        n * (Nat.pow 2 (2 - e).toNat * Nat.pow 10 place.toNat) :=
      Nat.mul_le_mul (Nat.le_of_not_lt hlarge) (Nat.le_mul_of_pos_right _ hten)
    have hstrict := Nat.mul_lt_mul_of_pos_right hunit
      (Nat.pow_pos (by decide) : 0 < Nat.pow 10 (-place).toNat)
    rw [Nat.mul_comm] at hle
    exact absurd (hle.trans hupper) (Nat.not_le_of_lt hstrict)

end BelowOne

/-! ## 3. Digits -/

/-- The decimal of a fraction on the grid begins after the point. -/
theorem ofGrid_fraction {n : Nat} {place : Int} (hn : 0 < n) (hplace : place < 0)
    (hlt : n < Nat.pow 10 (-place).toNat) :
    (Scientific.ofGrid n place).exponent < 0 ∧ (Scientific.ofGrid n place).digits ≠ [] ∧
      ∀ c ∈ (Scientific.ofGrid n place).digits, c.isDigit = true := by
  have hlength := (length_digits_le (k := (-place).toNat) (by omega)).2 hlt
  obtain ⟨c, ds, hds, hc, -⟩ := digits_eq_cons hn
  have hzero : (c == '0') = false := by
    rw [beq_eq_false_iff_ne]
    rintro rfl
    exact absurd hc (by decide)
  refine ⟨?_, ?_, ?_⟩
  · show place + ((digits n).length : Int) - 1 < 0
    omega
  · -- the first digit is no zero, so it stays
    show ((digits n).reverse.dropWhile (· == '0')).reverse ≠ []
    rw [hds, ne_eq, List.reverse_eq_nil_iff, List.dropWhile_eq_nil_iff]
    intro hall
    have hfirst := hall c (List.mem_reverse.2 List.mem_cons_self)
    rw [hzero] at hfirst
    cases hfirst
  · intro d hd
    have hmem : d ∈ (digits n).reverse.dropWhile (· == '0') := List.mem_reverse.1 hd
    exact isDigit_of_mem_digits
      (List.mem_reverse.1 ((List.dropWhile_sublist _).subset hmem))

/-- **The shortest decimal of a number below one begins after the point**, if one is found. -/
theorem shortest_below_one {m : Nat} {e : Int} (hm : 0 < m) (hbelow : BelowOne m e) :
    shortest m e = ⟨['0'], 0⟩ ∨ (shortest m e).exponent < 0 ∧ (shortest m e).digits ≠ [] ∧
      ∀ c ∈ (shortest m e).digits, c.isDigit = true := by
  unfold shortest
  split
  · rename_i n place hhit
    obtain ⟨hn, hplace, hlt⟩ := grid_of_contains hm hbelow (Interval.contains_of_firstHit hhit)
    exact .inr (ofGrid_fraction hn hplace hlt)
  · exact .inl rfl

end MotionTutor.Decimal
