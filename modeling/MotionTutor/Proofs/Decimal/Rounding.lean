import Mathlib.Algebra.Order.Field.Basic
import Mathlib.Algebra.Order.Field.Power
import Mathlib.Data.Rat.Cast.Order
import Mathlib.Tactic.Linarith
import Mathlib.Tactic.NormNum
import Mathlib.Tactic.Positivity

/-!
# Rounding of binary fractions

An unpacked number is a mantissa times a power of two. Rounding shifts the mantissa to the exponent
of its format, with two bits for what is lost. It does not leave a bound that lies on the grid that
is rounded to (`atMost_roundWithAccuracy`), and it changes nothing that has the full length already
(`roundWithAccuracy_normal`). Bounds are stated on rational numbers (`AtMost`, `AtLeast`).
-/

namespace MotionTutor.Decimal

open Float.Model Float.Model.UnpackedFloat

/-! ## 1. Shifting -/

theorem mantissa_shiftRight (em : ExtendedMantissa) (k : Nat) :
    (em >>> k).mantissa = em.mantissa / 2 ^ k := by
  induction k with
  | zero => exact (Nat.div_one _).symm
  | succ k ih =>
    show (em >>> k).mantissa / 2 = _
    rw [ih, Nat.div_div_eq_div_mul, Nat.pow_succ]

/-- Shifting out zeros leaves an exact mantissa exact. -/
theorem shiftRight_exact (n k : Nat) :
    (⟨n * 2 ^ k, false, false⟩ : ExtendedMantissa) >>> k = ⟨n, false, false⟩ := by
  induction k generalizing n with
  | zero =>
    rw [Nat.pow_zero, Nat.mul_one]
    rfl
  | succ k ih =>
    show ((⟨n * 2 ^ (k + 1), false, false⟩ : ExtendedMantissa) >>> k).shiftRightOne = _
    rw [Nat.pow_succ, Nat.mul_comm (2 ^ k), ← Nat.mul_assoc, ih]
    simp [ExtendedMantissa.shiftRightOne]

theorem roundedMantissa_le_succ (em : ExtendedMantissa) :
    em.roundedMantissa ≤ em.mantissa + 1 := by
  obtain ⟨m, round, sticky⟩ := em
  cases round with
  | false => cases sticky <;> exact Nat.le_succ m
  | true =>
    cases sticky with
    | false => exact Nat.add_le_add_left (Nat.le_of_lt_succ (Nat.mod_lt m (by decide))) m
    | true => exact Nat.le_refl _

theorem le_roundedMantissa (em : ExtendedMantissa) : em.mantissa ≤ em.roundedMantissa := by
  obtain ⟨m, round, sticky⟩ := em
  cases round with
  | false => cases sticky <;> exact Nat.le_refl m
  | true => cases sticky <;> exact Nat.le_add_right m _

theorem mantissa_ofMantissaAndAccuracy (m : Nat) (accuracy : Accuracy) :
    (ExtendedMantissa.ofMantissaAndAccuracy m accuracy).mantissa = m := by
  cases accuracy with
  | exact => rfl
  | inexact order => cases order <;> rfl

/-- **A rounded mantissa stays within a bound on the grid** that what it stands for stays within. -/
theorem roundedMantissa_le {m k bound : Nat} {accuracy : Accuracy}
    (hle : m ≤ bound * 2 ^ k) (hlt : accuracy ≠ .exact → m < bound * 2 ^ k) :
    ((ExtendedMantissa.ofMantissaAndAccuracy m accuracy) >>> k).roundedMantissa ≤ bound := by
  have hpos : 0 < 2 ^ k := Nat.two_pow_pos k
  rcases Nat.lt_or_ge m (bound * 2 ^ k) with hless | hge
  · have hdiv : m / 2 ^ k < bound := (Nat.div_lt_iff_lt_mul hpos).2 hless
    refine Nat.le_trans (roundedMantissa_le_succ _) ?_
    rw [mantissa_shiftRight, mantissa_ofMantissaAndAccuracy]
    exact hdiv
  · have hexact : accuracy = .exact := by
      by_contra h
      exact absurd (hlt h) (Nat.not_lt.2 hge)
    rw [hexact, Nat.le_antisymm hle hge]
    show ((⟨bound * 2 ^ k, false, false⟩ : ExtendedMantissa) >>> k).roundedMantissa ≤ bound
    rw [shiftRight_exact]
    exact Nat.le_refl bound

/-! ## 2. Bounds of unpacked numbers -/

/-- A number that is not negative and at most `q`. -/
inductive AtMost (q : ℚ) : UnpackedFloat → Prop
  | zero : AtMost q (.zero .positive)
  | finite {m : Nat} {e : Int} {hm : 0 < m} (hmin : -1074 ≤ e) (hle : m * 2 ^ e ≤ q) :
    AtMost q (.finite .positive m e hm)

/-- A positive number that is at least `q`. -/
inductive AtLeast (q : ℚ) : UnpackedFloat → Prop
  | finite {m : Nat} {e : Int} {hm : 0 < m} (hle : q ≤ m * 2 ^ e) :
    AtLeast q (.finite .positive m e hm)

theorem zpow_pos_two (e : Int) : (0 : ℚ) < 2 ^ e := zpow_pos (by norm_num) e

theorem zpow_add_two (d e : Int) : (2 : ℚ) ^ (d + e) = 2 ^ d * 2 ^ e :=
  zpow_add₀ (by norm_num) d e

theorem zpow_toNat_two {e : Int} (he : 0 ≤ e) : (2 : ℚ) ^ e = ((2 ^ e.toNat : Nat) : ℚ) := by
  rw [Nat.cast_pow, Nat.cast_ofNat, ← zpow_natCast, Int.toNat_of_nonneg he]

/-- Dropping bits of a mantissa makes a number no larger. -/
theorem div_mul_zpow_le (m k : Nat) (e : Int) :
    ((m / 2 ^ k : Nat) : ℚ) * 2 ^ (e + k) ≤ m * 2 ^ e := by
  have hdiv : ((m / 2 ^ k : Nat) : ℚ) * 2 ^ k ≤ m := by
    have hle := Nat.div_mul_le_self m (2 ^ k)
    exact_mod_cast hle
  calc ((m / 2 ^ k : Nat) : ℚ) * 2 ^ (e + k)
      = (m / 2 ^ k : Nat) * 2 ^ k * 2 ^ e := by
        rw [Int.add_comm, zpow_add_two, zpow_natCast, mul_assoc]
    _ ≤ m * 2 ^ e := mul_le_mul_of_nonneg_right hdiv (zpow_pos_two e).le

/-- The exponent at which a number is rounded. -/
def roundingExponent (m : Nat) (e : Int) : Int :=
  max e (Format.binary64.targetExponent (totalExponent m e))

theorem targetExponent_of (e : Int) : Format.binary64.targetExponent e = max (e - 53) (-1074) := rfl

theorem totalExponent_of (m : Nat) (e : Int) : totalExponent m e = m.log2 + 1 + e := rfl

theorem targetExponent_eq (m : Nat) (e : Int) :
    Format.binary64.targetExponent (totalExponent m e) = max (m.log2 + e - 52) (-1074) := by
  rw [targetExponent_of, totalExponent_of]
  omega

theorem add_targetExponent_sub (m : Nat) (e : Int) :
    e + (Format.binary64.targetExponent (totalExponent m e) - e).toNat = roundingExponent m e := by
  rw [roundingExponent]
  omega

/-- Shifting a mantissa to its exponent once more makes a number no larger. -/
theorem atMost_shift {r : Nat} {e : Int} {q : ℚ} (hmin : -1074 ≤ e) (hle : r * 2 ^ e ≤ q)
    (k : Nat) :
    AtMost q (if h : ((ExtendedMantissa.ofMantissaAndAccuracy r .exact) >>> k).mantissa = 0 then
      .zero .positive
    else .finite .positive ((ExtendedMantissa.ofMantissaAndAccuracy r .exact) >>> k).mantissa
      (e + k) (Nat.pos_of_ne_zero h)) := by
  have hmantissa : ((ExtendedMantissa.ofMantissaAndAccuracy r .exact) >>> k).mantissa =
      r / 2 ^ k := mantissa_shiftRight _ _
  by_cases hzero : ((ExtendedMantissa.ofMantissaAndAccuracy r .exact) >>> k).mantissa = 0
  · rw [dif_pos hzero]
    exact .zero
  · rw [dif_neg hzero]
    refine .finite (by omega) ?_
    rw [hmantissa]
    exact (div_mul_zpow_le r k e).trans hle

/-- **Rounding stays within a bound on the grid.** What is rounded is `m · 2 ^ e`, or a little more
if it is not exact. -/
theorem atMost_roundWithAccuracy {m bound : Nat} {e place : Int} {accuracy : Accuracy}
    (hplace : roundingExponent m e ≤ place)
    (hle : m ≤ bound * 2 ^ (place - e).toNat)
    (hlt : accuracy ≠ .exact → m < bound * 2 ^ (place - e).toNat) :
    AtMost (bound * 2 ^ place)
      (roundWithAccuracy Format.binary64 .positive m e accuracy) := by
  have hshift := add_targetExponent_sub m e
  have hmin : -1074 ≤ roundingExponent m e := by
    rw [roundingExponent, targetExponent_eq]
    omega
  rw [roundWithAccuracy, shiftToTargetExponent, shiftToExponent]
  dsimp only
  generalize (Format.binary64.targetExponent (totalExponent m e) - e).toNat = k at hshift
  -- the grid of the bound is coarser than the one that is rounded to
  have hsplit : 2 ^ (place - e).toNat = 2 ^ (place - (e + k)).toNat * 2 ^ k := by
    rw [← Nat.pow_add]
    congr 1
    omega
  rw [hsplit, ← Nat.mul_assoc] at hle hlt
  have hrounded := roundedMantissa_le hle hlt
  generalize ((ExtendedMantissa.ofMantissaAndAccuracy m accuracy) >>> k).roundedMantissa = r
    at hrounded
  have hr : (r : ℚ) * 2 ^ (e + k) ≤ bound * 2 ^ place := by
    have hcast : (r : ℚ) ≤ bound * (2 ^ (place - (e + k)).toNat : Nat) := by exact_mod_cast hrounded
    calc (r : ℚ) * 2 ^ (e + k)
        ≤ bound * (2 ^ (place - (e + k)).toNat : Nat) * 2 ^ (e + k) :=
          mul_le_mul_of_nonneg_right hcast (zpow_pos_two _).le
      _ = bound * 2 ^ place := by
          rw [← zpow_toNat_two (by omega), mul_assoc, ← zpow_add_two, Int.sub_add_cancel]
  exact atMost_shift (hshift ▸ hmin) hr _

/-! ## 3. Exact numbers -/

theorem log2_mul_two_pow {m : Nat} (hm : m ≠ 0) (k : Nat) : (m * 2 ^ k).log2 = m.log2 + k := by
  induction k with
  | zero => rw [Nat.pow_zero, Nat.mul_one, Nat.add_zero]
  | succ k ih =>
    have hne : m * 2 ^ k ≠ 0 := Nat.mul_ne_zero hm (Nat.two_pow_pos k).ne'
    rw [Nat.pow_succ, ← Nat.mul_assoc, Nat.mul_comm _ 2, Nat.log2_two_mul hne, ih, Nat.add_assoc]

/-- A mantissa of full length is not shifted. -/
theorem shiftToTargetExponent_normal {m : Nat} {e : Int} (hm : m.log2 = 52) (he : -1074 ≤ e) :
    shiftToTargetExponent Format.binary64 m e .exact = (⟨m, false, false⟩, e) := by
  have htarget : Format.binary64.targetExponent (totalExponent m e) = e := by
    rw [targetExponent_eq, hm]
    omega
  have hshift : (e - e).toNat = 0 := by omega
  rw [shiftToTargetExponent, htarget, shiftToExponent, hshift]
  exact Prod.ext rfl (Int.add_zero e)

/-- A mantissa that a carry has made one bit too long is shifted by one. -/
theorem shiftToTargetExponent_carry {e : Int} (he : -1074 ≤ e) :
    shiftToTargetExponent Format.binary64 (2 ^ 53) e .exact =
      (⟨2 ^ 52, false, false⟩, e + 1) := by
  have htarget : Format.binary64.targetExponent (totalExponent (2 ^ 53) e) = e + 1 := by
    rw [targetExponent_eq, Nat.log2_two_pow]
    omega
  have hshift : (e + 1 - e).toNat = 1 := by omega
  rw [shiftToTargetExponent, htarget, shiftToExponent, hshift]
  exact Prod.ext (by rfl) rfl

/-- A mantissa of full length is not rounded, nor are zeros behind it. -/
theorem roundWithAccuracy_normal {m : Nat} {e : Int} (sign : Sign) (hm : m.log2 = 52)
    (he : -1074 ≤ e) (k : Nat) (hpos : 0 < m) :
    roundWithAccuracy Format.binary64 sign (m * 2 ^ k) (e - k) .exact =
      .finite sign m e hpos := by
  have htarget : Format.binary64.targetExponent (totalExponent (m * 2 ^ k) (e - k)) = e := by
    rw [targetExponent_eq, log2_mul_two_pow hpos.ne', hm]
    omega
  have hshift : (e - (e - k)).toNat = k := by omega
  have hfirst : (ExtendedMantissa.ofMantissaAndAccuracy (m * 2 ^ k) .exact) >>> k =
      ⟨m, false, false⟩ := shiftRight_exact m k
  have hround : (⟨m, false, false⟩ : ExtendedMantissa).roundedMantissa = m := rfl
  rw [roundWithAccuracy, shiftToTargetExponent, htarget, shiftToExponent, hshift]
  dsimp only
  rw [hfirst, Int.sub_add_cancel, hround, shiftToTargetExponent_normal hm he]
  exact dif_neg hpos.ne'

/-- A mantissa that is too long is rounded to full length, at the place of its leading bit or, if
rounding carries, the one above. -/
theorem roundWithAccuracy_long {m : Nat} {e : Int} (sign : Sign) (accuracy : Accuracy)
    (hlog : 52 ≤ m.log2) (hmin : -1074 ≤ m.log2 + e - 52) :
    ∃ (r : Nat) (e' : Int) (hr : 0 < r), r.log2 = 52 ∧ m.log2 + e - 52 ≤ e' ∧
      e' ≤ m.log2 + e - 51 ∧
      roundWithAccuracy Format.binary64 sign m e accuracy = .finite sign r e' hr := by
  have hm : m ≠ 0 := by
    rintro rfl
    exact absurd hlog (by decide)
  have htarget : Format.binary64.targetExponent (totalExponent m e) = m.log2 + e - 52 := by
    rw [targetExponent_eq]
    omega
  have hshift : ((m.log2 : Int) + e - 52 - e).toNat = m.log2 - 52 := by omega
  have hexponent : e + ((m.log2 - 52 : Nat) : Int) = m.log2 + e - 52 := by omega
  obtain ⟨hlow, hhigh⟩ := (Nat.log2_eq_iff hm).1 rfl
  have hfloor : 2 ^ 52 ≤ m / 2 ^ (m.log2 - 52) ∧ m / 2 ^ (m.log2 - 52) < 2 ^ 53 := by
    rw [Nat.le_div_iff_mul_le (Nat.two_pow_pos _), Nat.div_lt_iff_lt_mul (Nat.two_pow_pos _),
      ← Nat.pow_add, ← Nat.pow_add, show 52 + (m.log2 - 52) = m.log2 by omega,
      show 53 + (m.log2 - 52) = m.log2 + 1 by omega]
    exact ⟨hlow, hhigh⟩
  rw [roundWithAccuracy, shiftToTargetExponent, htarget, shiftToExponent, hshift]
  dsimp only
  rw [hexponent]
  have hbelow := le_roundedMantissa
    ((ExtendedMantissa.ofMantissaAndAccuracy m accuracy) >>> (m.log2 - 52))
  have habove := roundedMantissa_le_succ
    ((ExtendedMantissa.ofMantissaAndAccuracy m accuracy) >>> (m.log2 - 52))
  rw [mantissa_shiftRight, mantissa_ofMantissaAndAccuracy] at hbelow habove
  generalize ((ExtendedMantissa.ofMantissaAndAccuracy m accuracy) >>>
    (m.log2 - 52)).roundedMantissa = r at hbelow habove
  rcases Nat.lt_or_ge r (2 ^ 53) with hless | hge
  · have hr : r.log2 = 52 := (Nat.log2_eq_iff (by omega)).2 ⟨by omega, hless⟩
    rw [shiftToTargetExponent_normal hr hmin]
    have hne : r ≠ 0 := by omega
    exact ⟨r, _, Nat.pos_of_ne_zero hne, hr, Int.le_refl _, by omega, dif_neg hne⟩
  · obtain rfl : r = 2 ^ 53 := by omega
    rw [shiftToTargetExponent_carry hmin]
    have hne : (2 ^ 52 : Nat) ≠ 0 := by decide
    exact ⟨2 ^ 52, _, Nat.pos_of_ne_zero hne, Nat.log2_two_pow, by omega, by omega, dif_neg hne⟩

end MotionTutor.Decimal
