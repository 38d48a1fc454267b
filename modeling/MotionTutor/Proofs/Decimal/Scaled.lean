import MotionTutor.Json.Numeral
import MotionTutor.Proofs.Decimal.Share

/-!
# Decimal fractions as binary fractions

A decimal after the point is read as a significand over a power of ten, each rounded. The quotient
is a share if the significand is not larger than the power (`exists_scaled`): up to the nineteenth
power the bound is the power itself, which is on the grid of its own rounding, and from the
twentieth on it is the limit of words.
-/

namespace MotionTutor.Decimal

open Float.Model Float.Model.UnpackedFloat
open Json (powerOfTen scaled)

/-! ## 1. Powers of ten -/

/-- The number is positive and at least `n`. -/
def holdsAtLeast (n : Nat) : UnpackedFloat → Bool
  | .finite .positive m e _ => n * 2 ^ (-e).toNat ≤ m * 2 ^ e.toNat
  | _ => false

theorem atLeast_of_holdsAtLeast {n : Nat} {u : UnpackedFloat} (h : holdsAtLeast n u = true) :
    AtLeast n u := by
  cases u with
  | finite sign m e hm =>
    cases sign with
    | negative => exact absurd h Bool.false_ne_true
    | positive =>
      have hle : n * 2 ^ (-e).toNat ≤ m * 2 ^ e.toNat := of_decide_eq_true h
      refine .finite ?_
      rcases Int.lt_or_le e 0 with he | he
      · have hpow : (2 : ℚ) ^ e * (2 ^ (-e).toNat : Nat) = 1 := by
          rw [← zpow_toNat_two (by omega), ← zpow_add_two, Int.add_right_neg, zpow_zero]
        have hzero : e.toNat = 0 := by omega
        rw [hzero, Nat.pow_zero, Nat.mul_one] at hle
        have hcast : (n : ℚ) * (2 ^ (-e).toNat : Nat) ≤ m := by exact_mod_cast hle
        calc (n : ℚ) = n * (2 ^ (-e).toNat : Nat) * 2 ^ e := by
              rw [mul_assoc, mul_comm _ ((2 : ℚ) ^ e), hpow, mul_one]
          _ ≤ m * 2 ^ e := mul_le_mul_of_nonneg_right hcast (zpow_pos_two e).le
      · have hzero : (-e).toNat = 0 := by omega
        rw [hzero, Nat.pow_zero, Nat.mul_one] at hle
        rw [zpow_toNat_two he]
        exact_mod_cast hle
  | _ => exact absurd h Bool.false_ne_true

/-- What a significand that is divided by a power of ten does not exceed: the power itself, or else
the limit of words. -/
def powerBound (k : Nat) : Nat := if k ≤ 19 then 5 ^ k * 2 ^ k else 1 * 2 ^ 64

theorem holdsAtLeast_powerOfTen :
    ∀ k ∈ 308 :: List.range 23,
      holdsAtLeast (powerBound k) (powerOfTen k).toModel.unpack = true := by
  decide +kernel

/-- A power of ten that is not in the table is a rounded product. -/
theorem unpack_powerOfTen {k : Nat} (hlow : 23 ≤ k) (hhigh : k ≤ 307) :
    (powerOfTen k).toModel.unpack = (Float.Model.pack
      (roundWithAccuracy Format.binary64 .positive (1 <<< 53 * 10 ^ k) (-53) .exact)).unpack := by
  have htable : ¬ (1 < 2 ^ 53 ∧ k ≤ 22) := fun h => by omega
  have hlarge : ¬ Int.ofNat k > 2 ^ 11 := by
    show ¬ (k : Int) > 2048
    omega
  have hsmall : ¬ Int.ofNat k < -((2 ^ 11 : Int) + (1 : Nat).log2) := by
    show ¬ (k : Int) < -2048
    omega
  have hnonneg : 0 ≤ Int.ofNat k := Int.natCast_nonneg k
  have hmodel : Float.Model.ofScientific 1 (Int.ofNat k) = Float.Model.pack
      (roundWithAccuracy Format.binary64 .positive (1 <<< 53 * 10 ^ k) (-53) .exact) := by
    rw [Float.Model.ofScientific, UnpackedFloat.ofScientific, dif_neg (by decide),
      if_neg hlarge, if_neg hsmall, if_pos hnonneg]
    rfl
  rw [powerOfTen, Float.ofScientific, dif_neg htable, ← hmodel]
  rfl

theorem atLeast_largePower {k : Nat} (hlow : 23 ≤ k) (hhigh : k ≤ 307) :
    AtLeast (2 ^ (64 : Int)) (powerOfTen k).toModel.unpack := by
  have hne : 10 ^ k ≠ 0 := (Nat.pow_pos (by decide)).ne'
  have hlog : (1 <<< 53 * 10 ^ k).log2 = (10 ^ k).log2 + 53 := by
    rw [Nat.one_shiftLeft, Nat.mul_comm, log2_mul_two_pow hne]
  have hbelow : 64 ≤ (10 ^ k).log2 := by
    refine (Nat.le_log2 hne).2 (Nat.le_trans ?_ (Nat.pow_le_pow_right (by decide) hlow))
    decide
  have habove : (10 ^ k).log2 < 1023 := by
    refine (Nat.log2_lt hne).2 (Nat.lt_of_le_of_lt (Nat.pow_le_pow_right (by decide) hhigh) ?_)
    decide +kernel
  obtain ⟨r, e, hr, hlog', hmin, hmax, hround⟩ := @roundWithAccuracy_long (1 <<< 53 * 10 ^ k) (-53)
    .positive .exact (by omega) (by omega)
  rw [unpack_powerOfTen hlow hhigh, hround, unpack_pack_normal hr hlog' (by omega) (by omega)]
  have hle := two_pow_log2_le hr e
  rw [hlog'] at hle
  exact .finite ((zpow_le_zpow_right₀ (by norm_num) (by omega)).trans hle)

theorem atLeast_powerOfTen {k : Nat} (hk : k ≤ 308) :
    AtLeast (powerBound k) (powerOfTen k).toModel.unpack := by
  by_cases hlarge : 23 ≤ k ∧ k ≤ 307
  · have hbound : ((powerBound k : Nat) : ℚ) = 2 ^ (64 : Int) := by
      rw [powerBound, if_neg (by omega)]
      norm_num
    rw [hbound]
    exact atLeast_largePower hlarge.1 hlarge.2
  · refine atLeast_of_holdsAtLeast (holdsAtLeast_powerOfTen k ?_)
    rw [List.mem_cons, List.mem_range]
    omega

/-! ## 2. Significands over powers of ten -/

variable {significand k : Nat}

theorem atMost_significand (hword : significand < wordLimit) (hle : significand ≤ 10 ^ k) :
    AtMost (powerBound k) (UInt64.ofNat significand).toFloat.toModel.unpack := by
  have hsplit : 10 ^ k = 5 ^ k * 2 ^ k := Nat.mul_pow 5 2 k
  rw [powerBound]
  split
  · rename_i hk
    have hfive : 5 ^ k ≤ 5 ^ 19 := Nat.pow_le_pow_right (by decide) hk
    have hten : 10 ^ k ≤ 10 ^ 19 := Nat.pow_le_pow_right (by decide) hk
    have hlimit : 10 ^ 19 ≤ wordLimit := by decide
    rw [hsplit] at hle hten
    refine atMost_toFloat hle ?_ hword (hten.trans hlimit)
    have hlt : significand < 2 ^ (52 + k + 1) := by
      refine Nat.lt_of_le_of_lt hle ?_
      rw [show 52 + k + 1 = 53 + k by omega, Nat.pow_add]
      exact Nat.mul_lt_mul_of_pos_right (Nat.lt_of_le_of_lt hfive (by decide)) (Nat.two_pow_pos k)
    by_cases hzero : significand = 0
    · rw [hzero]
      exact Nat.zero_le _
    · exact Nat.le_of_lt_succ ((Nat.log2_lt hzero).2 hlt)
  · have hlimit : wordLimit = 1 * 2 ^ 64 := by decide
    refine atMost_toFloat (hlimit ▸ hword.le) ?_ hword hlimit.ge
    by_cases hzero : significand = 0
    · rw [hzero]
      exact Nat.zero_le _
    · have hlog : significand.log2 < 64 := (Nat.log2_lt hzero).2 (by simpa [hlimit] using hword)
      omega

theorem one_le_powerBound (k : Nat) : (1 : ℚ) ≤ (powerBound k : Nat) := by
  have hpos : 0 < powerBound k := by
    rw [powerBound]
    split
    · exact Nat.mul_pos (Nat.pow_pos (by decide)) (Nat.two_pow_pos k)
    · decide
  exact_mod_cast hpos

theorem AtLeast.mono {p q : ℚ} {u : UnpackedFloat} (h : AtLeast q u) (hle : p ≤ q) :
    AtLeast p u := by
  obtain ⟨hq⟩ := h
  exact .finite (hle.trans hq)

theorem le_pow_of_lt_wordLimit (hword : significand < wordLimit) (hk : 20 ≤ k) :
    significand ≤ 10 ^ k := by
  have hlimit : wordLimit ≤ 10 ^ 20 := by decide
  exact (hword.le.trans hlimit).trans (Nat.pow_le_pow_right (by decide) hk)

theorem isShare_zero : IsShare 0 := by
  show (0 : Float).toBits.toNat ≤ oneBits
  decide

/-- **A significand over a larger power of ten is in range, and a share.** -/
theorem exists_scaled (hword : significand < wordLimit) (hle : significand ≤ 10 ^ k)
    (hk : 0 < k) : ∃ x, scaled significand (-k) = some x ∧ IsShare x := by
  have hnegative : ¬ (0 : Int) ≤ -k := by omega
  have hcount : (-(-(k : Int))).toNat = k := by omega
  rw [scaled]
  dsimp only
  rw [if_neg hnegative, hcount]
  split
  · rename_i hsmall
    exact ⟨_, rfl, isShare_div (atMost_significand hword hle) (atLeast_powerOfTen hsmall)⟩
  · rename_i hlarge
    split
    · have hle308 := le_pow_of_lt_wordLimit hword (by decide : 20 ≤ 308)
      have hfirst := isShare_div (atMost_significand hword hle308)
        (atLeast_powerOfTen (Nat.le_refl 308))
      exact ⟨_, rfl, isShare_div hfirst.atMost
        ((atLeast_powerOfTen (by omega)).mono (one_le_powerBound _))⟩
    · exact ⟨0, rfl, isShare_zero⟩

end MotionTutor.Decimal
