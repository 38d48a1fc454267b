import MotionTutor.Proofs.Decimal.Packing

/-!
# Shares

A share is a number from zero to one (`IsShare`). The quotient of two numbers that are not negative
is a share if the divisor is not smaller (`isShare_div`); so is the share that some things have
among others (`isShare_natDiv`). The bounds carry through: rounding a whole number does not leave a
bound on its grid, and neither does rounding the quotient, since one is on every grid below it.
-/

namespace MotionTutor.Decimal

open Float.Model Float.Model.UnpackedFloat

/-! ## 1. Shares -/

/-- A number from zero to one. -/
def IsShare (x : Float) : Prop := x.toBits.toNat ≤ oneBits

variable {x y : Float} {q : ℚ}

theorem le_two_pow_of_lt_hiddenBit {m k : Nat} (hm : m < hiddenBit) (hk : 52 ≤ k) : m ≤ 2 ^ k :=
  hm.le.trans (Nat.pow_le_pow_right (Nat.succ_pos 1) hk)

theorem IsShare.atMost (h : IsShare x) : AtMost 1 x.toModel.unpack := by
  obtain ⟨⟨bits, valid⟩⟩ := x
  have hle : bits.toBitVec.toNat ≤ oneBits := h
  have hmod : bits.toBitVec.toNat % hiddenBit < hiddenBit := Nat.mod_lt _ (by decide)
  have hdiv : bits.toBitVec.toNat / hiddenBit ≤ 1023 := Nat.div_le_of_le_mul hle
  have hsplit : bits.toBitVec.toNat =
      bits.toBitVec.toNat / hiddenBit * hiddenBit + bits.toBitVec.toNat % hiddenBit := by
    rw [Nat.mul_comm, Nat.div_add_mod]
  have hunpack := unpack_of_toNat (Nat.lt_of_le_of_lt hdiv (by decide)) hmod hsplit
  show AtMost 1 (UnpackedFloat.unpack Format.binary64 bits.toBitVec)
  rw [hunpack]
  generalize bits.toBitVec.toNat / hiddenBit = e at hsplit hdiv
  generalize bits.toBitVec.toNat % hiddenBit = m at hsplit hmod
  by_cases hsmall : e = 0
  · rw [if_pos hsmall]
    by_cases hnone : m = 0
    · rw [dif_pos hnone]
      exact .zero
    · rw [dif_neg hnone]
      refine .finite (Int.le_refl _) ((mul_zpow_le_one_iff (by omega)).2 ⟨by decide, ?_⟩)
      exact le_two_pow_of_lt_hiddenBit hmod (by decide)
  · rw [if_neg hsmall]
    refine .finite (by omega) ((mul_zpow_le_one_iff (by omega)).2 ⟨by omega, ?_⟩)
    rcases Nat.eq_or_lt_of_le hdiv with rfl | hlt
    · simp only [oneBits, hiddenBit] at hle hsplit ⊢
      obtain rfl : m = 0 := by omega
      decide
    · have hpow : 2 ^ 53 ≤ 2 ^ (-((e : Int) - 1075)).toNat :=
        Nat.pow_le_pow_right (by decide) (by omega)
      simp only [hiddenBit] at hmod ⊢
      omega

theorem isShare_ofModel_pack {u : UnpackedFloat} (h : AtMost 1 u) :
    IsShare (.ofModel (Float.Model.pack u)) := toNat_pack_le h

/-! ## 2. Quotients -/

theorem two_pow_log2_le {m : Nat} (hm : 0 < m) (e : Int) :
    (2 : ℚ) ^ ((m.log2 : Int) + e) ≤ m * 2 ^ e := by
  have hle : ((2 ^ m.log2 : Nat) : ℚ) ≤ m := by exact_mod_cast Nat.log2_self_le hm.ne'
  rw [zpow_add_two, zpow_natCast]
  push_cast at hle
  exact mul_le_mul_of_nonneg_right hle (zpow_pos_two e).le

theorem lt_two_pow_log2 (m : Nat) (e : Int) :
    (m : ℚ) * 2 ^ e < 2 ^ ((m.log2 : Int) + 1 + e) := by
  have hlt : (m : ℚ) < ((2 ^ (m.log2 + 1) : Nat) : ℚ) := by exact_mod_cast Nat.lt_log2_self
  rw [zpow_add_two, ← Nat.cast_succ, zpow_natCast]
  push_cast at hlt
  exact mul_lt_mul_of_pos_right hlt (zpow_pos_two e)

/-- Two numbers compared by their mantissas, on a grid with both of their exponents on it. -/
theorem shiftLeft_le_of_le {m₁ m₂ : Nat} {e₁ e₂ t : Int}
    (hle : (m₁ : ℚ) * 2 ^ e₁ ≤ m₂ * 2 ^ e₂) (ht : t ≤ e₁ - e₂) (hneg : t ≤ 0) :
    m₁ <<< (e₁ - e₂ - t).toNat ≤ m₂ * 2 ^ (-t).toNat := by
  have hcast : (m₁ : ℚ) * 2 ^ (e₁ - e₂ - t) ≤ m₂ * 2 ^ (-t) := by
    have hmul := mul_le_mul_of_nonneg_right hle (zpow_pos_two (-e₂ - t)).le
    rwa [mul_assoc, mul_assoc, ← zpow_add_two, ← zpow_add_two,
      show e₁ + (-e₂ - t) = e₁ - e₂ - t by omega, show e₂ + (-e₂ - t) = -t by omega] at hmul
  rw [zpow_toNat_two (by omega), zpow_toNat_two (by omega)] at hcast
  rw [Nat.shiftLeft_eq]
  exact_mod_cast hcast

/-- A quotient of at most one, with what its remainder says of its accuracy, stays so when it is
rounded. -/
theorem atMost_round_quotient {m n : Nat} {t : Int} (ht : t ≤ 0) (hle : m ≤ n * 2 ^ (-t).toNat) :
    AtMost 1 (roundWithAccuracy Format.binary64 .positive (m / n) t
      (accuracyOfFraction (m % n) n)) := by
  have hbound : m / n ≤ 2 ^ (-t).toNat := Nat.div_le_of_le_mul hle
  have hrest : accuracyOfFraction (m % n) n ≠ .exact → m / n < 2 ^ (-t).toNat := by
    intro hinexact
    refine Nat.lt_of_le_of_ne hbound fun heq => hinexact ?_
    have hsplit := Nat.div_add_mod m n
    rw [heq] at hsplit
    rw [accuracyOfFraction, if_pos (by omega)]
  have hplace : roundingExponent (m / n) t ≤ 0 := by
    have hsize : (m / n).log2 ≤ (-t).toNat := by
      by_cases hzero : m / n = 0
      · rw [hzero]
        exact Nat.zero_le _
      · exact (Nat.pow_le_pow_iff_right (by decide)).1 ((Nat.log2_self_le hzero).trans hbound)
    rw [roundingExponent, targetExponent_eq]
    omega
  have hround := @atMost_roundWithAccuracy (m / n) 1 t 0 _ hplace
    (by rwa [Nat.one_mul, Int.zero_sub])
    (fun hinexact => by rw [Nat.one_mul, Int.zero_sub]; exact hrest hinexact)
  rwa [Nat.cast_one, zpow_zero, one_mul] at hround

/-- **The quotient by a number that is not smaller is at most one.** -/
theorem atMost_div {u v : UnpackedFloat} (hu : AtMost q u) (hv : AtLeast q v) :
    AtMost 1 (UnpackedFloat.div Format.binary64 u v) := by
  obtain @⟨m₂, e₂, hm₂, hle₂⟩ := hv
  cases hu with
  | zero => exact .zero
  | @finite m₁ e₁ hm₁ hmin hle₁ =>
    have hle : (m₁ : ℚ) * 2 ^ e₁ ≤ m₂ * 2 ^ e₂ := hle₁.trans hle₂
    have hlog : (m₁.log2 : Int) + e₁ < m₂.log2 + 1 + e₂ := by
      have hlt := (two_pow_log2_le hm₁ e₁).trans_lt (hle.trans_lt (lt_two_pow_log2 m₂ e₂))
      exact (zpow_lt_zpow_iff_right₀ (by norm_num)).1 hlt
    have htarget : Format.binary64.targetExponent (totalExponent m₁ e₁ - totalExponent m₂ e₂) ≤
        0 := by
      rw [targetExponent_of, totalExponent_of, totalExponent_of]
      omega
    exact atMost_round_quotient ((Int.min_le_right _ _).trans htarget)
      (shiftLeft_le_of_le hle (Int.min_le_left _ _) ((Int.min_le_right _ _).trans htarget))

/-- **A quotient of numbers that are not negative, by one that is not smaller, is a share.** -/
theorem isShare_div (hx : AtMost q x.toModel.unpack) (hy : AtLeast q y.toModel.unpack) :
    IsShare (x / y) := isShare_ofModel_pack (atMost_div hx hy)

/-! ## 3. Natural numbers -/

theorem round_eq (n : Nat) : UnpackedFloat.round Format.binary64 .positive n 0 =
    roundWithAccuracy Format.binary64 .positive (n * 2 ^ (52 - n.log2)) (0 - (52 - n.log2 : Nat))
      .exact := by
  have hshift : (0 - Format.binary64.targetExponent (totalExponent n 0)).toNat = 52 - n.log2 := by
    rw [targetExponent_eq]
    omega
  rw [UnpackedFloat.round, decreaseExponent, hshift, Nat.shiftLeft_eq]

/-- Rounding a natural number stays within a bound on its grid. -/
theorem atMost_round {n bound place : Nat} (hle : n ≤ bound * 2 ^ place)
    (hlog : n.log2 ≤ 52 + place) :
    AtMost (bound * 2 ^ (place : Int)) (UnpackedFloat.round Format.binary64 .positive n 0) := by
  rw [round_eq]
  have hbound : n * 2 ^ (52 - n.log2) ≤
      bound * 2 ^ ((place : Int) - (0 - (52 - n.log2 : Nat))).toNat := by
    have hsplit : ((place : Int) - (0 - (52 - n.log2 : Nat))).toNat = place + (52 - n.log2) := by
      omega
    rw [hsplit, Nat.pow_add, ← Nat.mul_assoc]
    exact Nat.mul_le_mul_right _ hle
  refine atMost_roundWithAccuracy ?_ hbound fun h => absurd rfl h
  rw [roundingExponent, targetExponent_eq]
  rcases Nat.eq_zero_or_pos n with rfl | hn
  · rw [Nat.zero_mul, Nat.log2_zero]
    omega
  · rw [log2_mul_two_pow hn.ne']
    omega

theorem ofNat_eq (n : Nat) : UnpackedFloat.ofNat Format.binary64 n =
    if n = 0 then .zero .positive else UnpackedFloat.round Format.binary64 .positive n 0 := by
  unfold UnpackedFloat.ofNat UnpackedFloat.ofInt UnpackedFloat.normalize
  rcases Nat.eq_zero_or_pos n with rfl | hn
  · rfl
  · rw [if_neg hn.ne', Int.compare_eq_gt.2 (by omega)]
    rfl

/-- A word as a number stays within a bound on its grid. -/
theorem atMost_toFloat {n bound place : Nat} (hle : n ≤ bound * 2 ^ place)
    (hlog : n.log2 ≤ 52 + place) (hword : n < wordLimit)
    (hbound : bound * 2 ^ place ≤ wordLimit) :
    AtMost ((bound * 2 ^ place : Nat) : ℚ) (UInt64.ofNat n).toFloat.toModel.unpack := by
  have hn : (UInt64.ofNat n).toNat = n := UInt64.toNat_ofNat_of_lt' hword
  have hcast : ((bound * 2 ^ place : Nat) : ℚ) = bound * 2 ^ (place : Int) := by
    rw [zpow_natCast]
    push_cast
    rfl
  have hle64 : ((bound * 2 ^ place : Nat) : ℚ) ≤ 2 ^ (64 : Int) := by
    have hword : ((bound * 2 ^ place : Nat) : ℚ) ≤ (wordLimit : Nat) := by exact_mod_cast hbound
    refine hword.trans ?_
    norm_num [wordLimit]
  show AtMost _
    (Float.Model.pack (UnpackedFloat.ofNat Format.binary64 (UInt64.ofNat n).toNat)).unpack
  rw [hn]
  refine atMost_unpack_pack ?_ hle64
  rw [ofNat_eq]
  split
  · exact .zero
  · rw [hcast]
    exact atMost_round hle hlog

/-- A number of less than 53 bits is the number of its word. -/
theorem unpack_toFloat {n : Nat} (hn : 0 < n) (hlt : n < 2 ^ 53) :
    ∃ (m : Nat) (e : Int) (hm : 0 < m), m.log2 = 52 ∧ -52 ≤ e ∧ e ≤ 0 ∧ (m : ℚ) * 2 ^ e = n ∧
      (UInt64.ofNat n).toFloat.toModel.unpack = .finite .positive m e hm := by
  have hlog : n.log2 ≤ 52 := Nat.le_of_lt_succ ((Nat.log2_lt hn.ne').2 hlt)
  have hpos : 0 < n * 2 ^ (52 - n.log2) := Nat.mul_pos hn (Nat.two_pow_pos _)
  have hlogm : (n * 2 ^ (52 - n.log2)).log2 = 52 := by
    rw [log2_mul_two_pow hn.ne']
    omega
  have hword : (UInt64.ofNat n).toNat = n :=
    UInt64.toNat_ofNat_of_lt' (Nat.lt_trans hlt (by decide))
  have hround : UnpackedFloat.round Format.binary64 .positive n 0 =
      .finite .positive (n * 2 ^ (52 - n.log2)) (0 - (52 - n.log2 : Nat)) hpos := by
    have hnormal := @roundWithAccuracy_normal _ (0 - (52 - n.log2 : Nat)) .positive hlogm
      (by omega) 0 hpos
    rw [Nat.pow_zero, Nat.mul_one, Int.natCast_zero, Int.sub_zero] at hnormal
    rw [round_eq]
    exact hnormal
  refine ⟨n * 2 ^ (52 - n.log2), 0 - (52 - n.log2 : Nat), hpos, hlogm, by omega, by omega, ?_, ?_⟩
  · push_cast
    rw [mul_assoc, ← zpow_natCast, ← zpow_add_two]
    norm_num
  · show (Float.Model.pack
      (UnpackedFloat.ofNat Format.binary64 (UInt64.ofNat n).toNat)).unpack = _
    rw [hword, ofNat_eq, if_neg hn.ne', hround]
    refine unpack_pack_normal hpos hlogm ?_ ?_
    · omega
    · omega

theorem mul_one_eq {m : Nat} {e : Int} (hm : 0 < m) (hlog : m.log2 = 52) (hmin : -1074 ≤ e) :
    UnpackedFloat.mul Format.binary64 (.finite .positive m e hm)
      (.finite .positive hiddenBit (-52) (by decide)) = .finite .positive m e hm := by
  have hround := @roundWithAccuracy_normal m e .positive hlog hmin 52 hm
  show roundWithAccuracy Format.binary64 .positive (m * hiddenBit) (e + -52) .exact = _
  rw [show hiddenBit = 2 ^ 52 by decide]
  exact hround

/-- A number of less than 53 bits has the number of its word. -/
theorem unpack_natToFloat {n : Nat} (hlt : n < 2 ^ 53) :
    n.toFloat.toModel.unpack = (UInt64.ofNat n).toFloat.toModel.unpack := by
  have hone : (Float.exactlyRepresentablePowersOfTen[0]).toModel.unpack =
      .finite .positive hiddenBit (-52) (by decide) := by rfl
  have hproduct : n.toFloat =
      (UInt64.ofNat n).toFloat * Float.exactlyRepresentablePowersOfTen[0] :=
    dif_pos ⟨hlt, Nat.zero_le 22⟩
  have hunpack : n.toFloat.toModel.unpack = (Float.Model.pack (UnpackedFloat.mul Format.binary64
      (UInt64.ofNat n).toFloat.toModel.unpack
      (.finite .positive hiddenBit (-52) (by decide)))).unpack := by
    rw [hproduct, ← hone]
    rfl
  rw [hunpack]
  rcases Nat.eq_zero_or_pos n with rfl | hn
  · rfl
  · obtain ⟨m, e, hm, hlog, hmin, hmax, -, hword⟩ := unpack_toFloat hn hlt
    rw [hword, mul_one_eq hm hlog (by omega)]
    exact unpack_pack_normal hm hlog (by omega) (by omega)

/-- **The share of some things among others.** -/
theorem isShare_natDiv {r a : Nat} (hle : r ≤ a) (ha : 0 < a) (hlt : a < 2 ^ 53) :
    IsShare (r.toFloat / a.toFloat) := by
  obtain ⟨m, e, hm, -, -, -, hvalue, hword⟩ := unpack_toFloat ha hlt
  have hcast : (r : ℚ) ≤ a := by exact_mod_cast hle
  have hdivisor : AtLeast a a.toFloat.toModel.unpack := by
    rw [unpack_natToFloat hlt, hword]
    exact .finite hvalue.ge
  refine isShare_div ?_ hdivisor
  rw [unpack_natToFloat (hle.trans_lt hlt)]
  rcases Nat.eq_zero_or_pos r with rfl | hr
  · exact .zero
  · obtain ⟨m, e, hm, -, hmin, -, hvalue, hword⟩ := unpack_toFloat hr (hle.trans_lt hlt)
    rw [hword]
    exact .finite (by omega) (hvalue.trans_le hcast)

end MotionTutor.Decimal
