import MotionTutor.Proofs.Decimal.Rounding
import MotionTutor.Decimal.Binary

/-!
# Packing of binary fractions

A number that is not negative has the bits `e · 2 ^ 52 + m` of its exponent and its fraction, so
larger numbers have larger bits. Packing and unpacking gives a mantissa of full length back
(`unpack_pack_normal`) and makes no number larger (`atMost_unpack_pack`). A number of at most one
has no larger bits than one (`toNat_pack_le`).
-/

namespace MotionTutor.Decimal

open Float.Model Float.Model.UnpackedFloat

/-! ## 1. Packed numbers -/

theorem toNat_unpackMantissa (b : BitVec 64) :
    (@unpackMantissa Format.binary64 b).toNat = b.toNat % hiddenBit := by
  show (b.extractLsb 51 0).toNat = _
  rw [BitVec.extractLsb_toNat]
  rfl

theorem toNat_unpackExponent (b : BitVec 64) :
    (@unpackExponent Format.binary64 b).toNat = b.toNat / hiddenBit % exponentLimit := by
  show (b.extractLsb 62 52).toNat = _
  rw [BitVec.extractLsb_toNat, Nat.shiftRight_eq_div_pow]
  rfl

theorem toNat_unpackSign (b : BitVec 64) :
    (@unpackSign Format.binary64 b).toNat = b.toNat / integerLimit % 2 := by
  show (b.extractLsb 63 63).toNat = _
  rw [BitVec.extractLsb_toNat, Nat.shiftRight_eq_div_pow]
  rfl

theorem toNat_packComponents (e : BitVec 11) (m : BitVec 52) :
    (packComponents Format.binary64 .positive e m).toNat = e.toNat * hiddenBit + m.toNat := by
  have hexponent : (Sign.toBitVec .positive ++ e).toNat = e.toNat := by
    rw [BitVec.toNat_append]
    simp [Sign.toBitVec]
  show ((Sign.toBitVec .positive ++ e) ++ m).toNat = _
  rw [BitVec.toNat_append, hexponent, ← Nat.shiftLeft_add_eq_or_of_lt m.isLt, Nat.shiftLeft_eq]
  rfl

/-- The mantissa of a normal number has the leading bit that is not written. -/
theorem toNat_append_hidden (m : BitVec 52) : (1#1 ++ m).toNat = hiddenBit + m.toNat := by
  rw [BitVec.toNat_append, ← Nat.shiftLeft_add_eq_or_of_lt m.isLt, Nat.shiftLeft_eq]
  rfl

/-- The parts of the bits of a number that is not negative. -/
theorem parts_of_toNat {b : BitVec 64} {e m : Nat} (he : e < 2047) (hm : m < hiddenBit)
    (hb : b.toNat = e * hiddenBit + m) :
    (@unpackExponent Format.binary64 b).toNat = e ∧ (@unpackMantissa Format.binary64 b).toNat = m ∧
      Sign.ofBitVec (@unpackSign Format.binary64 b) = .positive := by
  have hzero : @unpackSign Format.binary64 b = 0#1 := by
    refine BitVec.eq_of_toNat_eq ?_
    rw [toNat_unpackSign]
    show b.toNat / integerLimit % 2 = 0
    simp only [hiddenBit, integerLimit] at hm hb ⊢
    omega
  refine ⟨?_, ?_, by rw [Sign.ofBitVec, if_pos hzero]⟩
  · rw [toNat_unpackExponent]
    simp only [hiddenBit, exponentLimit] at hm hb ⊢
    omega
  · rw [toNat_unpackMantissa]
    simp only [hiddenBit] at hm hb ⊢
    omega

theorem eq_zero_iff_toNat {w n : Nat} {b : BitVec w} (h : b.toNat = n) : b = 0#w ↔ n = 0 := by
  rw [← h]
  exact ⟨fun heq => heq ▸ BitVec.toNat_zero, fun heq => BitVec.eq_of_toNat_eq heq⟩

theorem finite_congr {sign : Sign} {m m' : Nat} {e e' : Int} {hm : 0 < m} {hm' : 0 < m'}
    (hmantissa : m = m') (hexponent : e = e') :
    UnpackedFloat.finite sign m e hm = .finite sign m' e' hm' := by
  subst hmantissa hexponent
  rfl

/-- What the bits of a number stand for that is not negative, without the infinite. -/
theorem unpack_of_toNat {b : BitVec 64} {e m : Nat} (he : e < 2047) (hm : m < hiddenBit)
    (hb : b.toNat = e * hiddenBit + m) :
    UnpackedFloat.unpack Format.binary64 b =
      if e = 0 then
        if h : m = 0 then .zero .positive
        else .finite .positive m (-1074) (Nat.pos_of_ne_zero h)
      else .finite .positive (hiddenBit + m) (e - 1075) (Nat.add_pos_left (by decide) m) := by
  obtain ⟨hexponent, hmantissa, hsign⟩ := parts_of_toNat he hm hb
  have hinfinite : @unpackExponent Format.binary64 b ≠ -1#_ := by
    intro h
    have := congrArg BitVec.toNat h
    rw [hexponent] at this
    exact absurd this (Nat.ne_of_lt he)
  unfold UnpackedFloat.unpack
  dsimp only
  rw [if_neg hinfinite, hsign]
  by_cases hsmall : e = 0
  · rw [if_pos hsmall, if_pos ((eq_zero_iff_toNat hexponent).2 hsmall)]
    by_cases hnone : m = 0
    · rw [dif_pos hnone, dif_pos ((eq_zero_iff_toNat hmantissa).2 hnone)]
    · rw [dif_neg hnone, dif_neg fun h => hnone ((eq_zero_iff_toNat hmantissa).1 h)]
      exact finite_congr hmantissa (by rw [hexponent, hsmall]; rfl)
  · rw [if_neg hsmall, if_neg fun h => hsmall ((eq_zero_iff_toNat hexponent).1 h)]
    have hfull : (1#1 ++ @unpackMantissa Format.binary64 b).toNat = hiddenBit + m := by
      rw [← hmantissa]
      exact toNat_append_hidden _
    exact finite_congr hfull (by rw [hexponent]; rfl)

/-- The bits of a positive number that is in range. -/
theorem toNat_pack_finite {m : Nat} {e : Int} (hm : 0 < m) (hmin : -1074 ≤ e) (hmax : e ≤ 971) :
    (UnpackedFloat.pack Format.binary64 (.finite .positive m e hm)).toNat =
      if m.log2 = 52 then (e + 1075).toNat * hiddenBit + (m - hiddenBit) else m % hiddenBit := by
  have hbiased : (e + 1023 + 52).toNat = (e + 1075).toNat := by omega
  have hrange : ¬ 2 ^ 11 ≤ (e + 1075).toNat + 1 := by omega
  have hmantissa : (BitVec.ofNat 52 m).toNat = m % hiddenBit := BitVec.toNat_ofNat m 52
  show (if 2 ^ 11 ≤ (e + 1023 + 52).toNat + 1 then _ else
    if m.log2 + 1 = 53 then packComponents Format.binary64 .positive
      (BitVec.ofNat 11 (e + 1023 + 52).toNat) (BitVec.ofNat 52 m)
    else packComponents Format.binary64 .positive 0#11 (BitVec.ofNat 52 m)).toNat = _
  rw [hbiased, if_neg hrange]
  by_cases hlog : m.log2 = 52
  · obtain ⟨hlow, hhigh⟩ := (Nat.log2_eq_iff hm.ne').1 hlog
    have hfraction : m % hiddenBit = m - hiddenBit := by
      rw [hiddenBit]
      omega
    have hexponent : (BitVec.ofNat 11 (e + 1075).toNat).toNat = (e + 1075).toNat := by
      rw [BitVec.toNat_ofNat]
      omega
    rw [if_pos (by omega), if_pos hlog, toNat_packComponents, hmantissa, hexponent, hfraction]
  · rw [if_neg (by omega), if_neg hlog, toNat_packComponents, hmantissa]
    show 0 * hiddenBit + _ = _
    rw [Nat.zero_mul, Nat.zero_add]

theorem unpack_pack_eq (u : UnpackedFloat) : (Float.Model.pack u).unpack =
    UnpackedFloat.unpack Format.binary64 (UnpackedFloat.pack Format.binary64 u) := rfl

/-- A mantissa of full length is unpacked as it was packed. -/
theorem unpack_pack_normal {m : Nat} {e : Int} (hm : 0 < m) (hlog : m.log2 = 52)
    (hmin : -1074 ≤ e) (hmax : e ≤ 971) :
    (Float.Model.pack (.finite .positive m e hm)).unpack = .finite .positive m e hm := by
  obtain ⟨hlow, hhigh⟩ := (Nat.log2_eq_iff hm.ne').1 hlog
  have hbits := toNat_pack_finite hm hmin hmax
  rw [if_pos hlog] at hbits
  have hunpack := unpack_of_toNat (by omega) (by rw [hiddenBit]; omega) hbits
  rw [if_neg (by omega)] at hunpack
  have hmantissa : hiddenBit + (m - hiddenBit) = m := Nat.add_sub_of_le hlow
  have hexponent : ((e + 1075).toNat : Int) - 1075 = e := by omega
  rw [unpack_pack_eq, hunpack]
  exact finite_congr hmantissa hexponent

/-! ## 2. Bounds of packed numbers -/

/-- The bits of one. -/
def oneBits : Nat := 1023 * hiddenBit

theorem mul_zpow_le_one_iff {m : Nat} {e : Int} (hm : 0 < m) :
    (m : ℚ) * 2 ^ e ≤ 1 ↔ e ≤ 0 ∧ m ≤ 2 ^ (-e).toNat := by
  rcases Int.lt_or_le 0 e with he | he
  · refine iff_of_false (fun hle => ?_) fun h => absurd h.1 (Int.not_le.2 he)
    have hone : (1 : ℚ) ≤ m := by exact_mod_cast hm
    have htwo : (1 : ℚ) < 2 ^ e := one_lt_zpow₀ (by norm_num) he
    nlinarith
  · rw [and_iff_right he, ← Nat.cast_le (α := ℚ), ← zpow_toNat_two (by omega), zpow_neg,
      ← one_div, le_div_iff₀ (zpow_pos_two e)]

theorem zpow_le_of_mul_zpow_le {m : Nat} {e k : Int} (hm : 0 < m)
    (h : (m : ℚ) * 2 ^ e ≤ 2 ^ k) : e ≤ k := by
  have hone : (1 : ℚ) ≤ m := by exact_mod_cast hm
  have hle : (2 : ℚ) ^ e ≤ 2 ^ k := (le_mul_of_one_le_left (zpow_pos_two e).le hone).trans h
  exact (zpow_le_zpow_iff_right₀ (by norm_num)).1 hle

/-- A number of at most one has no larger bits than one. -/
theorem toNat_pack_le {u : UnpackedFloat} (h : AtMost 1 u) :
    (UnpackedFloat.pack Format.binary64 u).toNat ≤ oneBits := by
  cases h with
  | zero => decide
  | @finite m e hm hmin hle =>
    obtain ⟨hmax, hbound⟩ := (mul_zpow_le_one_iff hm).1 hle
    rw [toNat_pack_finite hm hmin (by omega)]
    split
    · rename_i hlog
      obtain ⟨hlow, hhigh⟩ := (Nat.log2_eq_iff hm.ne').1 hlog
      have he : 52 ≤ (-e).toNat := by
        by_contra h
        have hsmall : 2 ^ (-e).toNat ≤ 2 ^ 51 := Nat.pow_le_pow_right (by decide) (by omega)
        omega
      rcases Nat.eq_or_lt_of_le he with heq | hgt
      · rw [← heq] at hbound
        simp only [oneBits, hiddenBit]
        omega
      · simp only [oneBits, hiddenBit]
        omega
    · have hmod : m % hiddenBit < hiddenBit := Nat.mod_lt m (by decide)
      simp only [oneBits, hiddenBit] at hmod ⊢
      omega

/-- Packing makes a number no larger. -/
theorem atMost_unpack_pack {q : ℚ} {u : UnpackedFloat} (h : AtMost q u) (hq : q ≤ 2 ^ (64 : Int)) :
    AtMost q (Float.Model.pack u).unpack := by
  cases h with
  | zero => exact .zero
  | @finite m e hm hmin hle =>
    have hmax : e ≤ 64 := zpow_le_of_mul_zpow_le hm (hle.trans hq)
    by_cases hlog : m.log2 = 52
    · rw [unpack_pack_normal hm hlog hmin (by omega)]
      exact .finite hmin hle
    · have hbits := toNat_pack_finite hm hmin (by omega)
      rw [if_neg hlog] at hbits
      have hunpack := @unpack_of_toNat _ 0 (m % hiddenBit) (by decide)
        (Nat.mod_lt m (by decide)) (by rw [hbits, Nat.zero_mul, Nat.zero_add])
      rw [unpack_pack_eq, hunpack, if_pos rfl]
      by_cases hnone : m % hiddenBit = 0
      · rw [dif_pos hnone]
        exact .zero
      · rw [dif_neg hnone]
        refine .finite (Int.le_refl _) (le_trans ?_ hle)
        have hmod : ((m % hiddenBit : Nat) : ℚ) ≤ m := by exact_mod_cast Nat.mod_le m hiddenBit
        have hpow : (2 : ℚ) ^ (-1074 : Int) ≤ 2 ^ e :=
          zpow_le_zpow_right₀ (by norm_num) hmin
        exact mul_le_mul hmod hpow (zpow_pos_two _).le (Nat.cast_nonneg m)

end MotionTutor.Decimal
