/-!
# Runs of decimal digits

A natural number as the run of its digits, and back. Zeros in front do not change the value, so a
run padded to a width reads back as the number (`valueOf_padded`).
-/

namespace MotionTutor.Decimal

/-- The number that a run of digits spells; an empty run spells zero. -/
def valueOf (digits : List Char) : Nat := Nat.ofDigitChars 10 digits 0

/-- The digits of a number, without zeros in front. -/
def digits (n : Nat) : List Char := Nat.toDigits 10 n

/-- The digits of a number with zeros in front, `width` of them at least. -/
def padded (width n : Nat) : List Char := (digits n).leftpad width '0'

theorem valueOf_digits (n : Nat) : valueOf (digits n) = n := Nat.ofDigitChars_ten_toDigits

theorem valueOf_padded (width n : Nat) : valueOf (padded width n) = n := by
  simp [valueOf, padded, List.leftpad, Nat.ofDigitChars_append, Nat.ofDigitChars_replicate_zero,
    digits]

theorem isDigit_of_mem_digits {n : Nat} {c : Char} (h : c ∈ digits n) : c.isDigit = true :=
  Nat.isDigit_of_mem_toDigits (by decide) (by decide) h

theorem isDigit_of_mem_padded {width n : Nat} {c : Char} (h : c ∈ padded width n) :
    c.isDigit = true := by
  rcases List.mem_append.1 h with h | h
  · simp [(List.mem_replicate.1 h).2]
  · exact isDigit_of_mem_digits h

theorem length_digits_le {k n : Nat} (hk : 0 < k) : (digits n).length ≤ k ↔ n < Nat.pow 10 k :=
  Nat.length_toDigits_le_iff (by decide) hk

/-- A number that fits the width is padded to exactly this width. -/
theorem length_padded {width n : Nat} (hw : 0 < width) (h : n < Nat.pow 10 width) :
    (padded width n).length = width := by
  have := (length_digits_le hw).2 h
  simp only [padded, List.length_leftpad]
  omega

/-- A run of digits spells a number of no more digits. -/
theorem valueOf_lt {digits : List Char} (h : ∀ c ∈ digits, c.isDigit = true) :
    valueOf digits < Nat.pow 10 digits.length := by
  induction digits with
  | nil => exact Nat.one_pos
  | cons c digits ih =>
    obtain ⟨hc, hdigits⟩ := List.forall_mem_cons.1 h
    have hrest : Nat.ofDigitChars 10 digits 0 < Nat.pow 10 digits.length := ih hdigits
    have hdigit : c.toNat - '0'.toNat ≤ 9 := by
      have hle : c.toNat ≤ '9'.toNat := of_decide_eq_true (Bool.and_eq_true_iff.1 hc).2
      have h9 : '9'.toNat = 57 := rfl
      have h0 : '0'.toNat = 48 := rfl
      omega
    have hmul := Nat.mul_le_mul_left (Nat.pow 10 digits.length) hdigit
    rw [valueOf, Nat.ofDigitChars_cons, Nat.ofDigitChars_eq_ofDigitChars_zero, Nat.mul_zero,
      Nat.zero_add]
    show Nat.pow 10 digits.length * (c.toNat - '0'.toNat) + Nat.ofDigitChars 10 digits 0 <
      Nat.pow 10 digits.length * 10
    omega

/-- The digits of a number other than zero do not begin with a zero. -/
theorem digits_eq_cons {n : Nat} (hn : 1 ≤ n) :
    ∃ c ds, digits n = c :: ds ∧ '1' ≤ c ∧ c ≤ '9' := by
  induction n using Nat.strongRecOn with
  | ind n ih =>
    rw [digits, Nat.toDigits_eq_if (by decide)]
    split
    · rename_i hlt
      refine ⟨_, [], rfl, ?_⟩
      have : ∀ d < 10, 1 ≤ d → '1' ≤ Nat.digitChar d ∧ Nat.digitChar d ≤ '9' := by decide
      exact this n hlt hn
    · obtain ⟨c, ds, hds, hc⟩ := ih (n / 10) (by omega) (by omega)
      rw [digits] at hds
      exact ⟨c, ds ++ [(n % 10).digitChar], by rw [hds]; rfl, hc⟩

end MotionTutor.Decimal
