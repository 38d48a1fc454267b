import MotionTutor.Proofs.Decimal.Scaled
import MotionTutor.Proofs.Decimal.Shortest
import MotionTutor.Proofs.Json.Numeral

/-!
# Shares read from their texts

A share is read from its text as a share (`exists_readAs_share`), though not always as the same one.

Its text is `0.0`, `1.0` or a decimal below one, with its digits after the point or with a negative
exponent. The digits that count make a significand of no more digits than the power of ten has that
it is divided by, so the quotient is at most one and its rounding too (`exists_magnitude`).
-/

namespace MotionTutor.Json

open Decimal (IsShare)

/-! ## 1. Significands -/

theorem valueOf_digit_lt {d : Char} (h : d.isDigit = true) : Decimal.valueOf [d] < 10 :=
  Decimal.valueOf_lt (List.forall_mem_singleton.2 h)

/-- The digits that count are at most those there are, and bound the significand. -/
theorem extendSignificand_bounds {n places : Nat} {ds : List Char}
    (hds : ∀ c ∈ ds, c.isDigit = true) (hn : n < 10 ^ places) (hmax : n ≤ maxSignificand) :
    (extendSignificand n ds).1 ≤ maxSignificand ∧
      (extendSignificand n ds).2.length ≤ ds.length ∧
      (extendSignificand n ds).1 <
        10 ^ (places + (ds.length - (extendSignificand n ds).2.length)) := by
  induction ds generalizing n places with
  | nil => exact ⟨hmax, Nat.le_refl _, hn⟩
  | cons d ds ih =>
    obtain ⟨hd, hds⟩ := List.forall_mem_cons.1 hds
    have hdigit := valueOf_digit_lt hd
    rw [extendSignificand]
    split
    · rename_i hlonger
      have hpow : n * 10 + Decimal.valueOf [d] < 10 ^ (places + 1) := by
        rw [Nat.pow_succ]
        omega
      obtain ⟨hle, hlength, hlt⟩ := ih hds hpow hlonger
      refine ⟨hle, Nat.le_succ_of_le hlength, ?_⟩
      have hcount : places + ((d :: ds).length -
          (extendSignificand (n * 10 + Decimal.valueOf [d]) ds).2.length) = places + 1 +
            (ds.length - (extendSignificand (n * 10 + Decimal.valueOf [d]) ds).2.length) := by
        rw [List.length_cons]
        omega
      rw [hcount]
      exact hlt
    · refine ⟨hmax, Nat.le_refl _, ?_⟩
      rw [Nat.sub_self, Nat.add_zero]
      exact hn

/-- The first digit always counts. -/
theorem length_unused_lt {d : Char} {ds : List Char} (hds : ∀ c ∈ d :: ds, c.isDigit = true) :
    (extendSignificand 0 (d :: ds)).2.length < (d :: ds).length := by
  obtain ⟨hd, hds⟩ := List.forall_mem_cons.1 hds
  have hdigit := valueOf_digit_lt hd
  have hlimit : 9 < maxSignificand := by decide
  have hlonger : 0 * 10 + Decimal.valueOf [d] ≤ maxSignificand := by omega
  have hpow : 0 * 10 + Decimal.valueOf [d] < 10 ^ 1 := by omega
  rw [extendSignificand, if_pos hlonger]
  exact Nat.lt_succ_of_le (extendSignificand_bounds hds hpow hlonger).2.1

/-! ## 2. Numerals below one -/

/-- A numeral that begins after the point: its one digit before the point is a zero, or a negative
exponent moves it there. -/
structure Numeral.BelowOne (n : Numeral) (first : Char) (places : Nat) : Prop where
  negative : n.negative = false
  whole : n.whole = [first]
  isDigit_first : first.isDigit = true
  decimals : ∀ c ∈ n.decimals.getD [], c.isDigit = true
  exponent : n.writtenExponent = -places
  below : 0 < places ∨ first = '0' ∧ n.decimals.getD [] ≠ []

/-- **A numeral below one is a share.** -/
theorem exists_magnitude {n : Numeral} {first : Char} {places : Nat} (h : n.BelowOne first places) :
    ∃ x, n.magnitude = some x ∧ IsShare x := by
  have hdigit := valueOf_digit_lt h.isDigit_first
  have hlimit : 9 < maxSignificand := by decide
  have hfirst : 0 * 10 + Decimal.valueOf [first] ≤ maxSignificand := by omega
  have hhead : extendSignificand 0 n.whole = (Decimal.valueOf [first], []) := by
    rw [h.whole, extendSignificand, if_pos hfirst, Nat.zero_mul, Nat.zero_add, extendSignificand]
  -- the leading digits are as many as the places they are moved by, or there are none
  have hbounds : ∃ lead ≤ places, Decimal.valueOf [first] < 10 ^ lead ∧
      0 < places + ((n.decimals.getD []).length -
        (extendSignificand (Decimal.valueOf [first]) (n.decimals.getD [])).2.length) := by
    rcases h.below with hplaces | ⟨rfl, hne⟩
    · exact ⟨1, hplaces, hdigit, by omega⟩
    · have hzero : Decimal.valueOf ['0'] = 0 := rfl
      have hdecimals := h.decimals
      rw [hzero]
      cases hds : n.decimals.getD [] with
      | nil => exact absurd hds hne
      | cons d ds =>
        rw [hds] at hdecimals
        have hunused := length_unused_lt hdecimals
        exact ⟨0, Nat.zero_le _, Nat.one_pos, by omega⟩
  obtain ⟨lead, hlead, hvalue, hpos⟩ := hbounds
  obtain ⟨hmax, hlength, hlt⟩ := extendSignificand_bounds h.decimals hvalue (by omega)
  unfold Numeral.magnitude
  rw [hhead]
  dsimp only
  generalize extendSignificand (Decimal.valueOf [first]) (n.decimals.getD []) = read at *
  obtain ⟨significand, unused⟩ := read
  have hexponent : (([] : List Char).length : Int) -
      ((n.decimals.getD []).length - unused.length : Nat) + n.writtenExponent =
        -((places + ((n.decimals.getD []).length - unused.length) : Nat) : Int) := by
    rw [h.exponent, List.length_nil]
    omega
  have hle : significand ≤ 10 ^ (places + ((n.decimals.getD []).length - unused.length)) :=
    hlt.le.trans (Nat.pow_le_pow_right (by decide) (Nat.add_le_add_right hlead _))
  have hword : significand < wordLimit := Nat.lt_of_le_of_lt hmax (by decide)
  rw [hexponent]
  exact Decimal.exists_scaled hword hle hpos

theorem exists_value {n : Numeral} {first : Char} {places : Nat} (h : n.BelowOne first places)
    (hfraction : n.decimals.isNone = false ∨ n.exponent.isNone = false) :
    ∃ x, n.value = some (.fraction x) ∧ IsShare x := by
  obtain ⟨x, hx, hshare⟩ := exists_magnitude h
  refine ⟨x, ?_, hshare⟩
  unfold Numeral.value
  rw [h.negative, hx]
  rcases hfraction with hnone | hnone <;> simp [hnone]

/-! ## 3. Texts below one -/

theorem readDigits_run {ds rest : List Char} (hne : ds ≠ []) (hds : ∀ c ∈ ds, c.isDigit = true)
    (hrest : ∀ c ∈ rest.head?, c.isDigit = false) :
    readDigits (ds ++ rest) = some (ds, rest) := by
  have htake : rest.takeWhile Char.isDigit = [] := by
    cases rest with
    | nil => rfl
    | cons c rest => exact List.takeWhile_cons_of_neg (by rw [hrest c rfl]; decide)
  have hdrop : rest.dropWhile Char.isDigit = rest := by
    cases rest with
    | nil => rfl
    | cons c rest => exact List.dropWhile_cons_of_neg (by rw [hrest c rfl]; decide)
  rw [readDigits, List.takeWhile_append_of_pos hds, List.dropWhile_append_of_pos hds, htake, hdrop,
    List.append_nil]
  split
  · exact absurd rfl hne
  · rfl

/-- One digit before anything but a digit. -/
theorem readWhole_digit {d : Char} {rest : List Char} (hd : d.isDigit = true)
    (hrest : ∀ c ∈ rest.head?, c.isDigit = false) :
    readWhole (d :: rest) = some ([d], rest) := by
  by_cases hzero : d = '0'
  · subst hzero
    have hnone : ¬ rest.head?.any Char.isDigit = true := by
      rw [Option.any_eq_true]
      rintro ⟨c, hc, hdigit⟩
      rw [hrest c hc] at hdigit
      cases hdigit
    rw [readWhole, if_neg hnone]
  · rw [readWhole_of_ne hzero]
    exact readDigits_run (List.cons_ne_nil d []) (List.forall_mem_singleton.2 hd) hrest

theorem unsigned_digit {d : Char} (hd : d.isDigit = true) (rest : List Char) :
    ((d :: rest).head? == some '-') = false ∧ unsigned (d :: rest) = d :: rest := by
  have hsign : ((d :: rest).head? == some '-') = false := by
    rw [beq_eq_false_iff_ne]
    rintro ⟨⟩
    cases hd
  refine ⟨hsign, ?_⟩
  rw [unsigned, hsign]
  rfl

/-- A decimal with a point. -/
theorem read_point {d : Char} {ds : List Char} (hd : d.isDigit = true) (hne : ds ≠ [])
    (hds : ∀ c ∈ ds, c.isDigit = true) :
    Numeral.read (d :: '.' :: ds) = some (⟨false, [d], some ds, none⟩, []) := by
  obtain ⟨hsign, hunsigned⟩ := unsigned_digit hd ('.' :: ds)
  refine Numeral.read_eq_some_iff.2 ⟨hsign.symm, '.' :: ds, [], ?_, ?_, rfl⟩
  · rw [hunsigned]
    exact readWhole_digit hd (by rintro _ ⟨⟩; rfl)
  · have hread := @readDigits_run _ [] hne hds nofun
    rw [List.append_nil] at hread
    rw [readDecimals, hread]
    rfl

theorem readExponent_negative (k : Nat) :
    readExponent ('e' :: '-' :: Decimal.digits k) =
      some (some (true, Decimal.digits k), []) := by
  have hne : Decimal.digits k ≠ [] := by
    rcases Nat.eq_zero_or_pos k with rfl | hk
    · decide
    · obtain ⟨c, ds, hds, -⟩ := Decimal.digits_eq_cons hk
      rw [hds]
      exact List.cons_ne_nil c ds
  have hread := @readDigits_run _ [] hne (fun _ hc => Decimal.isDigit_of_mem_digits hc) nofun
  rw [List.append_nil] at hread
  rw [readExponent, if_pos (.inl rfl)]
  show (readDigits (Decimal.digits k)).map _ = _
  rw [hread]
  rfl

/-- A decimal with a negative exponent. -/
theorem read_exponential {d : Char} {ds : List Char} (hd : d.isDigit = true)
    (hds : ∀ c ∈ ds, c.isDigit = true) {exponent : Int} (hnegative : exponent < 0) :
    Numeral.read (exponential (d :: ds) exponent) =
      some (⟨false, [d], if ds = [] then none else some ds,
        some (true, Decimal.digits exponent.natAbs)⟩, []) := by
  have hexponent := readExponent_negative exponent.natAbs
  unfold exponential
  dsimp only
  rw [if_pos hnegative]
  cases ds with
  | nil =>
    obtain ⟨hsign, hunsigned⟩ := unsigned_digit hd ('e' :: '-' :: Decimal.digits exponent.natAbs)
    refine Numeral.read_eq_some_iff.2 ⟨hsign.symm,
      'e' :: '-' :: Decimal.digits exponent.natAbs, _, ?_, ?_, hexponent⟩
    · exact (congrArg readWhole hunsigned).trans (readWhole_digit hd (by rintro _ ⟨⟩; rfl))
    · exact readDecimals_of_ne nofun
  | cons c ds =>
    have hpoint : 1 < (d :: c :: ds).length := Nat.succ_lt_succ (Nat.succ_pos _)
    rw [if_pos hpoint]
    obtain ⟨hsign, hunsigned⟩ := unsigned_digit hd
      ('.' :: (c :: ds) ++ 'e' :: '-' :: Decimal.digits exponent.natAbs)
    refine Numeral.read_eq_some_iff.2 ⟨hsign.symm,
      '.' :: (c :: ds) ++ 'e' :: '-' :: Decimal.digits exponent.natAbs, _, ?_, ?_, hexponent⟩
    · exact (congrArg readWhole hunsigned).trans (readWhole_digit hd (by rintro _ ⟨⟩; rfl))
    · have hread := @readDigits_run _ ('e' :: '-' :: Decimal.digits exponent.natAbs)
        (List.cons_ne_nil c ds) hds (by rintro _ ⟨⟩; rfl)
      show (readDigits (c :: ds ++ _)).map _ = _
      rw [hread]
      rfl

/-! ## 4. Shares -/

/-- A decimal below one, written with zeros after the point, is read as a share. -/
theorem exists_read_positional {s : Decimal.Scientific} (hexponent : s.exponent < 0)
    (hne : s.digits ≠ []) (hdigits : ∀ c ∈ s.digits, c.isDigit = true) :
    ∃ n : Numeral, ∃ x, Numeral.read (positional s.digits s.exponent) = some (n, []) ∧
      n.value = some (.fraction x) ∧ IsShare x := by
  have hall : ∀ c ∈ List.replicate (-s.exponent - 1).toNat '0' ++ s.digits, c.isDigit = true := by
    intro c hc
    rcases List.mem_append.1 hc with hc | hc
    · rw [List.eq_of_mem_replicate hc]
      rfl
    · exact hdigits c hc
  have hne' : List.replicate (-s.exponent - 1).toNat '0' ++ s.digits ≠ [] := by
    rw [ne_eq, List.append_eq_nil_iff]
    exact fun h => hne h.2
  have hbelow : Numeral.BelowOne ⟨false, ['0'],
      some (List.replicate (-s.exponent - 1).toNat '0' ++ s.digits), none⟩ '0' 0 :=
    ⟨rfl, rfl, rfl, hall, rfl, .inr ⟨rfl, hne'⟩⟩
  obtain ⟨x, hvalue, hshare⟩ := exists_value hbelow (.inl rfl)
  refine ⟨_, x, ?_, hvalue, hshare⟩
  unfold positional
  rw [if_pos hexponent]
  exact read_point rfl hne' hall

/-- A decimal below one, written with a negative exponent, is read as a share. -/
theorem exists_read_exponential {d : Char} {ds : List Char} {exponent : Int}
    (hnegative : exponent < 0) (hd : d.isDigit = true) (hds : ∀ c ∈ ds, c.isDigit = true) :
    ∃ n : Numeral, ∃ x, Numeral.read (exponential (d :: ds) exponent) = some (n, []) ∧
      n.value = some (.fraction x) ∧ IsShare x := by
  have hwritten : (Decimal.valueOf (Decimal.digits exponent.natAbs) : Int) = exponent.natAbs := by
    rw [Decimal.valueOf_digits]
  have hdecimals : ∀ c ∈ (if ds = [] then none else some ds).getD [], c.isDigit = true := by
    split
    · exact List.forall_mem_nil _
    · exact hds
  have hpos : 0 < exponent.natAbs := by omega
  have hbelow : Numeral.BelowOne ⟨false, [d], if ds = [] then none else some ds,
      some (true, Decimal.digits exponent.natAbs)⟩ d exponent.natAbs :=
    ⟨rfl, rfl, hd, hdecimals, congrArg Neg.neg hwritten, .inl hpos⟩
  obtain ⟨x, hvalue, hshare⟩ := exists_value hbelow (.inr rfl)
  exact ⟨_, x, read_exponential hd hds hnegative, hvalue, hshare⟩

/-- The text of a decimal below one is read as a share. -/
theorem exists_read_below_one {s : Decimal.Scientific} (hexponent : s.exponent < 0)
    (hne : s.digits ≠ []) (hdigits : ∀ c ∈ s.digits, c.isDigit = true) :
    ∃ n : Numeral, ∃ x, Numeral.read (if isPositional s.exponent then
      positional s.digits s.exponent else exponential s.digits s.exponent) = some (n, []) ∧
      n.value = some (.fraction x) ∧ IsShare x := by
  split
  · exact exists_read_positional hexponent hne hdigits
  · obtain ⟨d, ds, hds⟩ := List.exists_cons_of_ne_nil hne
    rw [hds] at hdigits ⊢
    obtain ⟨hd, hrest⟩ := List.forall_mem_cons.1 hdigits
    exact exists_read_exponential hexponent hd hrest

/-- `0.0` is read as zero. -/
theorem exists_read_zero : ∃ n : Numeral, ∃ x, Numeral.read ['0', '.', '0'] = some (n, []) ∧
    n.value = some (.fraction x) ∧ IsShare x := by
  have hbelow : Numeral.BelowOne ⟨false, ['0'], some ['0'], none⟩ '0' 0 :=
    ⟨rfl, rfl, rfl, List.forall_mem_singleton.2 rfl, rfl, .inr ⟨rfl, List.cons_ne_nil _ _⟩⟩
  obtain ⟨x, hvalue, hshare⟩ := exists_value hbelow (.inl rfl)
  exact ⟨_, x, rfl, hvalue, hshare⟩

/-- `1.0` is read as one. -/
theorem exists_read_one : ∃ n : Numeral, ∃ x, Numeral.read ['1', '.', '0'] = some (n, []) ∧
    n.value = some (.fraction x) ∧ IsShare x := by
  obtain ⟨x, hx, hshare⟩ := @Decimal.exists_scaled 10 1 (by decide) (by decide) (by decide)
  have hmagnitude : Numeral.magnitude ⟨false, ['1'], some ['0'], none⟩ = some x := hx
  refine ⟨⟨false, ['1'], some ['0'], none⟩, x, rfl, ?_, hshare⟩
  rw [Numeral.value, hmagnitude]
  rfl

/-- **A share is read from its text as a share.** -/
theorem exists_readAs_share {x : Float} (h : IsShare x) :
    ∃ y, IsShare y ∧ (Number.fraction x).ReadAs (.fraction y) := by
  obtain ⟨m, e, hx, hbelow⟩ := Decimal.ofFloat_share h
  have htext : ∃ n : Numeral, ∃ y, Numeral.read (fractionText (.finite false m e)) =
      some (n, []) ∧ n.value = some (.fraction y) ∧ IsShare y := by
    rcases hbelow with hbelow | ⟨rfl, rfl⟩
    · by_cases hzero : m = 0
      · rw [fractionText, if_pos hzero]
        exact exists_read_zero
      · rw [fractionText, if_neg hzero]
        dsimp only
        rcases Decimal.shortest_below_one (Nat.pos_of_ne_zero hzero) hbelow with
          hnone | ⟨hexponent, hne, hdigits⟩
        · rw [hnone]
          exact exists_read_zero
        · exact exists_read_below_one hexponent hne hdigits
    · have hone : fractionText (.finite false Decimal.hiddenBit (-52)) = ['1', '.', '0'] := by
        decide +kernel
      rw [hone]
      exact exists_read_one
  obtain ⟨n, y, hread, hvalue, hshare⟩ := htext
  refine ⟨y, hshare, n, ?_, hvalue⟩
  rw [Number.chars, hx]
  exact hread

/-- What a fraction is read as from its text; the fraction itself, if its text is none. -/
def rereadFraction (x : Float) : Float :=
  match (Numeral.read (Number.fraction x).chars).bind fun p => p.1.value with
  | some (.fraction y) => y
  | _ => x

theorem rereadFraction_share {x : Float} (h : IsShare x) :
    IsShare (rereadFraction x) ∧ (Number.fraction x).ReadAs (.fraction (rereadFraction x)) := by
  obtain ⟨y, hshare, n, hread, hvalue⟩ := exists_readAs_share h
  have hreread : rereadFraction x = y := by
    rw [rereadFraction, hread, Option.bind_some]
    dsimp only
    rw [hvalue]
  rw [hreread]
  exact ⟨hshare, n, hread, hvalue⟩

end MotionTutor.Json
