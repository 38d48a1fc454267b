import Mathlib.Data.List.TakeWhile
import MotionTutor.Json.Printer
import MotionTutor.Json.Reader

/-!
# Numbers read back

A number reads back if its numeral is read to the end and has the number as its value
(`Number.ReadsBack`). Whole numbers of 64 bits do (`readsBack_whole`). Of a fraction this says that
its digits determine it again; else it may still be read as another number (`Number.ReadAs`).

A numeral is read in the same way wherever it stands, as long as the text after it does not go on
with it (`Ends`): this holds of each of its parts and so of the whole (`read_append`).
-/

namespace MotionTutor.Json

/-! ## 1. Where a numeral ends -/

/-- A numeral can go on with the character. -/
def continuesNumeral (c : Char) : Bool := c.isDigit || c == '.' || c == 'e' || c == 'E'

/-- The text does not go on with a numeral. -/
def Ends (rest : List Char) : Prop := ∀ c ∈ rest.head?, continuesNumeral c = false

variable {cs rest left : List Char}

theorem ends_cons {c : Char} (h : continuesNumeral c = false) : Ends (c :: rest) := by
  rintro _ ⟨⟩
  exact h

theorem Ends.ne_cons (h : Ends rest) {c : Char} (hc : continuesNumeral c = true)
    (cs : List Char) : rest ≠ c :: cs := by
  rintro rfl
  rw [h c rfl] at hc
  cases hc

theorem Ends.isDigit_eq_false (h : Ends rest) : ∀ c ∈ rest.head?, c.isDigit = false := by
  intro c hc
  have hends := h c hc
  simp only [continuesNumeral, Bool.or_eq_false_iff] at hends
  exact hends.1.1.1

theorem Ends.span_append (h : Ends rest) (cs : List Char) :
    (cs ++ rest).takeWhile Char.isDigit = cs.takeWhile Char.isDigit ∧
      (cs ++ rest).dropWhile Char.isDigit = cs.dropWhile Char.isDigit ++ rest := by
  induction cs with
  | nil =>
    cases rest with
    | nil => exact ⟨rfl, rfl⟩
    | cons c rest =>
      have hc := h.isDigit_eq_false c rfl
      simp [hc]
  | cons c cs ih =>
    cases hc : c.isDigit with
    | true => simp [hc, ih]
    | false => simp [hc]

/-! ## 2. The parts of a numeral -/

theorem readDigits_append {digits : List Char} (h : readDigits cs = some (digits, left))
    (hends : Ends rest) : readDigits (cs ++ rest) = some (digits, left ++ rest) := by
  obtain ⟨htake, hdrop⟩ := hends.span_append cs
  unfold readDigits at h ⊢
  rw [htake, hdrop]
  split at h
  · cases h
  · cases h
    rfl

theorem readWhole_of_ne {c : Char} (h : c ≠ '0') (cs : List Char) :
    readWhole (c :: cs) = readDigits (c :: cs) := by
  rw [readWhole]
  exact fun _ heq => h (List.cons.inj heq).1

theorem readWhole_append {whole : List Char} (h : readWhole cs = some (whole, left))
    (hends : Ends rest) : readWhole (cs ++ rest) = some (whole, left ++ rest) := by
  cases cs with
  | nil => cases h
  | cons c cs =>
    by_cases hc : c = '0'
    · subst hc
      rw [readWhole] at h
      split at h
      · cases h
      · rename_i hnext
        cases h
        have hnext' : ¬ (left ++ rest).head?.any Char.isDigit = true := by
          cases left with
          | nil =>
            rw [List.nil_append, Option.any_eq_true]
            rintro ⟨d, hd, hdigit⟩
            rw [hends.isDigit_eq_false d hd] at hdigit
            cases hdigit
          | cons d left => exact hnext
        rw [List.cons_append, readWhole, if_neg hnext']
    · rw [readWhole_of_ne hc] at h
      rw [List.cons_append, readWhole_of_ne hc]
      exact readDigits_append h hends

theorem readDecimals_of_ne (h : ∀ cs', cs ≠ '.' :: cs') : readDecimals cs = some (none, cs) := by
  rw [readDecimals]
  exact fun cs' heq => h cs' heq

theorem readDecimals_append {decimals : Option (List Char)}
    (h : readDecimals cs = some (decimals, left)) (hends : Ends rest) :
    readDecimals (cs ++ rest) = some (decimals, left ++ rest) := by
  cases cs with
  | nil =>
    cases h
    exact readDecimals_of_ne fun cs' => hends.ne_cons (by decide) cs'
  | cons c cs =>
    by_cases hc : c = '.'
    · subst hc
      rw [readDecimals] at h
      obtain ⟨⟨digits, left'⟩, hdigits, heq⟩ := Option.map_eq_some_iff.1 h
      cases heq
      rw [List.cons_append, readDecimals, readDigits_append hdigits hends]
      rfl
    · rw [readDecimals_of_ne fun _ heq => hc (List.cons.inj heq).1] at h
      cases h
      exact readDecimals_of_ne fun _ heq => hc (List.cons.inj heq).1

/-- The sign of an exponent stands before a digit. -/
theorem readSign_append (h : cs ≠ []) (rest : List Char) :
    readSign (cs ++ rest) = ((readSign cs).1, (readSign cs).2 ++ rest) := by
  cases cs with
  | nil => exact absurd rfl h
  | cons c cs =>
    rw [List.cons_append]
    by_cases hplus : c = '+'
    · subst hplus
      rfl
    by_cases hminus : c = '-'
    · subst hminus
      rfl
    have hnone : ∀ cs, readSign (c :: cs) = (false, c :: cs) := by
      intro cs
      rw [readSign]
      · exact fun _ heq => hplus (List.cons.inj heq).1
      · exact fun _ heq => hminus (List.cons.inj heq).1
    rw [hnone, hnone]
    rfl

theorem readExponent_append {exponent : Option (Bool × List Char)}
    (h : readExponent cs = some (exponent, left)) (hends : Ends rest) :
    readExponent (cs ++ rest) = some (exponent, left ++ rest) := by
  cases cs with
  | nil =>
    cases h
    cases rest with
    | nil => rfl
    | cons c rest =>
      have hc : ¬ (c = 'e' ∨ c = 'E') := by
        rintro (rfl | rfl) <;> cases hends _ rfl
      rw [List.nil_append, readExponent, if_neg hc]
  | cons c cs =>
    rw [readExponent] at h
    rw [List.cons_append, readExponent]
    split at h
    · rename_i hc
      obtain ⟨⟨digits, left'⟩, hdigits, heq⟩ := Option.map_eq_some_iff.1 h
      have hne : cs ≠ [] := by
        rintro rfl
        cases hdigits
      cases heq
      rw [if_pos hc, readSign_append hne, readDigits_append hdigits hends]
      rfl
    · rename_i hc
      cases h
      rw [if_neg hc]
      rfl

/-! ## 3. A numeral -/

/-- What stands after the sign. -/
def unsigned (cs : List Char) : List Char := if cs.head? == some '-' then cs.drop 1 else cs

theorem unsigned_append (h : cs ≠ []) (rest : List Char) :
    unsigned (cs ++ rest) = unsigned cs ++ rest := by
  cases cs with
  | nil => exact absurd rfl h
  | cons c cs =>
    unfold unsigned
    rw [List.cons_append, List.head?_cons, List.head?_cons]
    split <;> rfl

namespace Numeral

variable {n : Numeral}

theorem read_eq_some_iff : read cs = some (n, left) ↔
    n.negative = (cs.head? == some '-') ∧ ∃ cs₁ cs₂,
      readWhole (unsigned cs) = some (n.whole, cs₁) ∧
      readDecimals cs₁ = some (n.decimals, cs₂) ∧ readExponent cs₂ = some (n.exponent, left) := by
  constructor
  · intro h
    unfold read at h
    simp only [Option.bind_eq_bind, Option.bind_eq_some_iff] at h
    obtain ⟨⟨whole, cs₁⟩, hwhole, ⟨decimals, cs₂⟩, hdecimals, ⟨exponent, cs₃⟩, hexponent, heq⟩ := h
    cases heq
    exact ⟨rfl, cs₁, cs₂, hwhole, hdecimals, hexponent⟩
  · rintro ⟨hnegative, cs₁, cs₂, hwhole, hdecimals, hexponent⟩
    obtain ⟨negative, whole, decimals, exponent⟩ := n
    cases hnegative
    show ((readWhole (unsigned cs)).bind fun _ => _) = _
    rw [hwhole, Option.bind_some]
    show ((readDecimals cs₁).bind fun _ => _) = _
    rw [hdecimals, Option.bind_some]
    show ((readExponent cs₂).bind fun _ => _) = _
    rw [hexponent]
    rfl

/-- A numeral begins with a minus or a digit. -/
theorem head_of_read (h : read cs = some (n, left)) :
    ∃ c cs', cs = c :: cs' ∧ (c = '-' ∨ c.isDigit = true) := by
  obtain ⟨-, cs₁, -, hwhole, -⟩ := read_eq_some_iff.1 h
  cases cs with
  | nil => cases hwhole
  | cons c cs =>
    refine ⟨c, cs, rfl, ?_⟩
    by_cases hminus : c = '-'
    · exact .inl hminus
    · right
      have hunsigned : unsigned (c :: cs) = c :: cs := by
        rw [unsigned, List.head?_cons, if_neg (by simpa using hminus)]
      by_cases hzero : c = '0'
      · rw [hzero]
        rfl
      · rw [hunsigned, readWhole_of_ne hzero, readDigits] at hwhole
        cases hdigit : c.isDigit with
        | true => rfl
        | false =>
          rw [List.takeWhile_cons_of_neg (by rw [hdigit]; decide)] at hwhole
          cases hwhole

/-- **A numeral is read in the same way wherever it stands.** -/
theorem read_append (h : read cs = some (n, left)) (hends : Ends rest) :
    read (cs ++ rest) = some (n, left ++ rest) := by
  obtain ⟨c, cs', rfl, -⟩ := head_of_read h
  obtain ⟨hnegative, cs₁, cs₂, hwhole, hdecimals, hexponent⟩ := read_eq_some_iff.1 h
  refine read_eq_some_iff.2 ⟨hnegative, cs₁ ++ rest, cs₂ ++ rest, ?_, ?_, ?_⟩
  · rw [unsigned_append (List.cons_ne_nil c cs')]
    exact readWhole_append hwhole hends
  · exact readDecimals_append hdecimals hends
  · exact readExponent_append hexponent hends

end Numeral

/-! ## 4. Numbers -/

/-- What the numeral of a number is read as. -/
def Number.ReadAs (x y : Number) : Prop :=
  ∃ n : Numeral, Numeral.read x.chars = some (n, []) ∧ n.value = some y

/-- The number is what its numeral is read as. -/
def Number.ReadsBack (x : Number) : Prop :=
  ∃ n : Numeral, Numeral.read x.chars = some (n, []) ∧ n.value = some x

/-- The digits of a natural number are read as its numeral. -/
theorem readWhole_digits (n : Nat) :
    readWhole (Decimal.digits n) = some (Decimal.digits n, []) := by
  rcases Nat.eq_zero_or_pos n with rfl | hn
  · rfl
  · obtain ⟨c, ds, hds, hc, -⟩ := Decimal.digits_eq_cons hn
    have hall : ∀ d ∈ Decimal.digits n, d.isDigit = true := fun d => Decimal.isDigit_of_mem_digits
    have hzero : c ≠ '0' := by
      rintro rfl
      exact absurd hc (by decide)
    rw [hds] at hall ⊢
    rw [readWhole_of_ne hzero, readDigits, List.takeWhile_eq_self_iff.2 hall,
      List.dropWhile_eq_nil_iff.2 hall]

/-- **A whole number of 64 bits reads back.** -/
theorem readsBack_whole {n : Int} (hlow : -integerLimit ≤ n) (hhigh : n < wordLimit) :
    (Number.whole n).ReadsBack := by
  by_cases hn : n < 0
  · refine ⟨⟨true, Decimal.digits n.natAbs, none, none⟩, ?_, ?_⟩
    · have hchars : (Number.whole n).chars = '-' :: Decimal.digits n.natAbs := by
        rw [Number.chars, if_pos hn]
        rfl
      rw [hchars]
      exact Numeral.read_eq_some_iff.2 ⟨rfl, [], [], readWhole_digits n.natAbs, rfl, rfl⟩
    · have hsize : n.natAbs ≤ integerLimit := by omega
      have hvalue : -(n.natAbs : Int) = n := by omega
      have hrange : (0 < n.natAbs && n.natAbs ≤ integerLimit) = true := by
        rw [Bool.and_eq_true]
        exact ⟨decide_eq_true (by omega), decide_eq_true hsize⟩
      unfold Numeral.value
      dsimp only
      rw [Decimal.valueOf_digits, if_neg (by exact Bool.false_ne_true), if_pos (by exact hrange),
        hvalue]
  · refine ⟨⟨false, Decimal.digits n.natAbs, none, none⟩, ?_, ?_⟩
    · have hchars : (Number.whole n).chars = Decimal.digits n.natAbs := by
        rw [Number.chars, if_neg hn]
        rfl
      have hdigit : ((Decimal.digits n.natAbs).head? == some '-') = false := by
        rw [beq_eq_false_iff_ne]
        intro hhead
        exact absurd (Decimal.isDigit_of_mem_digits (List.mem_of_mem_head? hhead)) (by decide)
      rw [hchars]
      refine Numeral.read_eq_some_iff.2 ⟨hdigit.symm, [], [], ?_, rfl, rfl⟩
      rw [unsigned, hdigit]
      exact readWhole_digits n.natAbs
    · have hsize : n.natAbs < wordLimit := by omega
      have hvalue : (n.natAbs : Int) = n := by omega
      unfold Numeral.value
      dsimp only
      rw [Decimal.valueOf_digits, if_pos (by exact decide_eq_true hsize), hvalue]

/-- A number is read as another wherever it stands. -/
theorem Number.ReadAs.read_append {x y : Number} (h : x.ReadAs y) (hends : Ends rest) :
    ∃ n : Numeral, Numeral.read (x.chars ++ rest) = some (n, rest) ∧ n.value = some y := by
  obtain ⟨n, hread, hvalue⟩ := h
  exact ⟨n, Numeral.read_append hread hends, hvalue⟩

end MotionTutor.Json
