import Mathlib.Data.List.TakeWhile
import Mathlib.Data.Option.Basic
import MotionTutor.Limits
import MotionTutor.Proofs.Time.Calendar
import MotionTutor.Time.Instant

/-!
# Points in time read back

The text of a point in time is read back as the point in time cut to the second, if its year in
universal time has four digits (`Instant.parse?_text`), and is no text of a point in time otherwise
(`Instant.parse?_text_eq_none`). A leap second is the last of a minute (`Instant.Proper`), which is
so for whatever a text names (`Instant.proper_of_parse?`).
-/

namespace MotionTutor.Instant

open Decimal (padded valueOf)

variable {t : Instant}

/-- A leap second comes at the end of a minute. -/
def Proper (t : Instant) : Prop := t.isLeapSecond = true → t.seconds % 60 = 59

instance : Decidable t.Proper := inferInstanceAs (Decidable (_ → _))

/-- The year in universal time has four digits. -/
def HasText (t : Instant) : Prop := 0 ≤ t.date.year ∧ t.date.year ≤ 9999

instance : Decidable t.HasText := inferInstanceAs (Decidable (_ ∧ _))

/-! ## 1. Numbers -/

/-- A padded number is read back, whatever follows it. -/
theorem takeNumber_padded {width n : Nat} (hw : 0 < width) (h : n < Nat.pow 10 width)
    (rest : List Char) : takeNumber width (padded width n ++ rest) = some (n, rest) := by
  have hlength := Decimal.length_padded hw h
  have hdigits : (padded width n).all Char.isDigit = true :=
    List.all_eq_true.2 fun c => Decimal.isDigit_of_mem_padded
  unfold takeNumber
  rw [List.take_left' hlength, List.drop_left' hlength, if_pos ⟨hlength, hdigits⟩,
    Decimal.valueOf_padded]

theorem takeNumber_of_not_digit {width : Nat} {c : Char} (h : c.isDigit = false)
    (cs : List Char) : takeNumber (width + 1) (c :: cs) = none := by
  unfold takeNumber
  rw [if_neg]
  rintro ⟨-, hdigits⟩
  rw [List.take_succ_cons, List.all_cons, h] at hdigits
  cases hdigits

/-! ## 2. The text of a point in time -/

/-- What follows the year. -/
def charsAfterYear (t : Instant) : List Char :=
  let second := t.timeOfDay % 60 + if t.isLeapSecond then 1 else 0
  '-' :: (padded 2 t.date.month ++ '-' :: (padded 2 t.date.day ++
    'T' :: (padded 2 (t.timeOfDay / 3600) ++ ':' :: (padded 2 (t.timeOfDay / 60 % 60) ++
      ':' :: (padded 2 second ++ ['Z'])))))

theorem chars_eq (t : Instant) : t.chars = yearText t.date.year ++ t.charsAfterYear := by
  unfold chars charsAfterYear
  simp only [List.append_assoc, List.cons_append]

theorem yearText_of_four {year : Int} (hlow : 0 ≤ year) (hhigh : year ≤ 9999) :
    yearText year = padded 4 year.toNat := by
  have habs : year.natAbs = year.toNat := by omega
  rw [yearText]
  rw [if_neg (by omega), if_neg (by omega), habs]

theorem yearText_of_more {year : Int} (h : ¬ (0 ≤ year ∧ year ≤ 9999)) :
    ∃ c cs, yearText year = c :: cs ∧ c.isDigit = false := by
  rw [yearText]
  split
  · exact ⟨'-', _, rfl, by decide⟩
  · rw [if_pos (by omega)]
    exact ⟨'+', _, rfl, by decide⟩

/-- A point in time without a text has a sign before its year. -/
theorem parse?_text_eq_none (h : ¬ t.HasText) : parse? t.text = none := by
  obtain ⟨c, cs, hyear, hc⟩ := yearText_of_more h
  rw [parse?, text, String.toList_ofList, chars_eq, hyear, List.cons_append, ofChars?,
    takeNumber_of_not_digit hc]
  rfl

theorem isEmpty_text (t : Instant) : t.text.isEmpty = false := by
  have hne : t.chars ≠ [] := by
    rw [chars_eq]
    exact List.append_ne_nil_of_right_ne_nil _ (List.cons_ne_nil _ _)
  rw [Bool.eq_false_iff]
  intro hempty
  rw [text, String.isEmpty_iff] at hempty
  exact hne (String.ofList_eq_empty_iff.1 hempty)

/-- The reader takes the numbers of a date and of a time of day apart. -/
theorem ofChars?_padded {year month day hour minute second : Nat} (hyear : year < 10000)
    (hreal : Date.isReal ⟨year, month, day⟩ = true) (hhour : hour ≤ 23) (hminute : minute ≤ 59)
    (hsecond : second ≤ 60) :
    ofChars? (padded 4 year ++ '-' :: (padded 2 month ++ '-' :: (padded 2 day ++
      'T' :: (padded 2 hour ++ ':' :: (padded 2 minute ++
        ':' :: (padded 2 second ++ ['Z'])))))) =
      some ⟨Date.toDays ⟨year, month, day⟩ * secondsPerDay +
        (hour * 3600 + minute * 60 + min second 59 : Nat),
        if second = 60 then nanosPerSecond else 0⟩ := by
  obtain ⟨hmonth, hday⟩ := Date.lt_of_isReal hreal
  have hexpect : ∀ c cs, expect [c] (c :: cs) = some cs := fun c cs =>
    if_pos (List.mem_singleton.2 rfl)
  have htime : ∀ cs, expect ['T', 't', ' '] ('T' :: cs) = some cs := fun cs => rfl
  have hguard : (guard (Date.isReal ⟨year, month, day⟩ = true ∧ hour ≤ 23 ∧ minute ≤ 59 ∧
      second ≤ 60) : Option Unit) = some () := if_pos ⟨hreal, hhour, hminute, hsecond⟩
  have hclock : ∀ n ≤ 60, ∀ rest, takeNumber 2 (padded 2 n ++ rest) = some (n, rest) :=
    fun n hn rest => takeNumber_padded (by decide) (Nat.lt_of_le_of_lt hn (by decide)) rest
  unfold ofChars?
  refine Option.bind_eq_some_iff.2 ⟨_, takeNumber_padded (by decide) hyear _, ?_⟩
  refine Option.bind_eq_some_iff.2 ⟨_, hexpect _ _, ?_⟩
  refine Option.bind_eq_some_iff.2 ⟨_, takeNumber_padded (by decide) hmonth _, ?_⟩
  refine Option.bind_eq_some_iff.2 ⟨_, hexpect _ _, ?_⟩
  refine Option.bind_eq_some_iff.2 ⟨_, takeNumber_padded (by decide) hday _, ?_⟩
  refine Option.bind_eq_some_iff.2 ⟨_, htime _, ?_⟩
  refine Option.bind_eq_some_iff.2 ⟨_, hclock hour (by omega) _, ?_⟩
  refine Option.bind_eq_some_iff.2 ⟨_, hexpect _ _, ?_⟩
  refine Option.bind_eq_some_iff.2 ⟨_, hclock minute (by omega) _, ?_⟩
  refine Option.bind_eq_some_iff.2 ⟨_, hexpect _ _, ?_⟩
  refine Option.bind_eq_some_iff.2 ⟨_, hclock second hsecond _, ?_⟩
  refine Option.bind_eq_some_iff.2 ⟨(0, ['Z']), rfl, ?_⟩
  refine Option.bind_eq_some_iff.2 ⟨0, rfl, ?_⟩
  refine Option.bind_eq_some_iff.2 ⟨(), hguard, ?_⟩
  simp

theorem timeOfDay_eq (t : Instant) : (t.timeOfDay : Int) = t.seconds % 86400 := by
  unfold timeOfDay secondsPerDay
  omega

/-- The number of the second: 60 for a leap second. -/
theorem second_eq (hproper : t.Proper) :
    (t.timeOfDay % 60 + if t.isLeapSecond then 1 else 0) =
      if t.isLeapSecond then 60 else t.timeOfDay % 60 := by
  have htime := t.timeOfDay_eq
  split
  · rename_i hleap
    have hlast := hproper hleap
    omega
  · rfl

/-- The day and the time of day make up the seconds. -/
theorem seconds_eq (hproper : t.Proper) :
    t.seconds / secondsPerDay * secondsPerDay +
      (t.timeOfDay / 3600 * 3600 + t.timeOfDay / 60 % 60 * 60 +
        min (if t.isLeapSecond then 60 else t.timeOfDay % 60) 59 : Nat) = t.seconds := by
  have htime := t.timeOfDay_eq
  have hsecond : min (if t.isLeapSecond then 60 else t.timeOfDay % 60) 59 = t.timeOfDay % 60 := by
    split
    · rename_i hleap
      have hlast := hproper hleap
      omega
    · omega
  rw [hsecond, secondsPerDay]
  omega

/-- **The text of a point in time is read back as the point in time to the second.** -/
theorem parse?_text (hproper : t.Proper) (h : t.HasText) : parse? t.text = some t.truncated := by
  obtain ⟨hlow, hhigh⟩ := h
  have hdate : (⟨(t.date.year.toNat : Int), t.date.month, t.date.day⟩ : Date) = t.date := by
    rw [Int.toNat_of_nonneg hlow]
  have hreal : Date.isReal ⟨(t.date.year.toNat : Int), t.date.month, t.date.day⟩ = true := by
    rw [hdate]
    exact Date.isReal_ofDays _
  have htime := t.timeOfDay_eq
  have hsecond : (if t.isLeapSecond then 60 else t.timeOfDay % 60) ≤ 60 := by
    split <;> omega
  have hleap : (if t.isLeapSecond then 60 else t.timeOfDay % 60) = 60 ↔
      t.isLeapSecond = true := by
    cases t.isLeapSecond with
    | true => exact iff_of_true rfl rfl
    | false =>
      have hlt : t.timeOfDay % 60 ≠ 60 := by omega
      exact iff_of_false hlt nofun
  rw [parse?, text, String.toList_ofList, chars_eq, yearText_of_four hlow hhigh, charsAfterYear,
    second_eq hproper]
  refine (ofChars?_padded (by omega) hreal (by omega) (by omega) hsecond).trans ?_
  rw [hdate, date, Date.toDays_ofDays, seconds_eq hproper, truncated]
  simp only [hleap]

theorem isLeapSecond_truncated (t : Instant) : t.truncated.isLeapSecond = t.isLeapSecond := by
  unfold truncated isLeapSecond
  dsimp only
  cases h : decide (nanosPerSecond ≤ t.nanos) <;> rfl

theorem Proper.truncated (h : t.Proper) : t.truncated.Proper := by
  intro hleap
  rw [isLeapSecond_truncated] at hleap
  exact h hleap

/-- The text of a point in time says nothing of the fractions of its second. -/
theorem text_truncated (t : Instant) : t.truncated.text = t.text := by
  unfold text chars
  rw [isLeapSecond_truncated]
  rfl

/-- A point in time with a text is no further from 1970 than a number of 64 bits. -/
theorem HasText.seconds_range (h : t.HasText) :
    -integerLimit ≤ t.seconds ∧ t.seconds < integerLimit := by
  obtain ⟨hlow, hhigh⟩ := h
  have hyear : t.date.year = Date.yearOf (t.seconds / secondsPerDay + Date.epoch) := rfl
  have hbefore := Date.daysBeforeYear_yearOf_le (t.seconds / secondsPerDay + Date.epoch)
  have hafter := Date.lt_daysBeforeYear_yearOf (t.seconds / secondsPerDay + Date.epoch)
  rw [← hyear] at hbefore hafter
  simp only [Date.daysBeforeYear, secondsPerDay, Date.epoch] at hbefore hafter
  rw [integerLimit]
  omega

/-! ## 3. What a text names -/

/-- Nine decimals are less than a second. -/
theorem takeDecimals_lt {cs rest : List Char} {nanos : Nat}
    (h : takeDecimals cs = some (nanos, rest)) : nanos < nanosPerSecond := by
  unfold takeDecimals at h
  split at h
  · rename_i cs
    dsimp only at h
    split at h
    · cases h
    · cases h
      have hdigits : ∀ c ∈ ((cs.takeWhile Char.isDigit).take 9).rightpad 9 '0',
          c.isDigit = true := by
        intro c hc
        rcases List.mem_append.1 hc with hc | hc
        · exact List.mem_takeWhile_imp (List.mem_of_mem_take hc)
        · rw [List.eq_of_mem_replicate hc]
          rfl
      have hlength : (((cs.takeWhile Char.isDigit).take 9).rightpad 9 '0').length = 9 := by
        rw [List.length_rightpad, List.length_take]
        omega
      have hlt := Decimal.valueOf_lt hdigits
      rw [hlength] at hlt
      exact hlt
  · cases h
    decide

/-- The distance from universal time is a number of minutes. -/
theorem readOffset_mod {cs : List Char} {offset : Int} (h : readOffset cs = some offset) :
    offset % 60 = 0 := by
  unfold readOffset at h
  split at h
  · cases h
    rfl
  · cases h
    rfl
  · simp only [Option.bind_eq_bind, Option.bind_eq_some_iff] at h
    obtain ⟨⟨hours, cs₁⟩, -, cs₂, -, ⟨minutes, cs₃⟩, -, -, -, h⟩ := h
    dsimp only at h
    split at h
    · cases h
      omega
    · split at h
      · cases h
        omega
      · cases h
  · cases h

/-- **A leap second that a text names is the last of a minute.** -/
theorem proper_of_parse? {s : String} (h : parse? s = some t) : t.Proper := by
  unfold parse? ofChars? at h
  obtain ⟨⟨year, _⟩, -, h⟩ := Option.bind_eq_some_iff.1 h
  obtain ⟨_, -, h⟩ := Option.bind_eq_some_iff.1 h
  obtain ⟨⟨month, _⟩, -, h⟩ := Option.bind_eq_some_iff.1 h
  obtain ⟨_, -, h⟩ := Option.bind_eq_some_iff.1 h
  obtain ⟨⟨day, _⟩, -, h⟩ := Option.bind_eq_some_iff.1 h
  obtain ⟨_, -, h⟩ := Option.bind_eq_some_iff.1 h
  obtain ⟨⟨hour, _⟩, -, h⟩ := Option.bind_eq_some_iff.1 h
  obtain ⟨_, -, h⟩ := Option.bind_eq_some_iff.1 h
  obtain ⟨⟨minute, _⟩, -, h⟩ := Option.bind_eq_some_iff.1 h
  obtain ⟨_, -, h⟩ := Option.bind_eq_some_iff.1 h
  obtain ⟨⟨second, _⟩, -, h⟩ := Option.bind_eq_some_iff.1 h
  obtain ⟨⟨nanos, _⟩, hnanos, h⟩ := Option.bind_eq_some_iff.1 h
  obtain ⟨offset, hoffset, h⟩ := Option.bind_eq_some_iff.1 h
  obtain ⟨-, -, h⟩ := Option.bind_eq_some_iff.1 h
  cases h
  have hlt := takeDecimals_lt hnanos
  have hmod := readOffset_mod hoffset
  intro hleap
  have hsecond : second = 60 := by
    by_contra hne
    simp only [isLeapSecond, if_neg hne, decide_eq_true_eq] at hleap
    omega
  rw [hsecond, secondsPerDay]
  dsimp only
  omega

end MotionTutor.Instant
