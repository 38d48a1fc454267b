import MotionTutor.Time.Calendar

/-!
# Days and dates

Every day has a date of the calendar, and the date leads back to the day
(`Date.isReal_ofDays`, `Date.toDays_ofDays`). The year of a day is the one within which it falls
(`daysBeforeYear_yearOf_le`, `lt_daysBeforeYear_yearOf`), and the days of a year are shared out
among its months (`passed_spec`).
-/

namespace MotionTutor.Date

/-! ## 1. Years -/

/-- A year begins on the day itself or before. -/
theorem daysBeforeYear_yearOf_le (day : Int) : daysBeforeYear (yearOf day) ≤ day := by
  unfold yearOf
  dsimp only
  split
  · rename_i h
    exact h
  · unfold daysBeforeYear
    dsimp only
    omega

theorem lt_daysBeforeYear_yearOf (day : Int) : day < daysBeforeYear (yearOf day + 1) := by
  unfold yearOf
  dsimp only
  split
  · unfold daysBeforeYear
    dsimp only
    omega
  · rename_i h
    exact Int.not_le.1 h

theorem daysBeforeYear_succ (year : Int) :
    daysBeforeYear (year + 1) = daysBeforeYear year + daysIn (monthLengths (isLeap year)) 12 := by
  unfold daysBeforeYear
  dsimp only
  cases h : isLeap year with
  | true =>
    simp only [isLeap, Bool.and_eq_true, Bool.or_eq_true, decide_eq_true_eq] at h
    show _ = _ + ((366 : Nat) : Int)
    omega
  | false =>
    simp only [isLeap, Bool.and_eq_false_iff, Bool.or_eq_false_iff, decide_eq_false_iff_not] at h
    show _ = _ + ((365 : Nat) : Int)
    omega

/-! ## 2. Months -/

/-- A number of days that the lengths have room for falls within one of them. -/
theorem passed_spec {lengths : List Nat} {days : Nat}
    (h : days < daysIn lengths lengths.length) :
    (∃ length ∈ lengths[(passed lengths days).1]?, (passed lengths days).2 < length) ∧
      daysIn lengths (passed lengths days).1 + (passed lengths days).2 = days := by
  induction lengths generalizing days with
  | nil => cases h
  | cons length lengths ih =>
    rw [passed]
    split
    · rename_i hlt
      exact ⟨⟨length, rfl, hlt⟩, by rw [daysIn]; exact Nat.zero_add days; exact nofun⟩
    · rename_i hle
      rw [List.length_cons, daysIn] at h
      obtain ⟨hfalls, hsum⟩ := @ih (days - length) (by omega)
      refine ⟨hfalls, ?_⟩
      show length + daysIn lengths (passed lengths (days - length)).1 +
        (passed lengths (days - length)).2 = days
      omega

/-! ## 3. Dates -/

/-- The calendar has a date if and only if its day falls within its month. -/
theorem isReal_iff {d : Date} : d.isReal = true ↔ 1 ≤ d.month ∧ 1 ≤ d.day ∧
    ∃ length ∈ (monthLengths (isLeap d.year))[d.month - 1]?, d.day ≤ length := by
  simp only [isReal, Bool.and_eq_true, decide_eq_true_eq, Option.any_eq_true, and_assoc,
    Option.mem_def]

/-- The numbers of a month and of a day have two digits at most. -/
theorem lt_of_isReal {d : Date} (h : d.isReal = true) : d.month < 100 ∧ d.day < 100 := by
  obtain ⟨-, -, length, hlength, hday⟩ := isReal_iff.1 h
  obtain ⟨hmonth, hget⟩ := List.getElem?_eq_some_iff.1 hlength
  have hcount : (monthLengths (isLeap d.year)).length = 12 := rfl
  have hbound : ∀ leap, ∀ length ∈ monthLengths leap, length ≤ 31 := by decide
  have hle := hbound (isLeap d.year) length (List.mem_of_getElem? hlength)
  omega

section

variable (days : Int)

/-- What is left of a day after the years before it fits into its year. -/
theorem passed_ofDays :
    let d := ofDays days
    (∃ length ∈ (monthLengths (isLeap d.year))[d.month - 1]?, d.day ≤ length) ∧
      daysBeforeYear d.year + daysIn (monthLengths (isLeap d.year)) (d.month - 1) + d.day =
        days + epoch + 1 := by
  have hlow := daysBeforeYear_yearOf_le (days + epoch)
  have hhigh := lt_daysBeforeYear_yearOf (days + epoch)
  rw [daysBeforeYear_succ] at hhigh
  obtain ⟨hfalls, hsum⟩ := @passed_spec (monthLengths (isLeap (yearOf (days + epoch))))
    (days + epoch - daysBeforeYear (yearOf (days + epoch))).toNat
    (show _ < daysIn _ 12 by omega)
  refine ⟨hfalls, ?_⟩
  unfold ofDays
  dsimp only
  rw [Nat.add_sub_cancel]
  omega

/-- **Every day has a date of the calendar.** -/
theorem isReal_ofDays : (ofDays days).isReal = true :=
  isReal_iff.2 ⟨Nat.succ_pos _, Nat.succ_pos _, (passed_ofDays days).1⟩

/-- **The date of a day leads back to it.** -/
theorem toDays_ofDays : toDays (ofDays days) = days := by
  have hsum := (passed_ofDays days).2
  unfold toDays
  dsimp only at hsum ⊢
  omega

end

end MotionTutor.Date
