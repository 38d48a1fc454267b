import Mathlib.Order.Bounds.Basic
import MotionTutor.Proofs.Session.Answers
import MotionTutor.Proofs.Session.Lessons

/-!
# Streaks by their history

A session keeps three numbers about streaks: the right answers in a row in the sitting, and in the
profile the latest and the best of these. The first is forgotten with the sitting, the others are
not, and a wrong answer clears the first two.

After any requests all three are read off the events (`Session.run_records_streaks`). A streak is
what counted right in some stretch of events where no wrong answer counted and no sitting began or
ended (`Event.IsStreak`). The streak of the sitting is the one that lasts until now
(`Event.streak`), the best one is the longest of all (`Event.longestStreak`) unless the profile came
with a better one, and the latest one is what the streak was after the latest answer.

The longest streak grows by what lasts until now only, so one event later it is the greater of the
two (`Event.isGreatest_longestStreak`); this is how a session keeps its record. Counters have no
limit here; see `Session.run_fields` for those that have.
-/

namespace MotionTutor

/-! ## 1. What happened -/

namespace Event

/-- The session after the event. -/
def after (e : Event) : Session := (e.session.serve e.request).2

/-- No streak lasts beyond the event: a wrong answer counted, or a sitting began or ended. -/
def endsStreak (e : Event) : Bool := e.deed.opens || e.answer? = some false

/-- How many right answers counted. -/
def rights (past : List Event) : Nat := past.countP fun e => e.answer? = some true

/-- The right answers that counted since the last event that ended a streak. -/
def streak (past : List Event) : Nat := rights (past.takeWhile fun e => !e.endsStreak)

/-- At some time, this number of right answers counted and nothing ended the streak in between. -/
def IsStreak (past : List Event) (length : Nat) : Prop :=
  ∃ span, span <:+: past ∧ (∀ e ∈ span, e.endsStreak = false) ∧ rights span = length

/-- The longest streak so far. -/
def longestStreak : List Event → Nat
  | [] => 0
  | e :: past => max (longestStreak past) (streak (e :: past))

/-- The latest answer that counted. -/
def latestAnswer? (past : List Event) : Option Event := past.find? fun e => e.answer?.isSome

variable {e : Event} {past span : List Event}

theorem rights_cons :
    rights (e :: past) = rights past + if e.answer? = some true then 1 else 0 := by
  unfold rights
  rw [List.countP_cons]
  simp only [decide_eq_true_eq]

/-- The streak until now, one event later. -/
theorem streak_cons :
    streak (e :: past) =
      if e.endsStreak then 0 else streak past + if e.answer? = some true then 1 else 0 := by
  unfold streak
  rw [List.takeWhile_cons]
  cases e.endsStreak with
  | true => rfl
  | false => exact rights_cons

theorem latestAnswer?_cons :
    latestAnswer? (e :: past) = if e.answer?.isSome then some e else latestAnswer? past := by
  unfold latestAnswer?
  rw [List.find?_cons]
  cases e.answer?.isSome <;> rfl

/-- Events up to now among which no streak ends belong to the streak until now. -/
theorem rights_le_streak (h : span <+: past) (hspan : ∀ e ∈ span, e.endsStreak = false) :
    rights span ≤ streak past :=
  (prefix_takeWhile h hspan).countP_le

theorem isStreak_streak (past : List Event) : IsStreak past (streak past) := by
  refine ⟨_, (List.takeWhile_prefix _).isInfix, fun e he => ?_, rfl⟩
  have hlasts := List.all_eq_true.mp (List.all_takeWhile (l := past)) e he
  exact (Bool.not_eq_eq_eq_not.mp hlasts :)

/-- A streak is still one when more has happened. -/
theorem IsStreak.cons {length : Nat} (h : IsStreak past length) (e : Event) :
    IsStreak (e :: past) length := by
  obtain ⟨span, hspan, hlasts, hrights⟩ := h
  exact ⟨span, hspan.trans (List.suffix_cons e past).isInfix, hlasts, hrights⟩

theorem streak_le_longestStreak (past : List Event) : streak past ≤ longestStreak past := by
  cases past with
  | nil => exact Nat.le_refl 0
  | cons e past => exact Nat.le_max_right _ _

/-- **No streak was longer than the longest, and there was one.** -/
theorem isGreatest_longestStreak (past : List Event) :
    IsGreatest {length | IsStreak past length} (longestStreak past) := by
  induction past with
  | nil =>
    refine ⟨⟨[], List.nil_infix, fun e he => absurd he List.not_mem_nil, rfl⟩, ?_⟩
    rintro length ⟨span, hspan, -, rfl⟩
    rw [List.eq_nil_of_infix_nil hspan]
    exact Nat.le_refl 0
  | cons e past ih =>
    obtain ⟨hlongest, hgreatest⟩ := ih
    constructor
    · rcases Nat.le_total (longestStreak past) (streak (e :: past)) with hle | hle
      · rw [longestStreak, Nat.max_eq_right hle]
        exact isStreak_streak (e :: past)
      · rw [longestStreak, Nat.max_eq_left hle]
        exact IsStreak.cons hlongest e
    · rintro length ⟨span, hspan, hlasts, rfl⟩
      -- a stretch of events lasts until now, or all of it lies earlier
      rcases List.infix_cons_iff.mp hspan with hlatest | hearlier
      · exact Nat.le_trans (rights_le_streak hlatest hlasts) (Nat.le_max_right _ _)
      · exact Nat.le_trans (hgreatest ⟨span, hearlier, hlasts, rfl⟩) (Nat.le_max_left _ _)

end Event

/-! ## 2. Turns -/

namespace Profile

theorem currentStreak_markBossDefeated (p : Profile) (module : String) :
    (p.markBossDefeated module).currentStreak = p.currentStreak := by
  unfold markBossDefeated
  split <;> rfl

theorem bestStreak_markBossDefeated (p : Profile) (module : String) :
    (p.markBossDefeated module).bestStreak = p.bestStreak := by
  unfold markBossDefeated
  split <;> rfl

end Profile

namespace Session

variable {s t : Session} {d : Deed}

/-- What a turn makes of the streak of the sitting. -/
theorem streak_turn (ht : s.Turn d t) :
    t.sitting.streak =
      if d.opens then 0
      else d.answer?.elim s.sitting.streak fun correct =>
        if correct then s.sitting.streak + 1 else 0 := by
  cases ht <;> rfl

/-- The profile takes over the streak from an answer that counts, and from nothing else. -/
theorem currentStreak_turn (ht : s.Turn d t) :
    t.profile.currentStreak =
      d.answer?.elim s.profile.currentStreak fun _ => t.sitting.streak := by
  cases ht with
  | @won c fight ha hfight hfirst => exact s.profile.currentStreak_markBossDefeated c.id
  | _ => rfl

/-- So it does for the best streak, if the one it takes over is better. -/
theorem bestStreak_turn (ht : s.Turn d t) :
    t.profile.bestStreak =
      d.answer?.elim s.profile.bestStreak fun _ =>
        max s.profile.bestStreak t.sitting.streak := by
  cases ht with
  | @won c fight ha hfight hfirst => exact s.profile.bestStreak_markBossDefeated c.id
  | _ => rfl

theorem bestStreak_le_turn (ht : s.Turn d t) : s.profile.bestStreak ≤ t.profile.bestStreak := by
  rw [bestStreak_turn ht]
  cases d.answer? with
  | none => exact Nat.le_refl _
  | some correct => exact Nat.le_max_left _ _

/-- The best streak stays at least as long as the latest one. -/
theorem currentStreak_le_turn (ht : s.Turn d t)
    (h : s.profile.currentStreak ≤ s.profile.bestStreak) :
    t.profile.currentStreak ≤ t.profile.bestStreak := by
  rw [currentStreak_turn ht, bestStreak_turn ht]
  cases d.answer? with
  | none => exact h
  | some correct => exact Nat.le_max_right _ _

/-! ## 3. Runs -/

/-- The streaks of a session, against what happened since the profile was taken. -/
structure RecordsStreaks (s : Session) (profile : Profile) (past : List Event) : Prop where
  streak : s.sitting.streak = Event.streak past
  best : s.profile.bestStreak = max profile.bestStreak (Event.longestStreak past)
  current : s.profile.currentStreak =
    (Event.latestAnswer? past).elim profile.currentStreak fun e => e.after.sitting.streak

variable {profile : Profile} {e : Event} {past : List Event}

/-- The streak of the sitting is the one until now, one event later. -/
theorem streak_after (h : e.session.sitting.streak = Event.streak past) :
    e.after.sitting.streak = Event.streak (e :: past) := by
  have ht : e.session.Turn e.deed e.after := turn_serve e.session e.request
  rw [streak_turn ht, Event.streak_cons, Event.endsStreak, h, Event.answer?_deed]
  cases e.deed.opens with
  | true => rfl
  | false =>
    cases e.answer? with
    | none => rfl
    | some correct => cases correct <;> rfl

/-- **Every request keeps the record.** -/
theorem RecordsStreaks.serve (h : e.session.RecordsStreaks profile past) :
    e.after.RecordsStreaks profile (e :: past) where
  streak := streak_after h.streak
  best := by
    have ht : e.session.Turn e.deed e.after := turn_serve e.session e.request
    rw [bestStreak_turn ht, Event.answer?_deed, streak_after h.streak, h.best,
      Event.longestStreak]
    cases hanswer : e.answer? with
    | some correct => exact Nat.max_assoc _ _ _
    | none =>
      -- without an answer the streak is the one of before, or it ends
      have hle : Event.streak (e :: past) ≤ Event.longestStreak past := by
        rw [Event.streak_cons, hanswer]
        split
        · exact Nat.zero_le _
        · exact Event.streak_le_longestStreak past
      rw [Nat.max_eq_left hle]
      rfl
  current := by
    have ht : e.session.Turn e.deed e.after := turn_serve e.session e.request
    rw [currentStreak_turn ht, Event.answer?_deed, Event.latestAnswer?_cons]
    cases e.answer? with
    | some correct => rfl
    | none => exact h.current

theorem recordsStreaks_start (catalog : Catalog) (profile : Profile) (words : Words) :
    (start catalog profile words).RecordsStreaks profile [] where
  streak := rfl
  best := (Nat.max_eq_left (Nat.zero_le _)).symm
  current := rfl

/-- **Streaks are what the answers made them.** Whatever a session is asked, the streak of the
sitting is the one that lasts until now; the best streak is the longest of all, or that of the
profile at the beginning if it was longer; the latest streak is that of the sitting after the latest
answer that counted, or that of the beginning without one. So the best streak never gets less, and
is at least the latest one if that was so at the beginning.

Numbers have no limit here. Streaks are counted with 32 bits in fact, from zero in every sitting, so
this tells of runs of fewer than 2 ^ 32 requests, in which no streak is longer. -/
theorem run_records_streaks (catalog : Catalog) (profile : Profile) (words : Words)
    (requests : List Request) :
    let s := (start catalog profile words).run requests
    let past := (start catalog profile words).events requests
    s.sitting.streak = Event.streak past ∧
      (∃ longest, IsGreatest {length | Event.IsStreak past length} longest ∧
        s.profile.bestStreak = max profile.bestStreak longest) ∧
      s.profile.currentStreak =
        (Event.latestAnswer? past).elim profile.currentStreak (fun e => e.after.sitting.streak) ∧
      (∀ later, s.profile.bestStreak ≤
        ((start catalog profile words).run (requests ++ later)).profile.bestStreak) ∧
      (profile.currentStreak ≤ profile.bestStreak →
        s.profile.currentStreak ≤ s.profile.bestStreak) := by
  intro s past
  have hrecords : s.RecordsStreaks profile past :=
    run_induction_serve (motive := fun t past => t.RecordsStreaks profile past)
      (recordsStreaks_start catalog profile words) (fun _ _ h => h.serve) requests
  refine ⟨hrecords.streak, ⟨_, Event.isGreatest_longestStreak past, hrecords.best⟩,
    hrecords.current, fun later => ?_, fun hbefore => ?_⟩
  · rw [run_append]
    exact run_invariant (P := fun t => s.profile.bestStreak ≤ t.profile.bestStreak)
      (Nat.le_refl _) (fun _ _ _ ht h => Nat.le_trans h (bestStreak_le_turn ht)) later
  · exact run_invariant (P := fun t => t.profile.currentStreak ≤ t.profile.bestStreak)
      hbefore (fun _ _ _ ht h => currentStreak_le_turn ht h) requests

/-- One right answer without a sitting, then two in lessons and a wrong one. The start came in
between, so the best streak is two. -/
theorem run_records_streaks_across_a_start :
    let profile := { Profile.fresh with currentStreak := 1, bestStreak := 1 }
    let requests : List Request :=
      [.recordCorrect ⟨0, 0⟩ 1.5 true, .startLesson ⟨1, 0⟩ "lines", .recordCorrect ⟨2, 0⟩ 1.5 true,
        .advance, .recordCorrect ⟨3, 0⟩ 2.5 false, .recordIncorrect ⟨4, 0⟩]
    profile.currentStreak ≤ profile.bestStreak ∧
      ((start .twoLessons profile (.ofList [])).run requests).profile.bestStreak = 2 ∧
      ((start .twoLessons profile (.ofList [])).run requests).profile.currentStreak ≤ 2 := by
  intro profile requests
  have hbefore : profile.currentStreak ≤ profile.bestStreak := Nat.le_refl 1
  have htwo :
      Event.longestStreak ((start .twoLessons profile (.ofList [])).events requests) = 2 := by
    decide +kernel
  obtain ⟨-, ⟨longest, hgreatest, hbest⟩, -, -, hcurrent⟩ :=
    run_records_streaks .twoLessons profile (.ofList []) requests
  have hmax : max profile.bestStreak 2 = 2 := rfl
  rw [hgreatest.unique (Event.isGreatest_longestStreak _), htwo, hmax] at hbest
  have hle := hcurrent hbefore
  rw [hbest] at hle
  exact ⟨hbefore, hbest, hle⟩

end Session

end MotionTutor
