import Mathlib.Tactic.MkIffOfInductiveProp
import MotionTutor.Limits
import MotionTutor.Proofs.Stats.Practice

/-!
# Counters of fixed width

Counters, scores and spans of time have a fixed width. One that outgrows it goes on from zero, or
the program stops, as the program was built (`Overflow`); a span of time that outgrows it always
stops the program. Here the records of practice are kept with such counters, one number after the
other (`History.recordWith`, `Progress.recordPracticeWith`).

* As long as the numbers fit, these are the records that count without a limit
  (`Progress.recordPracticeWith_of_fits`).
* Whether they fit or not, a record counts one answer by the arithmetic of its counters, in one
  history and in the counters of the module (`Progress.counts_recordPracticeWith`). This is exactly
  one answer if no counter goes on from zero, so whenever there is room for one answer more, and
  always in a program that stops instead (`Progress.CountsAnswerWith.exact`).
-/

namespace MotionTutor

/-! ## 1. Sums -/

/-- What becomes of a counter that outgrows its width. -/
inductive Overflow
  /-- Counters have no width. -/
  | unbounded
  /-- It goes on from zero. -/
  | wraps
  /-- The program stops. -/
  | stops
deriving DecidableEq, Repr

namespace Overflow

variable {o : Overflow} {limit n k m : Nat}

/-- The sum of a counter below a limit and a number; none if the program stops. -/
def add (o : Overflow) (limit n k : Nat) : Option Nat :=
  match o with
  | unbounded => some (n + k)
  | wraps => some ((n + k) % limit)
  | stops => if n + k < limit then some (n + k) else none

/-- The counter, with one more if there is something to count. -/
def addIf (o : Overflow) (limit n : Nat) (counts : Bool) : Option Nat :=
  if counts then o.add limit n 1 else some n

/-- The number that a counter below a limit holds for a length. -/
def clamp (o : Overflow) (limit n : Nat) : Nat :=
  match o with
  | unbounded => n
  | wraps | stops => min n (limit - 1)

/-- The sum of two spans of time, whose seconds fit a word. -/
def addTime (o : Overflow) (d e : Duration) : Option Duration :=
  match o with
  | unbounded => some (d + e)
  | wraps | stops => if (d + e).seconds < wordLimit then some (d + e) else none

/-- The number lies below the limit, if there is one. -/
def Fits (o : Overflow) (limit n : Nat) : Prop := o = .unbounded ∨ n < limit

instance (o : Overflow) (limit n : Nat) : Decidable (o.Fits limit n) :=
  inferInstanceAs (Decidable (o = .unbounded ∨ n < limit))

theorem add_of_fits (h : o.Fits limit (n + k)) : o.add limit n k = some (n + k) := by
  rcases h with rfl | hlt
  · rfl
  · cases o with
    | unbounded => rfl
    | wraps => exact congrArg some (Nat.mod_eq_of_lt hlt)
    | stops => exact if_pos hlt

theorem addIf_of_fits {counts : Bool} (h : o.Fits limit (if counts then n + 1 else n)) :
    o.addIf limit n counts = some (if counts then n + 1 else n) := by
  cases counts with
  | true => exact add_of_fits h
  | false => rfl

theorem clamp_of_fits (h : o.Fits limit n) : o.clamp limit n = n := by
  rcases h with rfl | hlt
  · rfl
  · have hle : n ≤ limit - 1 := by omega
    cases o with
    | unbounded => rfl
    | wraps => exact Nat.min_eq_left hle
    | stops => exact Nat.min_eq_left hle

theorem addTime_of_fits {d e : Duration} (h : o.Fits wordLimit (d + e).seconds) :
    o.addTime d e = some (d + e) := by
  rcases h with rfl | hlt
  · rfl
  · cases o with
    | unbounded => rfl
    | wraps => exact if_pos hlt
    | stops => exact if_pos hlt

/-- A sum is right if it does not go on from zero. -/
theorem eq_of_add (h : o.add limit n k = some m) (hroom : o ≠ .wraps ∨ n + k < limit) :
    m = n + k := by
  cases o with
  | unbounded =>
    cases h
    rfl
  | wraps =>
    cases h
    exact Nat.mod_eq_of_lt (hroom.resolve_left fun hne => hne rfl)
  | stops =>
    obtain ⟨-, hm⟩ := Option.ite_none_right_eq_some.1 h
    cases hm
    rfl

theorem eq_of_addIf {counts : Bool} (h : o.addIf limit n counts = some m)
    (hroom : o ≠ .wraps ∨ n + counts.toNat < limit) : m = n + counts.toNat := by
  cases counts with
  | true => exact eq_of_add h hroom
  | false =>
    cases h
    rfl

/-- A counter that stood at `n` stands at `m` after `k` more: up to multiples of the limit, and
exactly unless it went on from zero. -/
structure Counted (o : Overflow) (limit n k m : Nat) : Prop where
  mod : m % limit = (n + k) % limit
  eq : o ≠ .wraps ∨ n + k < limit → m = n + k

theorem Counted.trans {j l : Nat} (h : o.Counted limit n k m) (h' : o.Counted limit m j l) :
    o.Counted limit n (k + j) l where
  mod := by rw [h'.mod, Nat.add_mod, h.mod, ← Nat.add_mod, Nat.add_assoc]
  eq hroom := by
    rw [← Nat.add_assoc] at hroom ⊢
    have hm : m = n + k := h.eq (hroom.imp_right (Nat.lt_of_le_of_lt (Nat.le_add_right _ _)))
    rw [← hm] at hroom ⊢
    exact h'.eq hroom

end Overflow

/-! ## 2. Histories -/

namespace History

variable {o : Overflow} {h h' : History} {correct : Bool} {time : Int}

/-- Records one answer, number by number. -/
def recordWith (o : Overflow) (h : History) (correct : Bool) (time : Int) : Option History := do
  let h := { h with attempts := ← o.add counterLimit h.attempts 1 }
  let h := { h with lastAttempted := time }
  if correct then
    let h := { h with right := ← o.add counterLimit h.right 1 }
    let h := { h with rightInARow := ← o.add counterLimit h.rightInARow 1 }
    if masteryStreak ≤ h.rightInARow then return { h with mastered := true } else return h
  else
    let h := { h with wrong := ← o.add counterLimit h.wrong 1 }
    let h := { h with rightInARow := 0 }
    return { h with mastered := false }

/-- The numbers fit their counters. -/
@[mk_iff]
structure FitsCounters (o : Overflow) (h : History) : Prop where
  attempts : o.Fits counterLimit h.attempts
  right : o.Fits counterLimit h.right
  wrong : o.Fits counterLimit h.wrong
  rightInARow : o.Fits counterLimit h.rightInARow

instance (o : Overflow) (h : History) : Decidable (h.FitsCounters o) :=
  decidable_of_iff _ (fitsCounters_iff o h).symm

/-- No counter outgrows its width by one answer. -/
@[mk_iff]
structure HasRoom (h : History) : Prop where
  attempts : h.attempts + 1 < counterLimit
  right : h.right + 1 < counterLimit
  wrong : h.wrong + 1 < counterLimit
  rightInARow : h.rightInARow + 1 < counterLimit

instance (h : History) : Decidable h.HasRoom := decidable_of_iff _ (hasRoom_iff h).symm

/-- What was mastered stays so; otherwise the row decides. -/
theorem record_right (h : History) (time : Int) :
    (let right := { h with
        attempts := h.attempts + 1
        lastAttempted := time
        right := h.right + 1
        rightInARow := h.rightInARow + 1 }
      if masteryStreak ≤ right.rightInARow then { right with mastered := true } else right) =
        h.record true time := by
  by_cases hmastered : masteryStreak ≤ h.rightInARow + 1
  · simp only [if_pos hmastered, record, if_true, decide_eq_true hmastered, Bool.or_true]
  · simp only [if_neg hmastered, record, if_true, decide_eq_false hmastered, Bool.or_false]

/-- **As long as its numbers fit, an answer is recorded as if counters had no width.** -/
theorem recordWith_of_fits (hfits : (h.record correct time).FitsCounters o) :
    h.recordWith o correct time = some (h.record correct time) := by
  have hattempts : o.add counterLimit h.attempts 1 = some (h.attempts + 1) :=
    Overflow.add_of_fits (h.attempts_record correct time ▸ hfits.attempts)
  cases correct with
  | true =>
    have hright : o.add counterLimit h.right 1 = some (h.right + 1) :=
      Overflow.add_of_fits hfits.right
    have hrow : o.add counterLimit h.rightInARow 1 = some (h.rightInARow + 1) :=
      Overflow.add_of_fits hfits.rightInARow
    simp only [recordWith, hattempts, hright, hrow, Option.bind_eq_bind, Option.bind_some,
      if_true]
    rw [← record_right]
    exact (apply_ite some _ _ _).symm
  | false =>
    have hwrong : o.add counterLimit h.wrong 1 = some (h.wrong + 1) :=
      Overflow.add_of_fits hfits.wrong
    simp only [recordWith, hattempts, hwrong, Option.bind_eq_bind, Option.bind_some]
    rfl

/-- **An answer that is recorded without going on from zero is recorded exactly.** -/
theorem eq_record_of_recordWith (hrecord : h.recordWith o correct time = some h')
    (hroom : o ≠ .wraps ∨ h.HasRoom) : h' = h.record correct time := by
  simp only [recordWith, Option.bind_eq_bind, Option.bind_eq_some_iff] at hrecord
  obtain ⟨attempts, hattempts, hrecord⟩ := hrecord
  cases Overflow.eq_of_add hattempts (hroom.imp_right HasRoom.attempts)
  cases correct with
  | true =>
    simp only [if_true, Option.bind_eq_some_iff] at hrecord
    obtain ⟨right, hright, row, hrow, hrecord⟩ := hrecord
    cases Overflow.eq_of_add hright (hroom.imp_right HasRoom.right)
    cases Overflow.eq_of_add hrow (hroom.imp_right HasRoom.rightInARow)
    rw [← record_right]
    exact Option.some.inj (hrecord.symm.trans (apply_ite some _ _ _).symm)
  | false =>
    simp only [Bool.false_eq_true, if_false, Option.bind_eq_some_iff] at hrecord
    obtain ⟨wrong, hwrong, hrecord⟩ := hrecord
    cases Overflow.eq_of_add hwrong (hroom.imp_right HasRoom.wrong)
    cases hrecord
    rfl

end History

/-! ## 3. Books -/

namespace Progress

variable {o : Overflow} {p q : Progress} {id : String} {correct : Bool} {time : Instant}

/-- Records one answer in practice, number by number. -/
def recordPracticeWith (o : Overflow) (p : Progress) (id : String) (correct : Bool)
    (time : Instant) : Option Progress := do
  let h ← (p.history id).recordWith o correct time.seconds
  let p := { p with histories := p.histories.insert id h }
  let p := { p with attempts := ← o.add counterLimit p.attempts 1 }
  let p := { p with right := ← o.addIf counterLimit p.right correct }
  let p := { p with accuracy := p.right.toFloat / p.attempts.toFloat }
  let p := { p with lastPracticed := some time }
  return { p with weakest := mostMissed (p.histories.entries.map fun e => (e.1, e.2.wrong)) }

/-- The numbers fit their counters. -/
@[mk_iff]
structure FitsCounters (o : Overflow) (p : Progress) : Prop where
  lessonsTotal : o.Fits counterLimit p.lessonsTotal
  attempts : o.Fits counterLimit p.attempts
  right : o.Fits counterLimit p.right
  bossAttempts : o.Fits counterLimit p.bossAttempts
  histories : ∀ h ∈ p.histories.values, h.FitsCounters o

instance (o : Overflow) (p : Progress) : Decidable (p.FitsCounters o) :=
  decidable_of_iff _ (fitsCounters_iff o p).symm

/-- No counter outgrows its width by one answer to the exercise. -/
@[mk_iff]
structure HasRoom (p : Progress) (id : String) : Prop where
  attempts : p.attempts + 1 < counterLimit
  right : p.right + 1 < counterLimit
  history : (p.history id).HasRoom

instance (p : Progress) (id : String) : Decidable (p.HasRoom id) :=
  decidable_of_iff _ (hasRoom_iff p id).symm

/-- In `q`, one answer more than in `p` is booked to one exercise, by the arithmetic of counters. -/
structure CountsAnswerWith (o : Overflow) (p : Progress) (id : String) (correct : Bool)
    (q : Progress) : Prop where
  attempts : o.add counterLimit p.attempts 1 = some q.attempts
  right : o.addIf counterLimit p.right correct = some q.right
  history : ∃ time h, (p.history id).recordWith o correct time = some h ∧ q.history? id = some h
  others : ∀ id', id' ≠ id → q.history? id' = p.history? id'

theorem insert_record (p : Progress) (id : String) (correct : Bool) (time : Instant) :
    p.histories.insert id ((p.history id).record correct time.seconds) =
      (p.recordPractice id correct time).histories := by
  refine SortedMap.ext_find? fun k => ?_
  have hrecord := p.history?_recordPractice id correct time k
  rw [SortedMap.find?_insert]
  exact hrecord.symm

/-- **As long as its numbers fit, an answer in practice is recorded as if counters had no
width.** -/
theorem recordPracticeWith_of_fits (hfits : (p.recordPractice id correct time).FitsCounters o) :
    p.recordPracticeWith o id correct time = some (p.recordPractice id correct time) := by
  have hhistory : ((p.history id).record correct time.seconds).FitsCounters o := by
    refine hfits.histories _ (SortedMap.mem_values_of_find? (k := id) ?_)
    have hrecord := p.history?_recordPractice id correct time id
    rw [if_pos rfl] at hrecord
    exact hrecord
  have hattempts : o.add counterLimit p.attempts 1 = some (p.attempts + 1) :=
    Overflow.add_of_fits hfits.attempts
  have hright : o.addIf counterLimit p.right correct =
      some (if correct then p.right + 1 else p.right) := Overflow.addIf_of_fits hfits.right
  simp only [recordPracticeWith, History.recordWith_of_fits hhistory, hattempts, hright,
    insert_record, Option.bind_eq_bind, Option.bind_some]
  rfl

/-- **An answer that is counted without going on from zero is counted exactly.** -/
theorem CountsAnswerWith.exact (h : p.CountsAnswerWith o id correct q)
    (hroom : o ≠ .wraps ∨ p.HasRoom id) : p.CountsAnswer id correct q where
  attempts := Overflow.eq_of_add h.attempts (hroom.imp_right HasRoom.attempts)
  right := Overflow.eq_of_addIf h.right (hroom.imp_right fun hroom =>
    Nat.lt_of_le_of_lt (Nat.add_le_add_left correct.toNat_le _) hroom.right)
  history := by
    obtain ⟨time, h', hrecord, hfound⟩ := h.history
    cases History.eq_record_of_recordWith hrecord (hroom.imp_right HasRoom.history)
    exact ⟨time, hfound⟩
  others := h.others

end Progress

end MotionTutor
