import MotionTutor.Proofs.Stats.Reread

/-!
# Profiles that only practice wrote

A profile without its times and accuracies (`Profile.untimed`) is all that an answer in practice
depends on: from profiles that are the same but for these, an answer leads to profiles that are the
same but for these, whenever it is given (`Profile.untimed_recordAnswer`).

Of a profile that only practice wrote (`Profile.OnlyPractice`) every number is zero or at most the
answers in a module, so it fits a record as long as these do (`Profile.OnlyPractice.fits`). With
times that can be saved and shares for accuracies (`Profile.Savable`) it is read again from what is
saved of it, the same but for its times and accuracies (`Profile.OnlyPractice.parse?_render`).
-/

namespace MotionTutor

open Decimal (IsShare)

/-! ## 1. Without times and accuracies -/

namespace History

/-- The history but for its time. -/
def untimed (h : History) : History := { h with lastAttempted := 0 }

theorem untimed_record (h : History) (correct : Bool) (time : Int) :
    (h.record correct time).untimed = h.untimed.record correct 0 := by
  cases correct <;> rfl

/-- Among the histories but for their times, an answer is recorded at no time. -/
theorem mapValues_untimed_modify (m : SortedMap History) (id : String) (correct : Bool)
    (time : Int) :
    (m.modify id fun h => (h.getD .fresh).record correct time).mapValues untimed =
      (m.mapValues untimed).modify id fun h => (h.getD .fresh).record correct 0 := by
  refine SortedMap.mapValues_modify fun h => ?_
  rw [untimed_record]
  cases h <;> rfl

/-- Times are not counted among the wrong answers. -/
theorem misses_mapValues_untimed (m : SortedMap History) :
    (m.mapValues untimed).entries.map (fun e => (e.1, e.2.wrong)) =
      m.entries.map fun e => (e.1, e.2.wrong) := by
  unfold SortedMap.mapValues
  rw [List.map_map]
  rfl

end History

namespace Progress

/-- The progress but for its times and its accuracy. -/
def untimed (p : Progress) : Progress :=
  { p with
    accuracy := 0.0
    histories := p.histories.mapValues History.untimed
    lastPracticed := none }

/-- An answer changes nothing but the history of its exercise and what is counted of practice, and
none of this depends on times. -/
theorem untimed_recordPractice (p : Progress) (id : String) (correct : Bool) (time : Instant) :
    (p.recordPractice id correct time).untimed =
      (p.untimed.recordPractice id correct ⟨0, 0⟩).untimed := by
  have hhistories : (p.recordPractice id correct time).histories.mapValues History.untimed =
      (p.untimed.recordPractice id correct ⟨0, 0⟩).histories.mapValues History.untimed := by
    have hidem : (p.histories.mapValues History.untimed).mapValues History.untimed =
        p.histories.mapValues History.untimed := SortedMap.mapValues_mapValues _ _ _
    show (p.histories.modify id _).mapValues _ =
      ((p.histories.mapValues History.untimed).modify id _).mapValues _
    rw [History.mapValues_untimed_modify, History.mapValues_untimed_modify, hidem]
  have hweakest : (p.recordPractice id correct time).weakest =
      (p.untimed.recordPractice id correct ⟨0, 0⟩).weakest := by
    show mostMissed (List.map _ (p.recordPractice id correct time).histories.entries) =
      mostMissed (List.map _ (p.untimed.recordPractice id correct ⟨0, 0⟩).histories.entries)
    rw [← History.misses_mapValues_untimed, hhistories, History.misses_mapValues_untimed]
  unfold untimed
  rw [hhistories, hweakest]
  rfl

end Progress

namespace Profile

/-- The profile but for its times and accuracies. -/
def untimed (p : Profile) : Profile :=
  { p with lastPlayed := none, modules := p.modules.mapValues Progress.untimed }

/-- Records one answer in a module. -/
def recordAnswer (p : Profile) (module id : String) (correct : Bool) (time : Instant) : Profile :=
  p.modifyProgress module fun m => m.recordPractice id correct time

variable {p q : Profile} {module id : String} {correct : Bool}

theorem untimed_recordAnswer_eq (p : Profile) (module id : String) (correct : Bool)
    (time : Instant) : (p.recordAnswer module id correct time).untimed =
      { p.untimed with
        modules := p.untimed.modules.modify module fun m =>
          ((m.getD .fresh).recordPractice id correct ⟨0, 0⟩).untimed } := by
  have hmodules : (p.modules.modify module fun m =>
      (m.getD .fresh).recordPractice id correct time).mapValues Progress.untimed =
        (p.modules.mapValues Progress.untimed).modify module fun m =>
          ((m.getD .fresh).recordPractice id correct ⟨0, 0⟩).untimed := by
    refine SortedMap.mapValues_modify fun m => ?_
    rw [Progress.untimed_recordPractice]
    cases m <;> rfl
  unfold recordAnswer modifyProgress untimed
  rw [hmodules]

/-- **An answer depends on no times and accuracies.** -/
theorem untimed_recordAnswer (h : p.untimed = q.untimed) (time time' : Instant) :
    (p.recordAnswer module id correct time).untimed =
      (q.recordAnswer module id correct time').untimed := by
  rw [untimed_recordAnswer_eq, untimed_recordAnswer_eq, h]

end Profile

/-! ## 2. What practice counts -/

/-- The counts of a history are at most `n`. -/
structure History.Within (n : Nat) (h : History) : Prop where
  attempts : h.attempts ≤ n
  right : h.right ≤ n
  wrong : h.wrong ≤ n
  rightInARow : h.rightInARow ≤ n

theorem History.Within.mono {m n : Nat} {h : History} (hm : h.Within m) (hle : m ≤ n) :
    h.Within n :=
  ⟨hm.attempts.trans hle, hm.right.trans hle, hm.wrong.trans hle, hm.rightInARow.trans hle⟩

theorem History.within_fresh (n : Nat) : fresh.Within n :=
  ⟨Nat.zero_le n, Nat.zero_le n, Nat.zero_le n, Nat.zero_le n⟩

theorem History.Within.record {n : Nat} {h : History} (hn : h.Within n) (correct : Bool)
    (time : Int) : (h.record correct time).Within (n + 1) := by
  obtain ⟨hattempts, hright, hwrong, hrow⟩ := hn
  cases correct with
  | true => exact ⟨Nat.succ_le_succ hattempts, Nat.succ_le_succ hright, Nat.le_succ_of_le hwrong,
      Nat.succ_le_succ hrow⟩
  | false => exact ⟨Nat.succ_le_succ hattempts, Nat.le_succ_of_le hright, Nat.succ_le_succ hwrong,
      Nat.zero_le _⟩

namespace Progress

/-- Nothing but practice has happened in the module, and no count is above the answers in it. -/
structure OnlyPractice (p : Progress) : Prop where
  lessonsCompleted : p.lessonsCompleted = 0
  lessonsTotal : p.lessonsTotal = 0
  bossBestTime : p.bossBestTime = .zero
  bossAttempts : p.bossAttempts = 0
  bossLivesLeft : p.bossLivesLeft = 0
  right_le : p.right ≤ p.attempts
  histories : ∀ h ∈ p.histories.values, h.Within p.attempts

variable {p : Progress}

theorem onlyPractice_fresh : fresh.OnlyPractice :=
  ⟨rfl, rfl, rfl, rfl, rfl, Nat.le_refl 0, List.forall_mem_nil _⟩

theorem OnlyPractice.recordPractice (h : p.OnlyPractice) (id : String) (correct : Bool)
    (time : Instant) : (p.recordPractice id correct time).OnlyPractice where
  lessonsCompleted := h.lessonsCompleted
  lessonsTotal := h.lessonsTotal
  bossBestTime := h.bossBestTime
  bossAttempts := h.bossAttempts
  bossLivesLeft := h.bossLivesLeft
  right_le := by
    have hle := h.right_le
    show (if correct then p.right + 1 else p.right) ≤ p.attempts + 1
    split <;> omega
  histories h' hmem := by
    show h'.Within (p.attempts + 1)
    rcases SortedMap.mem_values_modify hmem with rfl | hold
    · exact (SortedMap.holds_getD_find? (History.within_fresh p.attempts) h.histories id).record
        correct time.seconds
    · exact (h.histories h' hold).mono (Nat.le_succ _)

/-- Times that can be saved, and a share for the accuracy. -/
structure Savable (p : Progress) : Prop where
  share : IsShare p.accuracy
  proper : ∀ t ∈ p.lastPracticed, t.Proper
  hasText : ∀ t ∈ p.lastPracticed, t.HasText
  histories : ∀ h ∈ p.histories.values, -integerLimit ≤ h.lastAttempted ∧
    h.lastAttempted < integerLimit

theorem savable_fresh : fresh.Savable := by
  refine ⟨?_, nofun, nofun, List.forall_mem_nil _⟩
  show (0.0 : Float).toBits.toNat ≤ Decimal.oneBits
  decide

/-- The numbers fit a record if the answers do. -/
theorem OnlyPractice.fits (h : p.OnlyPractice) (hsavable : p.Savable)
    (hattempts : p.attempts < counterLimit) : p.Fits where
  lessonsCompleted := h.lessonsCompleted ▸ (by decide)
  lessonsTotal := h.lessonsTotal ▸ (by decide)
  attempts := hattempts
  right := h.right_le.trans_lt hattempts
  bossBestTime := h.bossBestTime ▸ (by decide)
  bossAttempts := h.bossAttempts ▸ (by decide)
  bossLivesLeft := h.bossLivesLeft ▸ (by decide)
  histories h' hmem := by
    obtain ⟨h₁, h₂, h₃, h₄⟩ := h.histories h' hmem
    exact ⟨h₁.trans_lt hattempts, h₂.trans_lt hattempts, h₃.trans_lt hattempts,
      h₄.trans_lt hattempts, hsavable.histories h' hmem⟩
  lastPracticed := hsavable.proper

theorem Savable.recordPractice (hsavable : p.Savable) (h : p.OnlyPractice) (id : String)
    (correct : Bool) {time : Instant} (hattempts : p.attempts + 1 < counterLimit)
    (hproper : time.Proper) (htext : time.HasText) :
    (p.recordPractice id correct time).Savable where
  share := by
    have hlimit : counterLimit < 2 ^ 53 := by decide
    exact Decimal.isShare_natDiv (h.recordPractice id correct time).right_le (Nat.succ_pos _)
      (hattempts.trans hlimit)
  proper := by
    rintro _ ⟨⟩
    exact hproper
  hasText := by
    rintro _ ⟨⟩
    exact htext
  histories h' hmem := by
    rcases SortedMap.mem_values_modify hmem with rfl | hold
    · have htime :
          (((p.histories.find? id).getD .fresh).record correct time.seconds).lastAttempted =
            time.seconds := by
        cases correct <;> rfl
      rw [htime]
      exact htext.seconds_range
    · exact hsavable.histories h' hold

/-- The progress as it is read again. -/
def reloaded (p : Progress) : Progress := p.reread.truncated

theorem OnlyPractice.reloaded (h : p.OnlyPractice) : p.reloaded.OnlyPractice :=
  ⟨h.lessonsCompleted, h.lessonsTotal, congrArg Duration.truncated h.bossBestTime, h.bossAttempts,
    h.bossLivesLeft, h.right_le, h.histories⟩

theorem Savable.reloaded (h : p.Savable) : p.reloaded.Savable where
  share := (Json.rereadFraction_share h.share).1
  proper t ht := by
    obtain ⟨t', ht', rfl⟩ := Option.map_eq_some_iff.1 ht
    exact (h.proper t' ht').truncated
  hasText t ht := by
    obtain ⟨t', ht', rfl⟩ := Option.map_eq_some_iff.1 ht
    exact h.hasText t' ht'
  histories := h.histories

theorem OnlyPractice.untimed_reloaded (h : p.OnlyPractice) : p.reloaded.untimed = p.untimed := by
  have htime : p.reloaded.bossBestTime = p.bossBestTime :=
    (congrArg Duration.truncated h.bossBestTime).trans h.bossBestTime.symm
  unfold untimed
  rw [htime]
  rfl

end Progress

/-! ## 3. Profiles -/

namespace Profile

/-- Nothing but practice has happened. -/
structure OnlyPractice (p : Profile) : Prop where
  totalScore : p.totalScore = 0
  currentStreak : p.currentStreak = 0
  bestStreak : p.bestStreak = 0
  totalTime : p.totalTime = .zero
  modules : ∀ m ∈ p.modules.values, m.OnlyPractice

/-- Times that can be saved, and shares for the accuracies. -/
structure Savable (p : Profile) : Prop where
  proper : ∀ t ∈ p.lastPlayed, t.Proper
  hasText : ∀ t ∈ p.lastPlayed, t.HasText
  modules : ∀ m ∈ p.modules.values, m.Savable

/-- The answers in each module can be counted in 32 bits, as a record has them. -/
def AttemptsFit (p : Profile) : Prop := ∀ m ∈ p.modules.values, m.attempts < counterLimit

variable {p q : Profile} {module id : String} {correct : Bool} {time : Instant}

theorem onlyPractice_fresh : fresh.OnlyPractice := ⟨rfl, rfl, rfl, rfl, List.forall_mem_nil _⟩

theorem savable_fresh : fresh.Savable := ⟨nofun, nofun, List.forall_mem_nil _⟩

/-- The progress that an answer changes. -/
theorem OnlyPractice.answered (h : p.OnlyPractice) (module : String) :
    ((p.modules.find? module).getD .fresh).OnlyPractice :=
  SortedMap.holds_getD_find? Progress.onlyPractice_fresh h.modules module

theorem OnlyPractice.recordAnswer (h : p.OnlyPractice) (module id : String) (correct : Bool)
    (time : Instant) : (p.recordAnswer module id correct time).OnlyPractice := by
  refine ⟨h.totalScore, h.currentStreak, h.bestStreak, h.totalTime, fun m hm => ?_⟩
  rcases SortedMap.mem_values_modify hm with rfl | hold
  · exact (h.answered module).recordPractice id correct time
  · exact h.modules m hold

/-- An answer takes away none. -/
theorem AttemptsFit.of_recordAnswer (h : (p.recordAnswer module id correct time).AttemptsFit) :
    p.AttemptsFit ∧
      ((p.modules.find? module).getD .fresh).attempts + 1 < counterLimit := by
  have hfind : ∀ k, (p.recordAnswer module id correct time).modules.find? k = if k = module then
      some (((p.modules.find? module).getD .fresh).recordPractice id correct time)
        else p.modules.find? k :=
    SortedMap.find?_modify p.modules module _
  have hanswered : ((p.modules.find? module).getD .fresh).attempts + 1 < counterLimit := by
    have hnew := hfind module
    rw [if_pos rfl] at hnew
    exact h _ (SortedMap.mem_values_of_find? hnew)
  refine ⟨fun m hm => ?_, hanswered⟩
  obtain ⟨e, he, rfl⟩ := List.mem_map.1 hm
  have hold : p.modules.find? e.1 = some e.2 := SortedMap.find?_of_mem he
  by_cases hkey : e.1 = module
  · rw [← hkey, hold] at hanswered
    exact Nat.lt_of_succ_lt hanswered
  · have hkept := hfind e.1
    rw [if_neg hkey, hold] at hkept
    exact h e.2 (SortedMap.mem_values_of_find? hkept)

theorem Savable.recordAnswer (hsavable : p.Savable) (h : p.OnlyPractice)
    (hattempts : (p.recordAnswer module id correct time).AttemptsFit) (hproper : time.Proper)
    (htext : time.HasText) : (p.recordAnswer module id correct time).Savable := by
  refine ⟨hsavable.proper, hsavable.hasText, fun m hm => ?_⟩
  rcases SortedMap.mem_values_modify hm with rfl | hold
  · have hanswered := SortedMap.holds_getD_find? Progress.savable_fresh hsavable.modules module
    exact hanswered.recordPractice (h.answered module) id correct hattempts.of_recordAnswer.2
      hproper htext
  · exact hsavable.modules m hold

/-- Profiles that are the same but for times and accuracies have the same numbers of answers. -/
theorem AttemptsFit.of_untimed (h : p.untimed = q.untimed) (hq : q.AttemptsFit) :
    p.AttemptsFit := by
  intro m hm
  have hvalues : p.modules.values.map Progress.untimed =
      q.modules.values.map Progress.untimed := by
    have hmodules : p.modules.mapValues Progress.untimed = q.modules.mapValues Progress.untimed :=
      congrArg modules h
    rw [← SortedMap.values_mapValues, ← SortedMap.values_mapValues, hmodules]
  have hmem : m.untimed ∈ q.modules.values.map Progress.untimed :=
    hvalues ▸ List.mem_map_of_mem hm
  obtain ⟨m', hm', heq⟩ := List.mem_map.1 hmem
  have hattempts : m'.untimed.attempts = m.untimed.attempts := congrArg Progress.attempts heq
  exact lt_of_eq_of_lt hattempts.symm (hq m' hm')

/-! ## 4. Saving and loading -/

/-- The profile as it is read again. -/
def reloaded (p : Profile) : Profile := p.reread.truncated

theorem modules_reloaded (p : Profile) :
    p.reloaded.modules = p.modules.mapValues Progress.reloaded :=
  SortedMap.mapValues_mapValues _ _ _

theorem forall_modules_reloaded {P : Progress → Prop}
    (h : ∀ m ∈ p.modules.values, P m.reloaded) : ∀ m ∈ p.reloaded.modules.values, P m := by
  rw [modules_reloaded, SortedMap.values_mapValues, List.forall_mem_map]
  exact h

theorem OnlyPractice.reloaded (h : p.OnlyPractice) : p.reloaded.OnlyPractice :=
  ⟨h.totalScore, h.currentStreak, h.bestStreak, congrArg Duration.truncated h.totalTime,
    forall_modules_reloaded fun m hm => (h.modules m hm).reloaded⟩

theorem Savable.reloaded (h : p.Savable) : p.reloaded.Savable where
  proper t ht := by
    obtain ⟨t', ht', rfl⟩ := Option.map_eq_some_iff.1 ht
    exact (h.proper t' ht').truncated
  hasText t ht := by
    obtain ⟨t', ht', rfl⟩ := Option.map_eq_some_iff.1 ht
    exact h.hasText t' ht'
  modules := forall_modules_reloaded fun m hm => (h.modules m hm).reloaded

theorem OnlyPractice.untimed_reloaded (h : p.OnlyPractice) : p.reloaded.untimed = p.untimed := by
  have htime : p.reloaded.totalTime = p.totalTime :=
    (congrArg Duration.truncated h.totalTime).trans h.totalTime.symm
  have hmodules : p.reloaded.modules.mapValues Progress.untimed =
      p.modules.mapValues Progress.untimed := by
    rw [modules_reloaded, SortedMap.mapValues_mapValues]
    exact SortedMap.mapValues_congr fun m hm => (h.modules m hm).untimed_reloaded
  unfold untimed
  rw [htime, hmodules]
  rfl

/-- **A profile that only practice wrote is read again from what is saved of it**, the same but for
its times and accuracies. -/
theorem OnlyPractice.parse?_render (h : p.OnlyPractice) (hsavable : p.Savable)
    (hattempts : p.AttemptsFit) : parse? p.render = some p.reloaded := by
  have hfits : p.Fits :=
    ⟨h.totalScore ▸ (by decide), h.currentStreak ▸ (by decide), h.bestStreak ▸ (by decide),
      h.totalTime ▸ (by decide), hsavable.proper,
      fun m hm => (h.modules m hm).fits (hsavable.modules m hm) (hattempts m hm)⟩
  exact parse?_render_reread hfits ⟨hsavable.hasText, fun m hm => (hsavable.modules m hm).hasText⟩
    fun m hm => (hsavable.modules m hm).share

end Profile

end MotionTutor
