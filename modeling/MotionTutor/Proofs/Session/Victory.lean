import MotionTutor.Proofs.Session.Notes
import Mathlib.Data.List.Infix
import Mathlib.Data.List.Nodup

/-!
# What won fights leave behind

A won fight is credited when asked for, and leaves its trace in three places: among the defeated
bosses, and as a mark and a best time in the progress of the module. After any requests to a player
who began without results, all three agree with what happened (`Session.run_credits_wins`).

What happened is read off the events alone: the present sitting reaches back to the last event that
began or ended one (`Event.sitting`), the time spent in it is what was added since
(`Event.timeSpent`), and the module whose boss is fought is the one challenged then
(`Event.challenged?`). `Event.wins` are the credited wins in a module, the latest first. The session
keeps an account of its own of all this, and `Session.Ledger` says that the two agree.

Counters have no limit here. What holds of a session as long as its numbers fit 32 bits is told by
`Session.run_fields`.
-/

namespace MotionTutor

/-! ## 1. What happened -/

namespace Deed

/-- A sitting begins or ends. -/
def opens : Deed → Bool
  | began | challenged _ | ended => true
  | _ => false

/-- The time that was added. -/
def time : Deed → Duration
  | spent time => time
  | _ => .zero

/-- The module whose boss was challenged. -/
def challenged? : Deed → Option String
  | challenged module => some module
  | _ => none

end Deed

/-- How many lives are left in a fight; none elsewhere. -/
def Activity.lives (a : Activity) : Nat := a.fight?.elim 0 Fight.lives

/-- A won fight: the time that it took and the lives that were left. -/
structure Win where
  time : Duration
  lives : Nat
deriving DecidableEq, Repr

/-- The time is the shortest that a win took, and zero if there is none. -/
def Win.IsShortest (time : Duration) (wins : List Win) : Prop :=
  (wins = [] ∧ time = .zero) ∨ ((∃ w ∈ wins, w.time = time) ∧ ∀ w ∈ wins, ¬ w.time < time)

namespace Event

/-- The events of the present sitting. -/
def sitting (past : List Event) : List Event := past.takeWhile fun e => !e.deed.opens

/-- The time spent in the present sitting. -/
def timeSpent (past : List Event) : Duration :=
  (sitting past).foldr (fun e time => time + e.deed.time) .zero

/-- The module whose boss is fought in the present sitting. -/
def challenged? (past : List Event) : Option String :=
  (past.find? fun e => e.deed.opens).bind fun e => e.deed.challenged?

/-- How many fights were credited. -/
def credits (past : List Event) : Nat := past.countP fun e => e.deed = .won

/-- The credited wins over the boss of a module. -/
def wins (module : String) : List Event → List Win
  | [] => []
  | e :: past =>
    if e.deed = .won ∧ challenged? past = some module then
      ⟨timeSpent past, e.session.sitting.activity.lives⟩ :: wins module past
    else wins module past

/-- How often the boss of a module was challenged. -/
def attempts (module : String) (past : List Event) : Nat :=
  past.countP fun e => e.deed = .challenged module

/-- A fight is credited at most once, and only after it was won. -/
structure CreditedOnce (past : List Event) : Prop where
  /-- Where no sitting begins or ends, at most one fight is credited. -/
  once : ∀ span, span <:+: past → (∀ e ∈ span, e.deed.opens = false) → credits span ≤ 1
  /-- A credited fight is one with the boss that was challenged, and a victory. -/
  victory : ∀ e earlier, e :: earlier <:+ past → e.deed = .won →
    ∃ c fight, e.session.sitting.activity = .boss c fight ∧ challenged? earlier = some c.id ∧
      e.session.outcome = .victory

variable {e : Event} {past : List Event}

theorem sitting_cons :
    sitting (e :: past) = if e.deed.opens then [] else e :: sitting past := by
  unfold sitting
  rw [List.takeWhile_cons]
  cases e.deed.opens <;> rfl

theorem timeSpent_cons :
    timeSpent (e :: past) =
      if e.deed.opens then .zero else timeSpent past + e.deed.time := by
  unfold timeSpent
  rw [sitting_cons]
  split <;> rfl

theorem challenged?_cons :
    challenged? (e :: past) =
      if e.deed.opens then e.deed.challenged? else challenged? past := by
  unfold challenged?
  rw [List.find?_cons]
  cases e.deed.opens <;> rfl

theorem credits_cons : credits (e :: past) = credits past + if e.deed = .won then 1 else 0 := by
  unfold credits
  rw [List.countP_cons]
  simp only [decide_eq_true_eq]

theorem attempts_cons (module : String) :
    attempts module (e :: past) =
      attempts module past + if e.deed = .challenged module then 1 else 0 := by
  unfold attempts
  rw [List.countP_cons]
  simp only [decide_eq_true_eq]

/-- The credits of a sitting, one event later. -/
theorem credits_sitting_cons :
    credits (sitting (e :: past)) =
      if e.deed.opens then 0 else credits (sitting past) + if e.deed = .won then 1 else 0 := by
  rw [sitting_cons]
  split
  · rfl
  · exact credits_cons

theorem wins_cons_ne_nil {module : String} :
    wins module (e :: past) ≠ [] ↔
      wins module past ≠ [] ∨ (e.deed = .won ∧ challenged? past = some module) := by
  rw [wins]
  split <;> simp_all

/-- Events up to now among which no sitting begins or ends belong to the present sitting. -/
theorem prefix_sitting {span : List Event} (h : span <+: past)
    (hspan : ∀ e ∈ span, e.deed.opens = false) : span <+: sitting past :=
  prefix_takeWhile h hspan

theorem creditedOnce_nil : CreditedOnce [] where
  once span hspan _ := by
    rw [List.eq_nil_of_infix_nil hspan]
    exact Nat.zero_le _
  victory e earlier h _ := absurd (List.eq_nil_of_suffix_nil h) (List.cons_ne_nil _ _)

/-- One event later, fights are credited at most once if that is so in the present sitting, and if
the fight credited now, if any, is won. -/
theorem CreditedOnce.cons (h : CreditedOnce past) (honce : credits (sitting (e :: past)) ≤ 1)
    (hvictory : e.deed = .won →
      ∃ c fight, e.session.sitting.activity = .boss c fight ∧ challenged? past = some c.id ∧
        e.session.outcome = .victory) : CreditedOnce (e :: past) where
  once span hspan hquiet := by
    rcases List.infix_cons_iff.mp hspan with hlatest | hearlier
    · exact Nat.le_trans (prefix_sitting hlatest hquiet).countP_le honce
    · exact h.once span hearlier hquiet
  victory e' earlier hsuffix hwon := by
    rcases List.suffix_cons_iff.mp hsuffix with heq | hearlier
    · cases heq
      exact hvictory hwon
    · exact h.victory e' earlier hearlier hwon

end Event

/-! ## 2. What the progress in a module tells -/

namespace Win

variable {time : Duration} {wins : List Win}

theorem isShortest_singleton (w : Win) : IsShortest w.time [w] := by
  refine Or.inr ⟨⟨w, List.mem_cons_self, rfl⟩, fun w' hw' => ?_⟩
  rw [List.mem_singleton.mp hw']
  exact Nat.lt_irrefl _

theorem IsShortest.cons (h : IsShortest time wins) (hne : wins ≠ []) (w : Win) :
    IsShortest (w.time.shorter time) (w :: wins) := by
  obtain ⟨⟨v, hv, rfl⟩, hleast⟩ := h.resolve_left fun hnone => hne hnone.1
  right
  unfold Duration.shorter
  split
  · rename_i hlt
    refine ⟨⟨w, List.mem_cons_self, rfl⟩, fun w' hw' hshorter => ?_⟩
    rcases List.mem_cons.mp hw' with rfl | hw'
    · exact Nat.lt_irrefl _ hshorter
    · exact hleast w' hw' (Nat.lt_trans hshorter hlt)
  · rename_i hge
    refine ⟨⟨v, List.mem_cons_of_mem w hv, rfl⟩, fun w' hw' => ?_⟩
    rcases List.mem_cons.mp hw' with rfl | hw'
    · exact hge
    · exact hleast w' hw'

end Win

/-- The note is about a fight. -/
def Note.ofFight : Note → Bool
  | challenged | won _ _ => true
  | _ => false

namespace Progress

/-- What the progress in a module tells of its fights: how many there were, and of those that were
won whether there is one, the shortest time, and the lives left in the latest. -/
structure Tells (p : Progress) (attempts : Nat) (wins : List Win) : Prop where
  attempts : p.bossAttempts = attempts
  defeated : p.bossDefeated = true ↔ wins ≠ []
  bestTime : Win.IsShortest p.bossBestTime wins
  livesLeft : p.bossLivesLeft = wins.head?.elim 0 Win.lives

variable {p : Progress} {attempts : Nat} {wins : List Win}

theorem tells_fresh : fresh.Tells 0 [] where
  attempts := rfl
  defeated := by simp [fresh]
  bestTime := Or.inl ⟨rfl, rfl⟩
  livesLeft := rfl

theorem Tells.challenge (h : p.Tells attempts wins) :
    (Note.challenged.write p).Tells (attempts + 1) wins where
  attempts := congrArg (· + 1) h.attempts
  defeated := h.defeated
  bestTime := h.bestTime
  livesLeft := h.livesLeft

theorem Tells.win (h : p.Tells attempts wins) (w : Win) :
    ((Note.won w.time w.lives).write p).Tells attempts (w :: wins) where
  attempts := h.attempts
  defeated := iff_of_true rfl (List.cons_ne_nil w wins)
  bestTime := by
    unfold Note.write recordBossWin
    dsimp only
    split
    · rename_i hdefeated
      exact h.bestTime.cons (h.defeated.mp hdefeated) w
    · rename_i hdefeated
      have hnone : wins = [] := Classical.not_not.mp (mt h.defeated.mpr hdefeated)
      rw [hnone]
      exact Win.isShortest_singleton w
  livesLeft := rfl

/-- A note about lessons or practice tells nothing new of fights. -/
theorem Tells.write (h : p.Tells attempts wins) {note : Note} (hnote : note.ofFight = false) :
    (note.write p).Tells attempts wins := by
  cases note with
  | challenged => cases hnote
  | won elapsed lives => cases hnote
  | lessonDone index =>
    dsimp only [Note.write]
    split
    · exact ⟨h.attempts, h.defeated, h.bestTime, h.livesLeft⟩
    · exact h
  | _ => exact ⟨h.attempts, h.defeated, h.bestTime, h.livesLeft⟩

/-- What neither challenges the boss of the module nor credits a fight adds nothing to this. -/
theorem Tells.quiet (h : p.Tells attempts wins) {d : Deed} {module : String}
    (hchallenged : d ≠ .challenged module) (hwon : d ≠ .won) {P : Prop} [Decidable P] {w : Win} :
    p.Tells (attempts + if d = .challenged module then 1 else 0)
      (if d = .won ∧ P then w :: wins else wins) := by
  rw [if_neg hchallenged, if_neg fun hand => hwon hand.1]
  exact h

end Progress

/-! ## 3. Turns -/

namespace Activity

/-- The module whose boss is fought. -/
def fighting? : Activity → Option String
  | boss c _ => some c.id
  | _ => none

/-- One if the fight is credited, and zero otherwise. -/
def credits (a : Activity) : Nat := a.fight?.elim 0 fun fight => fight.credited.toNat

end Activity

namespace Profile

variable {p : Profile} {module module' : String}

theorem mem_markBossDefeated :
    module' ∈ (p.markBossDefeated module).bossesDefeated ↔
      module' ∈ p.bossesDefeated ∨ module = module' := by
  unfold markBossDefeated
  split
  · rename_i hold
    have hmem : module ∈ p.bossesDefeated := List.contains_iff_mem.mp hold
    exact ⟨Or.inl, fun h => h.elim id fun heq => heq ▸ hmem⟩
  · rw [List.mem_append, List.mem_singleton, eq_comm]

theorem nodup_markBossDefeated (h : p.bossesDefeated.Nodup) (module : String) :
    (p.markBossDefeated module).bossesDefeated.Nodup := by
  unfold markBossDefeated
  split
  · exact h
  · rename_i hnew
    refine List.nodup_append.mpr ⟨h, List.nodup_singleton module, ?_⟩
    rintro m hm _ hm' rfl
    rw [List.mem_singleton.mp hm'] at hm
    exact hnew (List.contains_iff_mem.mpr hm)

end Profile

namespace Session

variable {s t : Session} {d : Deed} {c : Chapter} {module : String} {attempts : Nat}
  {wins : List Win}

theorem elapsed_turn (ht : s.Turn d t) :
    t.sitting.elapsed = if d.opens then .zero else s.sitting.elapsed + d.time := by
  cases ht <;> rfl

/-- A fight begins with its challenge and is credited once, since it was not credited before. -/
theorem fight_turn (ht : s.Turn d t) :
    t.sitting.activity.fighting? =
        (if d.opens then d.challenged? else s.sitting.activity.fighting?) ∧
      t.sitting.activity.credits =
        if d.opens then 0 else s.sitting.activity.credits + if d = .won then 1 else 0 := by
  cases ht with
  | wrongFight ha hfight => rw [ha]; exact ⟨rfl, rfl⟩
  | nextLesson ha hlt => rw [ha]; exact ⟨rfl, rfl⟩
  | lastLesson ha hlast => rw [ha]; exact ⟨rfl, rfl⟩
  | nextStep ha hfight => rw [ha]; exact ⟨rfl, rfl⟩
  | drawn ha e words => rw [ha]; exact ⟨rfl, rfl⟩
  | exhausted ha words => rw [ha]; exact ⟨rfl, rfl⟩
  | chosen ha e => rw [ha]; exact ⟨rfl, rfl⟩
  | @won c fight ha hfight hfirst =>
    -- only a fight that is not credited yet can be
    have hzero : (Activity.boss c fight).credits = 0 := by
      rw [Activity.credits, Activity.fight?, Option.elim_some, hfirst]
      rfl
    rw [ha, hzero]
    exact ⟨rfl, rfl⟩
  | _ => exact ⟨rfl, rfl⟩

/-- The boss that is fought counts as defeated when the fight is credited. -/
theorem mem_bossesDefeated_turn (ht : s.Turn d t) :
    module ∈ t.profile.bossesDefeated ↔
      module ∈ s.profile.bossesDefeated ∨
        (d = .won ∧ s.sitting.activity.fighting? = some module) := by
  rcases bossesDefeated_turn ht with ⟨hd, h⟩ | ⟨hd, c, fight, ha, -, h⟩
  · rw [h]
    exact ⟨Or.inl, fun h' => h'.elim id fun hwon => absurd hwon.1 hd⟩
  · have hfighting : s.sitting.activity.fighting? = some c.id := by
      rw [ha]
      rfl
    rw [h, Profile.mem_markBossDefeated, hfighting, Option.some.injEq, and_iff_right hd]

theorem nodup_bossesDefeated_turn (h : s.profile.bossesDefeated.Nodup) (ht : s.Turn d t) :
    t.profile.bossesDefeated.Nodup := by
  rcases bossesDefeated_turn ht with ⟨-, hsame⟩ | ⟨-, c, fight, -, -, hmarked⟩
  · rw [hsame]
    exact h
  · rw [hmarked]
    exact Profile.nodup_markBossDefeated h c.id

theorem tells_noted (h : (s.profile.progress module).Tells attempts wins) {note : Note}
    (hnote : note.ofFight = false) :
    ((s.noted c note).profile.progress module).Tells attempts wins := by
  rw [progress_noted]
  split
  · exact h.write hnote
  · exact h

/-- What the progress in a module tells after a turn: one fight more if its boss was challenged, and
one win more if the fight with it was credited. -/
theorem tells_turn (h : (s.profile.progress module).Tells attempts wins) (ht : s.Turn d t) :
    (t.profile.progress module).Tells (attempts + if d = .challenged module then 1 else 0)
      (if d = .won ∧ s.sitting.activity.fighting? = some module then
        ⟨s.sitting.elapsed, s.sitting.activity.lives⟩ :: wins
      else wins) := by
  cases ht with
  | lessons now hopen => exact (tells_noted h rfl).quiet Deed.noConfusion Deed.noConfusion
  | rightLesson ha hlt points =>
    exact (tells_noted h rfl).quiet Deed.noConfusion Deed.noConfusion
  | rightPractice ha now points =>
    exact (tells_noted h rfl).quiet Deed.noConfusion Deed.noConfusion
  | wrongPractice ha now => exact (tells_noted h rfl).quiet Deed.noConfusion Deed.noConfusion
  | lastLesson ha hlast => exact (tells_noted h rfl).quiet Deed.noConfusion Deed.noConfusion
  | @fight now c hopen boss hboss =>
    rw [progress_noted]
    by_cases hmodule : module = c.id
    · rw [if_pos hmodule, if_pos (congrArg Deed.challenged hmodule.symm),
        if_neg fun hand => Deed.noConfusion hand.1]
      exact h.challenge
    · rw [if_neg hmodule]
      exact h.quiet (fun heq => hmodule (Deed.challenged.inj heq).symm) Deed.noConfusion
  | @won c fight ha hfight hfirst =>
    have hmark := s.profile.progress_markBossDefeated c.id module
    have hchallenged : Deed.won ≠ .challenged module := Deed.noConfusion
    rw [progress_addScore, progress_noted, if_neg hchallenged, ha]
    by_cases hmodule : module = c.id
    · rw [if_pos hmodule, if_pos ⟨rfl, congrArg some hmodule.symm⟩, hmark]
      exact h.win ⟨s.sitting.elapsed, fight.lives⟩
    · rw [if_neg hmodule, if_neg fun hand => hmodule (Option.some.inj hand.2).symm, hmark]
      exact h
  | _ => exact h.quiet Deed.noConfusion Deed.noConfusion

/-! ## 4. The invariant -/

/-- The account that a session keeps agrees with what happened. -/
structure Ledger (s : Session) (past : List Event) : Prop where
  elapsed : s.sitting.elapsed = Event.timeSpent past
  fighting : s.sitting.activity.fighting? = Event.challenged? past
  credits : s.sitting.activity.credits = Event.credits (Event.sitting past)
  nodup : s.profile.bossesDefeated.Nodup
  defeated : ∀ module, module ∈ s.profile.bossesDefeated ↔ Event.wins module past ≠ []
  tells : ∀ module,
    (s.profile.progress module).Tells (Event.attempts module past) (Event.wins module past)
  creditedOnce : Event.CreditedOnce past

theorem ledger_start (catalog : Catalog) (words : Words) :
    (start catalog .fresh words).Ledger [] where
  elapsed := rfl
  fighting := rfl
  credits := rfl
  nodup := List.nodup_nil
  defeated _ := iff_of_false List.not_mem_nil fun h => h rfl
  tells _ := Progress.tells_fresh
  creditedOnce := Event.creditedOnce_nil

theorem credits_le_one (a : Activity) : a.credits ≤ 1 := by
  cases a with
  | boss c fight => exact Bool.toNat_le fight.credited
  | _ => exact Nat.zero_le 1

/-- **Every turn keeps the account.** -/
theorem ledger_turn {e : Event} {past : List Event} (h : e.session.Ledger past)
    (ht : e.session.Turn e.deed t) : t.Ledger (e :: past) where
  elapsed := by
    rw [elapsed_turn ht, Event.timeSpent_cons, h.elapsed]
  fighting := by
    rw [(fight_turn ht).1, Event.challenged?_cons, h.fighting]
  credits := by
    rw [(fight_turn ht).2, Event.credits_sitting_cons, h.credits]
  nodup := nodup_bossesDefeated_turn h.nodup ht
  defeated module := by
    rw [mem_bossesDefeated_turn ht, Event.wins_cons_ne_nil, h.defeated module, h.fighting]
  tells module := by
    -- what a win takes from the events is what the session wrote down
    rw [Event.attempts_cons, Event.wins, ← h.elapsed, ← h.fighting]
    exact tells_turn (h.tells module) ht
  creditedOnce := by
    refine h.creditedOnce.cons ?_ fun hwon => ?_
    -- the credits of the sitting are those of its fight after the turn, which has one at most
    · rw [Event.credits_sitting_cons, ← h.credits, ← (fight_turn ht).2]
      exact credits_le_one _
    · rcases bossesDefeated_turn ht with ⟨hd, -⟩ | ⟨-, c, fight, ha, hfight, -⟩
      · exact absurd hwon hd
      · refine ⟨c, fight, ha, ?_, ?_⟩
        · rw [← h.fighting, ha]
          rfl
        · rw [outcome_of_activity ha]
          exact hfight

theorem ledger_run (catalog : Catalog) (words : Words) (requests : List Request) :
    ((start catalog .fresh words).run requests).Ledger
      ((start catalog .fresh words).events requests) :=
  run_induction (ledger_start catalog words) (fun _ _ _ ht h => ledger_turn h ht) requests

/-- The mark of a win in the progress is that of fresh progress where there is none. -/
theorem any_bossDefeated (p : Profile) (module : String) :
    (p.progress? module).any Progress.bossDefeated = (p.progress module).bossDefeated :=
  p.any_progress? module rfl

/-- **Won fights are credited once, and all that is kept of them agrees with what happened.** For a
player who began without results, the boss of a module counts as defeated, and its progress is
marked so, if a fight with it was credited, and only then. The progress tells how often the boss was
challenged, the shortest time of a credited fight, from its challenge to its credit, and the lives
that were left in the latest. Between two events that begin or end a sitting at most one fight is
credited, and that is a victory over the boss which was challenged.

Numbers have no limit here. Challenges are counted with 32 bits in fact, so this tells of runs of
fewer than 2 ^ 32 requests, which cannot have more challenges than that. -/
theorem run_credits_wins (catalog : Catalog) (words : Words) (requests : List Request) :
    let p := ((start catalog .fresh words).run requests).profile
    let past := (start catalog .fresh words).events requests
    p.bossesDefeated.Nodup ∧ Event.CreditedOnce past ∧
      ∀ module,
        (module ∈ p.bossesDefeated ↔
          (p.progress? module).any Progress.bossDefeated = true) ∧
        (module ∈ p.bossesDefeated ↔ Event.wins module past ≠ []) ∧
        (p.progress module).bossAttempts = Event.attempts module past ∧
        Win.IsShortest (p.progress module).bossBestTime (Event.wins module past) ∧
        (p.progress module).bossLivesLeft = (Event.wins module past).head?.elim 0 Win.lives := by
  intro p past
  have hledger := ledger_run catalog words requests
  refine ⟨hledger.nodup, hledger.creditedOnce, fun module => ?_⟩
  have htells : (p.progress module).Tells _ _ := hledger.tells module
  have hdefeated := hledger.defeated module
  refine ⟨?_, hdefeated, htells.attempts, htells.bestTime, htells.livesLeft⟩
  rw [any_bossDefeated, htells.defeated]
  exact hdefeated

end Session

end MotionTutor
