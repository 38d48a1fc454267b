import MotionTutor.Proofs.Session.Notes
import Mathlib.Data.List.Nodup

/-!
# In which order modules open

A player without results can open the modules of a catalog in their order only, and works on open
modules only (`Session.run_opens_in_order`).

* A start asks whether the module is open, and a win is credited later, when the session may have
  been anywhere; that the fight is still one in an open module is `Session.Sound`.
* If the defeated bosses are those of the first modules, then one module more is open
  (`isUnlocked_of_take`), so the boss that is defeated next is that of an earlier module again or
  that of the one which opened last (`markBossDefeated_take`).
* Progress is written in the module of the sitting only (`keys_turn`).
-/

namespace MotionTutor

/-! ## 1. First modules -/

section Places

variable {α : Type} {l : List α} {a : α} {i k : Nat}

/-- Without repetitions, an element is found at its only place. -/
theorem idxOf?_eq_some_iff_of_nodup [BEq α] [LawfulBEq α] (h : l.Nodup) :
    l.idxOf? a = some i ↔ l[i]? = some a := by
  rw [List.idxOf?_eq_some_iff, List.getElem?_eq_some_iff]
  constructor
  · rintro ⟨hi, heq, -⟩
    exact ⟨hi, heq⟩
  · rintro ⟨hi, rfl⟩
    refine ⟨hi, rfl, fun j hj heq => ?_⟩
    have hplace : j = i := h.getElem_inj_iff.mp heq
    omega

/-- Without repetitions, an element is among the first ones if its place is. -/
theorem mem_take_iff_of_nodup (h : l.Nodup) (ha : l[i]? = some a) : a ∈ l.take k ↔ i < k := by
  obtain ⟨hi, rfl⟩ := List.getElem?_eq_some_iff.mp ha
  rw [List.mem_take_iff_getElem]
  constructor
  · rintro ⟨j, hj, heq⟩
    have hplace : j = i := h.getElem_inj_iff.mp heq
    omega
  · intro hlt
    exact ⟨i, by omega, rfl⟩

end Places

namespace Profile

variable {p q : Profile} {order : List String} {module : String} {k : Nat}

/-- With the bosses of the first modules defeated, one module more is open. -/
theorem isUnlocked_of_take (horder : order.Nodup) (h : p.bossesDefeated = order.take k) :
    p.isUnlocked order module = true ↔ module ∈ order.take (k + 1) := by
  rw [isUnlocked_iff, h]
  constructor
  · rintro ⟨i, hi, hbefore⟩
    rw [idxOf?_eq_some_iff_of_nodup horder] at hi
    rw [mem_take_iff_of_nodup horder hi]
    cases i with
    | zero => exact Nat.succ_pos k
    | succ j =>
      obtain ⟨b, hb, hj⟩ := hbefore j rfl
      exact Nat.succ_lt_succ ((mem_take_iff_of_nodup horder hj).mp hb)
  · intro hmem
    obtain ⟨i, hi⟩ := List.mem_iff_getElem?.mp (List.mem_of_mem_take hmem)
    rw [mem_take_iff_of_nodup horder hi] at hmem
    refine ⟨i, (idxOf?_eq_some_iff_of_nodup horder).mpr hi, ?_⟩
    rintro j rfl
    obtain ⟨hlt, -⟩ := List.getElem?_eq_some_iff.mp hi
    have hj : order[j]? = some order[j] := List.getElem?_eq_getElem (by omega)
    exact ⟨order[j], (mem_take_iff_of_nodup horder hj).mpr (by omega), hj⟩

/-- The boss of an open module is one of those defeated first, or the next one. -/
theorem markBossDefeated_take (horder : order.Nodup) (hk : k ≤ order.length)
    (h : p.bossesDefeated = order.take k) (hopen : p.isUnlocked order module = true) :
    ∃ k' ≤ order.length, (p.markBossDefeated module).bossesDefeated = order.take k' := by
  unfold markBossDefeated
  split
  · exact ⟨k, hk, h⟩
  · rename_i hnew
    have hnew : module ∉ order.take k := by
      rw [← h]
      exact fun hmem => hnew (List.contains_iff_mem.mpr hmem)
    have hmem := (isUnlocked_of_take horder h).mp hopen
    rw [List.take_add_one, List.mem_append, Option.mem_toList] at hmem
    have hnext : order[k]? = some module := hmem.resolve_left hnew
    obtain ⟨hlt, -⟩ := List.getElem?_eq_some_iff.mp hnext
    refine ⟨k + 1, hlt, ?_⟩
    rw [List.take_add_one, hnext, h]
    rfl

end Profile

/-! ## 2. Where progress is kept -/

namespace Session

variable {s t : Session} {d : Deed}

/-- Progress is kept for one module more at most, that of the sitting. -/
theorem keys_turn (ht : s.Turn d t) {module : String} (hmem : module ∈ t.profile.modules.keys) :
    module ∈ s.profile.modules.keys ∨ ∃ c ∈ t.sitting.activity.chapter?, module = c.id := by
  by_cases h : t.module? = some module
  · obtain ⟨c, hc, hid⟩ := Option.map_eq_some_iff.mp h
    exact Or.inr ⟨c, hc, hid.symm⟩
  · left
    have hsame : t.profile.modules.find? module = s.profile.modules.find? module :=
      progress?_turn ht h
    rw [SortedMap.mem_keys_iff] at hmem ⊢
    rw [← hsame]
    exact hmem

end Session

/-! ## 3. The invariant -/

/-- The bosses of the first modules are defeated, in their order, and progress is kept for open
modules. -/
structure Profile.InOrder (p : Profile) (order : List String) : Prop where
  defeated : ∃ k ≤ order.length, p.bossesDefeated = order.take k
  opened : ∀ module ∈ p.modules.keys, p.isUnlocked order module = true

theorem Profile.inOrder_fresh (order : List String) : fresh.InOrder order where
  defeated := ⟨0, Nat.zero_le _, rfl⟩
  opened _ h := absurd h List.not_mem_nil

namespace Session

variable {s t : Session} {d : Deed}

theorem defeated_turn (hs : s.Sound)
    (h : ∃ k ≤ s.catalog.order.length, s.profile.bossesDefeated = s.catalog.order.take k)
    (ht : s.Turn d t) :
    ∃ k ≤ s.catalog.order.length, t.profile.bossesDefeated = s.catalog.order.take k := by
  obtain ⟨k, hk, htake⟩ := h
  rcases bossesDefeated_turn ht with ⟨-, hsame⟩ | ⟨-, c, fight, ha, -, hmarked⟩
  · exact ⟨k, hk, hsame.trans htake⟩
  · rw [hmarked]
    have hopen := hs.isOpen c (chapter?_of_activity ha rfl)
    exact Profile.markBossDefeated_take s.catalog.coherent.nodup_modules hk htake hopen.unlocked

theorem inOrder_turn (hs : s.Sound) (h : s.profile.InOrder s.catalog.order) (ht : s.Turn d t) :
    t.profile.InOrder s.catalog.order where
  defeated := defeated_turn hs h.defeated ht
  opened module hmem := by
    rcases keys_turn ht hmem with hbefore | ⟨c, hc, rfl⟩
    · exact Profile.isUnlocked_mono (bossesDefeated_subset_turn ht) (h.opened module hbefore)
    · rw [← catalog_turn ht]
      exact ((sound_turn hs ht).isOpen c hc).unlocked

theorem inOrder_run (catalog : Catalog) (words : Words) (requests : List Request) :
    ((start catalog .fresh words).run requests).profile.InOrder catalog.order := by
  have hrun := run_invariant
    (P := fun t => t.catalog = catalog ∧ t.Sound ∧ t.profile.InOrder catalog.order)
    (s := start catalog .fresh words) ?_ ?_ requests
  · exact hrun.2.2
  · exact ⟨rfl, sound_of_idle rfl, Profile.inOrder_fresh _⟩
  · rintro s d t ht ⟨rfl, hsound, horder⟩
    exact ⟨catalog_turn ht, sound_turn hsound ht, inOrder_turn hsound horder ht⟩

/-- **Modules open in their order.** For a player who begins without results, the defeated bosses
are always those of the first modules, in their order, one module more is open, and progress is kept
for open modules only. -/
theorem run_opens_in_order (catalog : Catalog) (words : Words) (requests : List Request) :
    let p := ((start catalog .fresh words).run requests).profile
    ∃ k ≤ catalog.order.length,
      p.bossesDefeated = catalog.order.take k ∧ p.bossesDefeated.Nodup ∧
        (∀ module, p.isUnlocked catalog.order module = true ↔
          module ∈ catalog.order.take (k + 1)) ∧
        ∀ module ∈ p.modules.keys, module ∈ catalog.order.take (k + 1) := by
  intro p
  have horder : catalog.order.Nodup := catalog.coherent.nodup_modules
  have hp : p.InOrder catalog.order := inOrder_run catalog words requests
  obtain ⟨k, hk, htake⟩ := hp.defeated
  have hopen : ∀ module, p.isUnlocked catalog.order module = true ↔
      module ∈ catalog.order.take (k + 1) :=
    fun module => Profile.isUnlocked_of_take horder htake
  have hnodup : p.bossesDefeated.Nodup := by
    rw [htake]
    exact horder.sublist (List.take_sublist k _)
  refine ⟨k, hk, htake, hnodup, hopen, fun module hmem => ?_⟩
  exact (hopen module).mp (hp.opened module hmem)

end Session

end MotionTutor
