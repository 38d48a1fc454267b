import MotionTutor.Proofs.Session.Turn

/-!
# What goes on in a session

Whatever a session is asked, in whatever order, what goes on in it is sound (`Session.sound_run`):
it takes place in an open module, at a lesson or a step that there is or behind the last one, and a
fight is not won without a life. That the fields of a session agree is another matter, since a
session keeps nothing twice; it is said of fields (`Fields.Standing`).

The parts of the invariant `Session.Sound` are the module, which stays open because bosses stay
defeated (`IsOpen.of_turn`), and what goes on there (`Activity.Sound`), which every turn keeps
(`activity_sound_turn`). A fight begins with a step to do and a life to lose because every boss of a
catalog has both; from then on a step is done, or a life lost, only while both are left.
-/

namespace MotionTutor

/-! ## 1. Fights -/

namespace Fight

/-- What a fight can come to: the boss gave at least one life, some steps are done and some lives
lost, and the last step is not done without a life. -/
structure Sound (f : Fight) : Prop where
  lives_pos : 0 < f.boss.lives
  step_le : f.step ≤ f.boss.steps.length
  lives_le : f.lives ≤ f.boss.lives
  step_lt : f.lives = 0 → f.step < f.boss.steps.length

variable {f : Fight}

theorem outcome_eq_inProgress (h : f.outcome = .inProgress) :
    f.step < f.boss.steps.length ∧ 0 < f.lives := by
  unfold outcome at h
  split at h
  · cases h
  · split at h
    · cases h
    · omega

/-- A fight with a boss that has a step and gives a life begins sound. -/
theorem sound_start {boss : Boss} (hsteps : boss.steps ≠ []) (hlives : 0 < boss.lives) :
    (start boss).Sound where
  lives_pos := hlives
  step_le := Nat.zero_le _
  lives_le := Nat.le_refl _
  step_lt _ := List.length_pos_iff.mpr hsteps

theorem Sound.lose (h : f.Sound) (hin : f.outcome = .inProgress) :
    Sound { f with lives := f.lives - 1 } where
  lives_pos := h.lives_pos
  step_le := h.step_le
  lives_le := Nat.le_trans (Nat.sub_le _ _) h.lives_le
  step_lt _ := (outcome_eq_inProgress hin).1

theorem Sound.next (h : f.Sound) (hin : f.outcome = .inProgress) :
    Sound { f with step := f.step + 1 } where
  lives_pos := h.lives_pos
  step_le := (outcome_eq_inProgress hin).1
  lives_le := h.lives_le
  step_lt hlives := absurd hlives (Nat.pos_iff_ne_zero.mp (outcome_eq_inProgress hin).2)

/-- A credit makes no difference to where a fight stands. -/
theorem Sound.credit (h : f.Sound) : Sound { f with credited := true } :=
  ⟨h.lives_pos, h.step_le, h.lives_le, h.step_lt⟩

/-- How a fight stands, with this exercise in front of the player, if it has this outcome. -/
def Stands (f : Fight) (current : Option Exercise) : Outcome → Prop
  | .inProgress =>
    1 ≤ f.lives ∧ f.lives ≤ f.boss.lives ∧
      ∃ step, f.boss.steps[f.step]? = some step ∧ current = some step.exercise
  | .playerDefeated => f.lives = 0 ∧ f.step < f.boss.steps.length
  | .victory =>
    f.step = f.boss.steps.length ∧ current = none ∧ 1 ≤ f.lives ∧ f.lives ≤ f.boss.lives
  | .complete => False

/-- A sound fight stands as its outcome says. -/
theorem Sound.stands (h : f.Sound) : f.Stands (f.currentStep.map (·.exercise)) f.outcome := by
  have hstep := h.step_le
  unfold outcome
  split
  · rename_i hdone
    have hlives : f.lives ≠ 0 := fun hzero => by
      have := h.step_lt hzero
      omega
    have hnone : f.currentStep = none := List.getElem?_eq_none hdone
    exact ⟨by omega, by rw [hnone]; rfl, Nat.pos_iff_ne_zero.mpr hlives, h.lives_le⟩
  · rename_i hleft
    have hlt : f.step < f.boss.steps.length := by omega
    split
    · rename_i hlives
      exact ⟨hlives, hlt⟩
    · rename_i hlives
      have hsome : f.currentStep = some f.boss.steps[f.step] := List.getElem?_eq_getElem hlt
      exact ⟨Nat.pos_iff_ne_zero.mpr hlives, h.lives_le, _, hsome, by rw [hsome]; rfl⟩

end Fight

/-! ## 2. What goes on -/

/-- What can go on in a sitting: lessons up to behind the last one, practice with an exercise unless
it is complete, a sound fight with the boss of the module. -/
def Activity.Sound : Activity → Prop
  | idle => True
  | lesson c index => index ≤ c.lessons.length
  | practice _ current complete => complete = false → current.isSome = true
  | boss c fight => c.boss = some fight.boss ∧ fight.Sound

namespace Session

variable {s t : Session} {d : Deed} {c : Chapter}

theorem activity_sound_of_eq {a : Activity} (h : s.sitting.activity.Sound)
    (ha : s.sitting.activity = a) : a.Sound :=
  ha ▸ h

/-- **What goes on stays sound.** -/
theorem activity_sound_turn (h : s.sitting.activity.Sound) (ht : s.Turn d t) :
    t.sitting.activity.Sound := by
  cases ht with
  | lessons now hopen => exact Nat.zero_le _
  | practice now hopen hcurrent words =>
    intro hcomplete
    rw [hcurrent, hcomplete]
    rfl
  | fight now hopen hboss =>
    obtain ⟨hsteps, hlives⟩ := Catalog.fightable_of_boss? (hopen.boss?_eq.trans hboss)
    exact ⟨hboss, Fight.sound_start hsteps hlives⟩
  | wrongFight ha hfight =>
    obtain ⟨hboss, hsound⟩ := activity_sound_of_eq h ha
    exact ⟨hboss, hsound.lose hfight⟩
  | nextLesson ha hlt => exact Nat.le_of_lt hlt
  | lastLesson ha hlast => exact Nat.le_of_eq hlast
  | nextStep ha hfight =>
    obtain ⟨hboss, hsound⟩ := activity_sound_of_eq h ha
    exact ⟨hboss, hsound.next hfight⟩
  | drawn ha e words => exact fun _ => rfl
  | exhausted ha words => exact fun hcomplete => absurd hcomplete Bool.true_eq_false.mp
  | chosen ha e => exact fun _ => rfl
  | won ha hfight hfirst =>
    obtain ⟨hboss, hsound⟩ := activity_sound_of_eq h ha
    exact ⟨hboss, hsound.credit⟩
  | ended => trivial
  | _ => exact h

end Session

/-! ## 3. Open modules -/

/-- A module is open if it is the first, or if the boss of the one before it was defeated. -/
theorem Profile.isUnlocked_iff {p : Profile} {order : List String} {module : String} :
    p.isUnlocked order module = true ↔
      ∃ i, order.idxOf? module = some i ∧
        ∀ j, i = j + 1 → ∃ b ∈ p.bossesDefeated, order[j]? = some b := by
  unfold isUnlocked
  cases order.idxOf? module with
  | none => simp
  | some i =>
    cases i with
    | zero => simp
    | succ j => simp [Option.any_eq_true, isBossDefeated, and_comm]

/-- Open modules stay open as long as defeated bosses stay defeated. -/
theorem Profile.isUnlocked_mono {p q : Profile} (h : p.bossesDefeated ⊆ q.bossesDefeated)
    {order : List String} {module : String} (hp : p.isUnlocked order module = true) :
    q.isUnlocked order module = true := by
  rw [isUnlocked_iff] at hp ⊢
  obtain ⟨i, hi, hbefore⟩ := hp
  refine ⟨i, hi, fun j hj => ?_⟩
  obtain ⟨b, hb, hlisted⟩ := hbefore j hj
  exact ⟨b, h hb, hlisted⟩

theorem Profile.modules_markBossDefeated (p : Profile) (module : String) :
    (p.markBossDefeated module).modules = p.modules := by
  unfold markBossDefeated
  split <;> rfl

theorem Profile.subset_markBossDefeated (p : Profile) (module : String) :
    p.bossesDefeated ⊆ (p.markBossDefeated module).bossesDefeated := by
  unfold markBossDefeated
  split
  · exact List.Subset.refl _
  · exact List.subset_append_left _ _

namespace Session

variable {s t : Session} {d : Deed} {c : Chapter}

theorem catalog_turn (ht : s.Turn d t) : t.catalog = s.catalog := by
  cases ht <;> rfl

/-- A boss counts as defeated when a won fight is credited, and only then. -/
theorem bossesDefeated_turn (ht : s.Turn d t) :
    d ≠ .won ∧ t.profile.bossesDefeated = s.profile.bossesDefeated ∨
      d = .won ∧ ∃ c fight, s.sitting.activity = .boss c fight ∧ fight.outcome = .victory ∧
        t.profile.bossesDefeated = (s.profile.markBossDefeated c.id).bossesDefeated := by
  cases ht with
  | won ha hfight hfirst => exact Or.inr ⟨rfl, _, _, ha, hfight, rfl⟩
  | _ => exact Or.inl ⟨Deed.noConfusion, rfl⟩

theorem bossesDefeated_subset_turn (ht : s.Turn d t) :
    s.profile.bossesDefeated ⊆ t.profile.bossesDefeated := by
  rcases bossesDefeated_turn ht with ⟨-, h⟩ | ⟨-, c, fight, -, -, h⟩
  · rw [h]
    exact List.Subset.refl _
  · rw [h]
    exact s.profile.subset_markBossDefeated c.id

theorem IsOpen.lessons_eq (h : s.IsOpen c) : s.catalog.lessons c.id = c.lessons := by
  rw [Catalog.lessons, h.listed]
  rfl

/-- An open chapter stays open. -/
theorem IsOpen.of_turn (h : s.IsOpen c) (ht : s.Turn d t) : t.IsOpen c where
  listed := by
    rw [catalog_turn ht]
    exact h.listed
  unlocked := by
    rw [catalog_turn ht]
    exact Profile.isUnlocked_mono (bossesDefeated_subset_turn ht) h.unlocked

theorem chapter?_of_activity {a : Activity} (ha : s.sitting.activity = a) (hc : c ∈ a.chapter?) :
    c ∈ s.sitting.activity.chapter? := by
  rw [ha]
  exact hc

/-- A sitting stays in its chapter, or the next one takes place in an open chapter. -/
theorem chapter?_turn (ht : s.Turn d t) :
    ∀ c ∈ t.sitting.activity.chapter?, c ∈ s.sitting.activity.chapter? ∨ s.IsOpen c := by
  intro c hc
  cases ht with
  | lessons now hopen => exact Or.inr (Option.some.inj hc ▸ hopen)
  | practice now hopen hcurrent words => exact Or.inr (Option.some.inj hc ▸ hopen)
  | fight now hopen hboss => exact Or.inr (Option.some.inj hc ▸ hopen)
  | wrongFight ha hfight => exact Or.inl (chapter?_of_activity ha hc)
  | nextLesson ha hlt => exact Or.inl (chapter?_of_activity ha hc)
  | lastLesson ha hlast => exact Or.inl (chapter?_of_activity ha hc)
  | nextStep ha hfight => exact Or.inl (chapter?_of_activity ha hc)
  | drawn ha e words => exact Or.inl (chapter?_of_activity ha hc)
  | exhausted ha words => exact Or.inl (chapter?_of_activity ha hc)
  | chosen ha e => exact Or.inl (chapter?_of_activity ha hc)
  | won ha hfight hfirst => exact Or.inl (chapter?_of_activity ha hc)
  | ended => cases hc
  | _ => exact Or.inl hc

/-! ## 4. The invariant -/

/-- What every turn keeps: the chapter of the sitting is open, and what goes on there is sound. -/
structure Sound (s : Session) : Prop where
  isOpen : ∀ c ∈ s.sitting.activity.chapter?, s.IsOpen c
  activity : s.sitting.activity.Sound

theorem sound_of_idle (h : s.sitting.activity = .idle) : s.Sound where
  isOpen c hc := by
    rw [h] at hc
    cases hc
  activity := by
    rw [h]
    trivial

theorem sound_turn (h : s.Sound) (ht : s.Turn d t) : t.Sound where
  isOpen c hc := by
    have hopen : s.IsOpen c := (chapter?_turn ht c hc).elim (h.isOpen c) id
    exact hopen.of_turn ht
  activity := activity_sound_turn h.activity ht

/-! ## 5. Where a session stands -/

theorem outcome_of_activity {a : Activity} (h : s.sitting.activity = a) :
    s.outcome = a.outcome := by
  rw [outcome, h]

/-- The lessons of the sitting are those of the catalog. -/
theorem Sound.lessons_eq (h : s.Sound) {a : Activity} (ha : s.sitting.activity = a)
    (hc : c ∈ a.chapter?) : s.catalog.lessons c.id = c.lessons :=
  (h.isOpen c (chapter?_of_activity ha hc)).lessons_eq

/-- Lessons stand at one that is left, or behind the last one. -/
theorem Sound.standing_lesson (h : s.Sound) {index : Nat}
    (ha : s.sitting.activity = .lesson c index) :
    (s.outcome = .inProgress ∧ ∃ e, (s.catalog.lessons c.id)[index]? = some e ∧
        s.current = some e) ∨
      (s.outcome = .complete ∧ index = (s.catalog.lessons c.id).length ∧ s.current = none) := by
  have hle : index ≤ c.lessons.length := activity_sound_of_eq h.activity ha
  have hlessons : s.catalog.lessons c.id = c.lessons := h.lessons_eq ha rfl
  rw [outcome_of_activity ha, current_of_activity ha, hlessons]
  unfold Activity.outcome
  dsimp only [Activity.current]
  split
  · rename_i hlt
    have hsome : c.lessons[index]? = some c.lessons[index] := List.getElem?_eq_getElem hlt
    exact Or.inl ⟨rfl, _, hsome, hsome⟩
  · rename_i hge
    exact Or.inr ⟨rfl, by omega, List.getElem?_eq_none (by omega)⟩

/-- Practice goes on with an exercise or is complete. -/
theorem Sound.standing_practice (h : s.Sound) {current : Option Exercise} {complete : Bool}
    (ha : s.sitting.activity = .practice c current complete) :
    (s.outcome = .inProgress ∧ s.current.isSome = true) ∨ s.outcome = .complete := by
  rw [outcome_of_activity ha, current_of_activity ha]
  have hsome : complete = false → current.isSome = true := activity_sound_of_eq h.activity ha
  cases complete with
  | false => exact Or.inl ⟨rfl, hsome rfl⟩
  | true => exact Or.inr rfl

/-- A fight is one with the boss of the module and stands as its outcome says. -/
theorem Sound.standing_boss (h : s.Sound) {fight : Fight}
    (ha : s.sitting.activity = .boss c fight) :
    s.catalog.boss? c.id = some fight.boss ∧ fight.Stands s.current s.outcome := by
  obtain ⟨hboss, hsound⟩ := activity_sound_of_eq h.activity ha
  have hopen : s.IsOpen c := h.isOpen c (chapter?_of_activity ha rfl)
  rw [outcome_of_activity ha, current_of_activity ha, hopen.boss?_eq]
  exact ⟨hboss, hsound.stands⟩

/-- **Requests keep the catalog and leave the session sound**, whatever they are. -/
theorem sound_run (catalog : Catalog) (profile : Profile) (words : Words)
    (requests : List Request) :
    ((start catalog profile words).run requests).catalog = catalog ∧
      ((start catalog profile words).run requests).Sound := by
  refine run_invariant (P := fun t => t.catalog = catalog ∧ t.Sound) ?_ ?_ requests
  · exact ⟨rfl, sound_of_idle rfl⟩
  · rintro s d t ht ⟨rfl, hsound⟩
    exact ⟨catalog_turn ht, sound_turn hsound ht⟩

end Session

end MotionTutor
