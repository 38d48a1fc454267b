import MotionTutor.Proofs.Session.Victory
import MotionTutor.Proofs.Stats.Practice

/-!
# What practice leaves behind

An answer counts in practice if it is recorded while practice is in progress. A turn counts it once,
and where it belongs (`Session.countsPractice_turn`), so the books of practice are in order after
whatever was asked (`Session.run_balanced_practice`). Numbers have no limit here; what counters of
fixed width make of an answer is said of fields (`Fields.run_counts_answers`).

* A sitting remembers its module and its exercise, and every answer goes through these. What a turn
  does to the books of a module is one record of the exercise in front of the player if an answer
  counts there (`progress_turn_of_answer`), and nothing otherwise (`samePractice_turn`).
* That there is an exercise to record is `Session.Sound`: practice in progress has one.
-/

namespace MotionTutor

/-! ## 1. Answers in practice -/

/-- The module that is practised, while practice is in progress. -/
def Activity.practising? : Activity → Option String
  | practice c _ false => some c.id
  | _ => none

/-- The request records an answer while the module is practised. -/
def Session.practises (s : Session) (module : String) (r : Request) : Bool :=
  s.sitting.activity.practising? = some module && (s.verdict? r).isSome

/-- What a request does to practice in a module, if it leads to the session `t`. -/
structure Session.CountsPractice (s : Session) (r : Request) (t : Session) (module : String) :
    Prop where
  /-- Progress changes in the module of the sitting only, which is the one that went on before, or
  one that was just started. -/
  elsewhere : t.profile.progress? module ≠ s.profile.progress? module →
    t.module? = some module ∧ (s.module? = some module ∨ (s.deed r).opens = true)
  /-- An answer counts once, for the exercise in front of the player. -/
  counted : ∀ correct, s.sitting.activity.practising? = some module →
    s.verdict? r = some correct →
      ∃ e, s.current = some e ∧
        (s.profile.progress module).CountsAnswer e.id correct (t.profile.progress module)
  /-- Nothing else counts. -/
  quiet : s.practises module r = false →
    (s.profile.progress module).SamePractice (t.profile.progress module)

namespace Session

variable {s t : Session} {d : Deed} {c : Chapter} {module : String}

theorem practising?_of_activity {a : Activity} (ha : s.sitting.activity = a) :
    s.sitting.activity.practising? = a.practising? := by
  rw [ha]

/-- What is practised is in progress. -/
theorem isInProgress_of_practising?
    (h : s.sitting.activity.practising? = some module) : s.sitting.isInProgress = true := by
  unfold Sitting.isInProgress
  cases ha : s.sitting.activity with
  | practice c current complete =>
    rw [ha] at h
    cases complete with
    | false => rfl
    | true => cases h
  | _ =>
    rw [ha] at h
    cases h

/-- In practice, the answer that a request records counts. -/
theorem answer?_deed_of_practising? (h : s.sitting.activity.practising? = some module)
    (r : Request) : (s.deed r).answer? = s.verdict? r := by
  rw [answer?_deed, if_pos (isInProgress_of_practising? h)]

end Session

/-! ## 2. What a turn does to the books -/

/-- The note is about practice. -/
def Note.ofPractice : Note → Bool
  | practised _ _ _ => true
  | _ => false

/-- Any other note leaves the books of practice. -/
theorem Note.samePractice_write {note : Note} (h : note.ofPractice = false) (p : Progress) :
    p.SamePractice (note.write p) := by
  cases note with
  | practised id correct now => cases h
  | lessonDone index =>
    dsimp only [write]
    split
    · exact ⟨rfl, rfl, rfl, rfl, rfl⟩
    · exact p.samePractice_refl
  | _ => exact ⟨rfl, rfl, rfl, rfl, rfl⟩

namespace Session

variable {s t : Session} {d : Deed} {c : Chapter} {module : String}

theorem samePractice_noted {note : Note} (h : note.ofPractice = false) :
    (s.profile.progress module).SamePractice ((s.noted c note).profile.progress module) := by
  rw [progress_noted]
  split
  · exact Note.samePractice_write h _
  · exact Progress.samePractice_refl _

/-- A record in the module that is practised is none in a module where no answer counts. -/
theorem samePractice_noted_of_answer {note : Note} {correct : Bool}
    (h : s.sitting.activity.practising? = some module → some correct = none)
    (hc : s.sitting.activity.practising? = some c.id) :
    (s.profile.progress module).SamePractice ((s.noted c note).profile.progress module) := by
  have hne : module ≠ c.id := by
    rintro rfl
    cases h hc
  rw [progress_noted, if_neg hne]
  exact Progress.samePractice_refl _

/-- **A turn leaves the books of a module where no answer counts.** -/
theorem samePractice_turn (ht : s.Turn d t)
    (h : s.sitting.activity.practising? = some module → d.answer? = none) :
    (s.profile.progress module).SamePractice (t.profile.progress module) := by
  cases ht with
  | lessons now hopen => exact samePractice_noted rfl
  | fight now hopen hboss => exact samePractice_noted rfl
  | rightLesson ha hlt points => exact samePractice_noted rfl
  | rightPractice ha now points =>
    exact samePractice_noted_of_answer h (practising?_of_activity ha)
  | wrongPractice ha now => exact samePractice_noted_of_answer h (practising?_of_activity ha)
  | lastLesson ha hlast => exact samePractice_noted rfl
  | @won c fight ha hfight hfirst =>
    rw [progress_addScore, progress_noted, s.profile.progress_markBossDefeated]
    split
    · exact Note.samePractice_write rfl _
    · exact Progress.samePractice_refl _
  | _ => exact Progress.samePractice_refl _

/-- An answer in practice in progress is one record of the exercise. -/
theorem recordPractice_turn {e : Exercise} (ha : s.sitting.activity = .practice c (some e) false)
    (ht : s.Turn d t) {correct : Bool} (hd : d.answer? = some correct) :
    ∃ now, t.profile.progress c.id =
      (s.profile.progress c.id).recordPractice e.id correct now := by
  cases ht with
  | rightPractice ha' now points =>
    cases ha.symm.trans ha'
    cases hd
    exact ⟨now, progress_noted_self⟩
  | wrongPractice ha' now =>
    cases ha.symm.trans ha'
    cases hd
    exact ⟨now, progress_noted_self⟩
  -- there is an exercise to answer, and no answer is one in lessons or in a fight
  | rightNowhere hin h points => cases (current_of_activity ha).symm.trans h
  | wrongNowhere hin h => cases (current_of_activity ha).symm.trans h
  | rightLesson ha' hlt points => cases ha.symm.trans ha'
  | rightFight ha' hfight points => cases ha.symm.trans ha'
  | wrongLesson ha' hlt => cases ha.symm.trans ha'
  | wrongFight ha' hfight => cases ha.symm.trans ha'
  | _ => cases hd

/-- Practice in progress has an exercise. -/
theorem activity_of_practising? (hs : s.Sound)
    (h : s.sitting.activity.practising? = some module) :
    ∃ c e, s.sitting.activity = .practice c (some e) false ∧ c.id = module := by
  cases ha : s.sitting.activity with
  | practice c current complete =>
    have hsome : complete = false → current.isSome = true := activity_sound_of_eq hs.activity ha
    rw [ha] at h
    cases complete with
    | true => cases h
    | false =>
      obtain ⟨e, rfl⟩ := Option.isSome_iff_exists.mp (hsome rfl)
      exact ⟨c, e, rfl, Option.some.inj h⟩
  | _ =>
    rw [ha] at h
    cases h

/-- **An answer that counts is one record of the exercise in front of the player.** -/
theorem progress_turn_of_answer (hs : s.Sound) (ht : s.Turn d t) {correct : Bool}
    (h : s.sitting.activity.practising? = some module) (hd : d.answer? = some correct) :
    ∃ e now, s.current = some e ∧
      t.profile.progress module = (s.profile.progress module).recordPractice e.id correct now := by
  obtain ⟨c, e, ha, rfl⟩ := activity_of_practising? hs h
  obtain ⟨now, hrecord⟩ := recordPractice_turn ha ht hd
  exact ⟨e, now, current_of_activity ha, hrecord⟩

/-- A sitting stays in its module until another one begins. -/
theorem module?_turn (ht : s.Turn d t) (hd : d.opens = false) : t.module? = s.module? := by
  cases ht with
  | lessons now hopen => cases hd
  | practice now hopen hcurrent words => cases hd
  | fight now hopen hboss => cases hd
  | ended => cases hd
  | wrongFight ha hfight => exact (module?_of_activity ha).symm
  | nextLesson ha hlt => exact (module?_of_activity ha).symm
  | lastLesson ha hlast => exact (module?_of_activity ha).symm
  | nextStep ha hfight => exact (module?_of_activity ha).symm
  | drawn ha e words => exact (module?_of_activity ha).symm
  | exhausted ha words => exact (module?_of_activity ha).symm
  | chosen ha e => exact (module?_of_activity ha).symm
  | won ha hfight hfirst => exact (module?_of_activity ha).symm
  | _ => rfl

/-! ## 3. Every answer counts once -/

theorem countsPractice_turn {r : Request} (hs : s.Sound) (ht : s.Turn (s.deed r) t)
    (module : String) : s.CountsPractice r t module where
  elsewhere hchanged := by
    have hmodule : t.module? = some module :=
      Classical.byContradiction fun hne => hchanged (progress?_turn ht hne)
    refine ⟨hmodule, ?_⟩
    cases hopens : (s.deed r).opens with
    | true => exact Or.inr rfl
    | false =>
      left
      rw [← module?_turn ht hopens]
      exact hmodule
  counted correct hpractising hverdict := by
    have hd : (s.deed r).answer? = some correct := by
      rw [answer?_deed_of_practising? hpractising]
      exact hverdict
    obtain ⟨e, now, hcurrent, hrecord⟩ := progress_turn_of_answer hs ht hpractising hd
    refine ⟨e, hcurrent, ?_⟩
    rw [hrecord]
    exact Progress.counts_recordPractice _ e.id correct now
  quiet hquiet := by
    refine samePractice_turn ht fun hpractising => ?_
    rw [answer?_deed_of_practising? hpractising]
    unfold practises at hquiet
    rw [decide_eq_true hpractising, Bool.true_and] at hquiet
    exact Option.not_isSome_iff_eq_none.mp (Bool.eq_false_iff.mp hquiet)

/-- One attempt more for an answer in practice, and none for anything else. -/
theorem CountsPractice.attempts {r : Request} (h : s.CountsPractice r t module) :
    (t.profile.progress module).attempts =
      (s.profile.progress module).attempts + if s.practises module r then 1 else 0 := by
  split
  · rename_i hpractises
    obtain ⟨hpractising, hverdict⟩ := Bool.and_eq_true_iff.mp hpractises
    obtain ⟨correct, hverdict⟩ := Option.isSome_iff_exists.mp hverdict
    obtain ⟨e, -, hanswer⟩ := h.counted correct (of_decide_eq_true hpractising) hverdict
    exact hanswer.attempts
  · rename_i hquiet
    exact (h.quiet (Bool.eq_false_iff.mpr hquiet)).attempts

/-! ## 4. The books stay balanced -/

/-- Turns keep the books of all modules balanced. -/
theorem balanced_turn (hs : s.Sound) (ht : s.Turn d t)
    (h : ∀ module, (s.profile.progress module).Balanced) (module : String) :
    (t.profile.progress module).Balanced := by
  by_cases hpractising : s.sitting.activity.practising? = some module
  · cases hd : d.answer? with
    | some correct =>
      obtain ⟨e, now, -, hrecord⟩ := progress_turn_of_answer hs ht hpractising hd
      rw [hrecord]
      exact (h module).recordPractice e.id correct now
    | none => exact (h module).of_samePractice (samePractice_turn ht fun _ => hd)
  · exact (h module).of_samePractice (samePractice_turn ht fun heq => absurd heq hpractising)

theorem balanced_run (catalog : Catalog) (words : Words) (requests : List Request)
    (module : String) :
    (((start catalog .fresh words).run requests).profile.progress module).Balanced := by
  have hrun := run_invariant
    (P := fun t => t.Sound ∧ ∀ module, (t.profile.progress module).Balanced)
    (s := start catalog .fresh words) ?_ ?_ requests
  · exact hrun.2 module
  · exact ⟨sound_of_idle rfl, fun _ => Progress.balanced_fresh⟩
  · rintro s d t ht ⟨hsound, hbalanced⟩
    exact ⟨sound_turn hsound ht, balanced_turn hsound ht hbalanced⟩

/-- **The books of practice are always in order**: after any answers and resets, and so in every
module of a player who began without results, whatever the session was asked. The counters are the
sums over the histories, each history adds up, the accuracy is the share of right answers, and the
weakest exercises are the three that were missed most often, equals by increasing id. -/
theorem run_balanced_practice :
    (∀ steps, (Progress.fresh.practiseAll steps).Balanced) ∧
      ∀ catalog words requests module,
        (((start catalog .fresh words).run requests).profile.progress module).Balanced := by
  constructor
  · intro steps
    exact Progress.balanced_practiseAll Progress.balanced_fresh steps
  · intro catalog words requests module
    exact balanced_run catalog words requests module

end Session

end MotionTutor
