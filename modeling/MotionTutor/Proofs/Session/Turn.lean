import MotionTutor.Session

/-!
# What a request does to a session

Everything that a session can be asked is a `Request`, and `Session.serve` serves it. This file says
once and for all what a request can come to, so that whatever holds of sessions is proved rule by
rule:

* `Deed` is what a request came to, judged by the reply and by whether the sitting was in progress;
* `Note` is what a session writes into the progress in a module; it writes nothing else;
* `Session.Turn` lists the rules, each with what must hold before and the session after it. **Every
  request takes one of these turns** (`Session.turn_serve`);
* a run serves requests one after the other, and `Session.events` remembers them, the latest first;
  what holds at the start and is kept by every turn holds after any run (`Session.run_induction`,
  and `Session.run_invariant` where what happened before does not matter). What a request did
  exactly is lost in its turn; where that matters, the run is followed request by request
  (`Session.run_induction_serve`).
-/

namespace MotionTutor

/-! ## 1. Requests and replies -/

/-- What a session can be asked. -/
inductive Request
  | startLesson (now : Instant) (module : String)
  | startPractice (now : Instant) (module : String)
  | startBoss (now : Instant) (module : String)
  | submit (now : Instant) (answer : String) (elapsed : Float)
  | recordCorrect (now : Instant) (elapsed : Float) (optimal : Bool)
  | recordIncorrect (now : Instant)
  | advance
  | nextPractice
  | setPractice (e : Exercise)
  | recordVictory
  | addElapsed (time : Duration)
  | setWeights (weights : Weights)
  | reset

inductive Reply
  | done
  | refused (refusal : Refusal)
  | judged (verdict : Verdict) (points : Nat)
  | brought (points : Nat)
  | told (yes : Bool)
deriving DecidableEq, Repr

namespace Session

variable (s : Session)

/-- A session that was to be started, or the one before if that was refused. -/
def started : Except Refusal Session → Reply × Session
  | .ok t => (.done, t)
  | .error refusal => (.refused refusal, s)

/-- Serves a request. -/
def serve : Request → Reply × Session
  | .startLesson now module => s.started (s.startLesson now module)
  | .startPractice now module => s.started (s.startPractice now module)
  | .startBoss now module => s.started (s.startBoss now module)
  | .submit now answer elapsed =>
    let ((verdict, points), t) := s.submit now answer elapsed
    (.judged verdict points, t)
  | .recordCorrect now elapsed optimal =>
    let (points, t) := s.recordCorrect now elapsed optimal
    (.brought points, t)
  | .recordIncorrect now => (.done, s.recordIncorrect now)
  | .advance => (.told s.advance.1, s.advance.2)
  | .nextPractice => (.told s.nextPractice.1, s.nextPractice.2)
  | .setPractice e => (.done, s.setPractice e)
  | .recordVictory => (.told s.recordVictory.1, s.recordVictory.2)
  | .addElapsed time => (.done, s.addElapsed time)
  | .setWeights weights => (.done, s.setWeights weights)
  | .reset => (.done, s.reset)

end Session

/-- What a request came to. -/
inductive Deed
  /-- A sitting of lessons or practice began. -/
  | began
  /-- A fight with the boss of a module began. -/
  | challenged (module : String)
  /-- A right answer counted and brought points. -/
  | right (points : Nat)
  /-- A wrong answer counted. -/
  | wrong
  /-- A won fight was credited. -/
  | won
  /-- Time was added. -/
  | spent (time : Duration)
  /-- The sitting was ended. -/
  | ended
  /-- None of these: other exercises or weights were taken, or nothing changed. -/
  | other
deriving DecidableEq, Repr

/-- What a request with this reply came to. An answer counts only while the sitting is in
progress. -/
def Request.deed (inProgress : Bool) : Request → Reply → Deed
  | .startLesson _ _, .done | .startPractice _ _, .done => .began
  | .startBoss _ module, .done => .challenged module
  | .submit _ _ _, .judged verdict points =>
    if inProgress then if verdict.correct then .right points else .wrong else .other
  | .recordCorrect _ _ _, .brought points => if inProgress then .right points else .other
  | .recordIncorrect _, _ => if inProgress then .wrong else .other
  | .recordVictory, .told true => .won
  | .addElapsed time, _ => .spent time
  | .reset, _ => .ended
  | _, _ => .other

/-- What a request comes to. -/
def Session.deed (s : Session) (r : Request) : Deed :=
  r.deed s.sitting.isInProgress (s.serve r).1

/-! ## 2. Notes -/

/-- What is written into the progress in a module. -/
inductive Note
  | lessonsBegun (total : Nat)
  | lessonDone (index : Nat)
  | lessonsDone
  | practised (id : String) (correct : Bool) (now : Instant)
  | challenged
  | won (elapsed : Duration) (lives : Nat)
deriving DecidableEq, Repr

def Note.write : Note → Progress → Progress
  | lessonsBegun total, p => { p with lessonsTotal := total }.completeLessons p.lessonsCompleted
  | lessonDone index, p =>
    if p.lessonsCompleted < index + 1 then p.completeLessons (index + 1) else p
  | lessonsDone, p => p.completeLessons p.lessonsTotal
  | practised id correct now, p => p.recordPractice id correct now
  | challenged, p => { p with bossAttempts := p.bossAttempts + 1 }
  | won elapsed lives, p => p.recordBossWin elapsed lives

namespace Session

variable (s : Session)

/-- Writes a note into the progress in the module of a chapter. -/
def noted (c : Chapter) (note : Note) : Session := s.modifyProgress c.id note.write

/-! ## 3. Turns -/

/-- A right answer makes the streak longer and brings points. -/
def rewarded (points : Nat) : Session := (s.setStreak (s.sitting.streak + 1)).addScore points

/-- A wrong answer ends streak and combo. -/
def failed : Session := (s.setStreak 0).setCombo 1

/-- A chapter of the catalog whose module is open. -/
structure IsOpen (c : Chapter) : Prop where
  listed : s.catalog.chapter? c.id = some c
  unlocked : s.profile.isUnlocked s.catalog.order c.id = true

/-- The turns that a session can take: what a request comes to, what must hold before, and the
session after it. -/
inductive Turn (s : Session) : Deed → Session → Prop
  | stay : Turn s .other s
  | lessons (now : Instant) {c : Chapter} (hopen : s.IsOpen c) :
    Turn s .began ((s.begin now (.lesson c 0)).noted c (.lessonsBegun c.lessons.length))
  | practice (now : Instant) {c : Chapter} (hopen : s.IsOpen c) {current : Option Exercise}
    {complete : Bool} (hcurrent : current.isSome = !complete) (words : Words) :
    Turn s .began { s.begin now (.practice c current complete) with words }
  | fight (now : Instant) {c : Chapter} (hopen : s.IsOpen c) {boss : Boss}
    (hboss : c.boss = some boss) :
    Turn s (.challenged c.id) ((s.begin now (.boss c (.start boss))).noted c .challenged)
  | rightNowhere (hin : s.sitting.isInProgress = true) (h : s.current = none) (points : Nat) :
    Turn s (.right points) (s.rewarded points)
  | rightLesson {c : Chapter} {index : Nat} (h : s.sitting.activity = .lesson c index)
    (hlt : index < c.lessons.length) (points : Nat) :
    Turn s (.right points) ((s.rewarded points).noted c (.lessonDone index))
  | rightPractice {c : Chapter} {e : Exercise}
    (h : s.sitting.activity = .practice c (some e) false) (now : Instant) (points : Nat) :
    Turn s (.right points) ((s.rewarded points).noted c (.practised e.id true now))
  | rightFight {c : Chapter} {fight : Fight} (h : s.sitting.activity = .boss c fight)
    (hfight : fight.outcome = .inProgress) (points : Nat) :
    Turn s (.right points) ((s.rewarded points).setCombo (min maxCombo (s.sitting.combo + 1)))
  | wrongNowhere (hin : s.sitting.isInProgress = true) (h : s.current = none) :
    Turn s .wrong s.failed
  | wrongLesson {c : Chapter} {index : Nat} (h : s.sitting.activity = .lesson c index)
    (hlt : index < c.lessons.length) : Turn s .wrong s.failed
  | wrongPractice {c : Chapter} {e : Exercise}
    (h : s.sitting.activity = .practice c (some e) false) (now : Instant) :
    Turn s .wrong (s.failed.noted c (.practised e.id false now))
  | wrongFight {c : Chapter} {fight : Fight} (h : s.sitting.activity = .boss c fight)
    (hfight : fight.outcome = .inProgress) :
    Turn s .wrong (s.failed.setActivity (.boss c { fight with lives := fight.lives - 1 }))
  | nextLesson {c : Chapter} {index : Nat} (h : s.sitting.activity = .lesson c index)
    (hlt : index + 1 < c.lessons.length) :
    Turn s .other (s.setActivity (.lesson c (index + 1)))
  | lastLesson {c : Chapter} {index : Nat} (h : s.sitting.activity = .lesson c index)
    (hlast : index + 1 = c.lessons.length) :
    Turn s .other ((s.setActivity (.lesson c (index + 1))).noted c .lessonsDone)
  | nextStep {c : Chapter} {fight : Fight} (h : s.sitting.activity = .boss c fight)
    (hfight : fight.outcome = .inProgress) :
    Turn s .other (s.setActivity (.boss c { fight with step := fight.step + 1 }))
  | drawn {c : Chapter} {current : Option Exercise} {complete : Bool}
    (h : s.sitting.activity = .practice c current complete) (e : Exercise) (words : Words) :
    Turn s .other ({ s with words }.setActivity (.practice c (some e) complete))
  | exhausted {c : Chapter} {current : Option Exercise} {complete : Bool}
    (h : s.sitting.activity = .practice c current complete) (words : Words) :
    Turn s .other ({ s with words }.setActivity (.practice c none true))
  | chosen {c : Chapter} {current : Option Exercise} {complete : Bool}
    (h : s.sitting.activity = .practice c current complete) (e : Exercise) :
    Turn s .other (s.setActivity (.practice c (some e) false))
  | won {c : Chapter} {fight : Fight} (h : s.sitting.activity = .boss c fight)
    (hfight : fight.outcome = .victory) (hfirst : fight.credited = false) :
    Turn s .won
      (({ s with
          sitting := { s.sitting with activity := .boss c { fight with credited := true } }
          profile := s.profile.markBossDefeated c.id }.noted c
        (.won s.sitting.elapsed fight.lives)).addScore victoryBonus)
  | spent (time : Duration) : Turn s (.spent time) (s.addElapsed time)
  | reweighed (weights : Weights) : Turn s .other (s.setWeights weights)
  | ended : Turn s .ended s.reset

variable {s}

/-! ## 4. Every request takes a turn -/

/-- A chapter that may be started is one of the module asked for, in the catalog and open. -/
theorem openChapter_eq_ok {module : String} {c : Chapter} (h : s.openChapter module = .ok c) :
    c.id = module ∧ s.IsOpen c := by
  unfold openChapter at h
  split at h
  · cases h
  · rename_i found hfound
    split at h
    · rename_i hunlocked
      cases h
      have hid : c.id = module := by simpa using List.find?_some hfound
      subst hid
      exact ⟨rfl, hfound, hunlocked⟩
    · cases h

/-- Lessons that were started are those of an open chapter, from the first one. -/
theorem startLesson_eq_ok {now : Instant} {module : String} {t : Session}
    (h : s.startLesson now module = .ok t) :
    ∃ c, c.id = module ∧ s.IsOpen c ∧
      t = (s.begin now (.lesson c 0)).noted c (.lessonsBegun c.lessons.length) := by
  unfold startLesson at h
  cases hc : s.openChapter module <;> rw [hc] at h <;> cases h
  obtain ⟨rfl, hopen⟩ := openChapter_eq_ok hc
  exact ⟨_, rfl, hopen, rfl⟩

/-- Practice that was started begins with a draw. -/
theorem startPractice_eq_ok {now : Instant} {module : String} {t : Session}
    (h : s.startPractice now module = .ok t) :
    ∃ c, c.id = module ∧ s.IsOpen c ∧
      t = (s.begin now (.practice c none false)).nextPractice.2 := by
  unfold startPractice at h
  cases hc : s.openChapter module <;> rw [hc] at h <;> cases h
  obtain ⟨rfl, hopen⟩ := openChapter_eq_ok hc
  exact ⟨_, rfl, hopen, rfl⟩

theorem IsOpen.boss?_eq {c : Chapter} (h : s.IsOpen c) : s.catalog.boss? c.id = c.boss := by
  rw [Catalog.boss?, h.listed]
  rfl

/-- A fight that was started is one with the boss of an open chapter. -/
theorem startBoss_eq_ok {now : Instant} {module : String} {t : Session}
    (h : s.startBoss now module = .ok t) :
    ∃ c boss, c.id = module ∧ s.IsOpen c ∧ c.boss = some boss ∧
      t = (s.begin now (.boss c (.start boss))).noted c .challenged := by
  unfold startBoss at h
  cases hboss : s.catalog.boss? module <;> rw [hboss] at h
  · cases h
  · cases hc : s.openChapter module <;> rw [hc] at h <;> cases h
    obtain ⟨rfl, hopen⟩ := openChapter_eq_ok hc
    exact ⟨_, _, rfl, hopen, hopen.boss?_eq.symm.trans hboss, rfl⟩

/-- A request takes a turn if its reply and the session after it belong to one. -/
theorem turn_of_serve {r : Request} {reply : Reply} {t : Session} (h : s.serve r = (reply, t))
    (ht : s.Turn (r.deed s.sitting.isInProgress reply) t) : s.Turn (s.deed r) (s.serve r).2 := by
  rw [deed, h]
  exact ht

/-- A start takes a turn if it does when it is not refused. -/
theorem turn_started {r : Request} {start : Except Refusal Session}
    (hserve : s.serve r = s.started start)
    (hrefused : ∀ inProgress refusal, r.deed inProgress (.refused refusal) = .other)
    (hdone : ∀ t, start = .ok t → s.Turn (r.deed s.sitting.isInProgress .done) t) :
    s.Turn (s.deed r) (s.serve r).2 := by
  cases start with
  | error refusal =>
    refine turn_of_serve hserve ?_
    rw [hrefused]
    exact .stay
  | ok t => exact turn_of_serve hserve (hdone t rfl)

theorem turn_startLesson (now : Instant) (module : String) :
    s.Turn (s.deed (.startLesson now module)) (s.serve (.startLesson now module)).2 := by
  refine turn_started rfl (fun _ _ => rfl) fun t h => ?_
  obtain ⟨c, rfl, hopen, rfl⟩ := startLesson_eq_ok h
  exact .lessons now hopen

section Draws

variable {c : Chapter} {current : Option Exercise} {complete : Bool}

/-- An exercise that is drawn is put in front of the player. -/
theorem nextPractice_of_some (h : s.sitting.activity = .practice c current complete)
    {e : Exercise} {words : Words}
    (hdrawn : Practice.select s.weights (s.profile.progress c.id) c.lessons s.words =
      (some e, words)) :
    s.nextPractice = (true, { s with words }.setActivity (.practice c (some e) complete)) := by
  unfold nextPractice
  rw [h]
  dsimp only
  rw [hdrawn]

/-- Practice is complete when nothing is drawn. -/
theorem nextPractice_of_none (h : s.sitting.activity = .practice c current complete)
    {words : Words}
    (hdrawn : Practice.select s.weights (s.profile.progress c.id) c.lessons s.words =
      (none, words)) :
    s.nextPractice = (false, { s with words }.setActivity (.practice c none true)) := by
  unfold nextPractice
  rw [h]
  dsimp only
  rw [hdrawn]

/-- What a draw in practice comes to: an exercise, or practice is complete. -/
theorem nextPractice_of_practice (h : s.sitting.activity = .practice c current complete) :
    ∃ words,
      (∃ e, s.nextPractice =
        (true, { s with words }.setActivity (.practice c (some e) complete))) ∨
      s.nextPractice = (false, { s with words }.setActivity (.practice c none true)) := by
  cases hdrawn : Practice.select s.weights (s.profile.progress c.id) c.lessons s.words with
  | mk drawn words =>
    refine ⟨words, ?_⟩
    cases drawn with
    | some e => exact Or.inl ⟨e, nextPractice_of_some h hdrawn⟩
    | none => exact Or.inr (nextPractice_of_none h hdrawn)

end Draws

theorem turn_startPractice (now : Instant) (module : String) :
    s.Turn (s.deed (.startPractice now module)) (s.serve (.startPractice now module)).2 := by
  refine turn_started rfl (fun _ _ => rfl) fun t h => ?_
  obtain ⟨c, rfl, hopen, rfl⟩ := startPractice_eq_ok h
  obtain ⟨words, ⟨e, hdrawn⟩ | hdrawn⟩ :=
    nextPractice_of_practice (s := s.begin now (.practice c none false)) rfl
  · have hcurrent : (some e).isSome = !false := rfl
    rw [hdrawn]
    exact .practice now hopen hcurrent words
  · have hcurrent : (none : Option Exercise).isSome = !true := rfl
    rw [hdrawn]
    exact .practice now hopen hcurrent words

theorem turn_startBoss (now : Instant) (module : String) :
    s.Turn (s.deed (.startBoss now module)) (s.serve (.startBoss now module)).2 := by
  refine turn_started rfl (fun _ _ => rfl) fun t h => ?_
  obtain ⟨c, boss, rfl, hopen, hboss, rfl⟩ := startBoss_eq_ok h
  exact .fight now hopen hboss

theorem current_of_activity {a : Activity} (h : s.sitting.activity = a) :
    s.current = a.current := by
  rw [current, h]

/-- In lessons, exercises are left while the sitting is in progress. -/
theorem lt_of_isInProgress {c : Chapter} {index : Nat} (h : s.sitting.activity = .lesson c index)
    (hin : s.sitting.isInProgress = true) : index < c.lessons.length := by
  unfold Sitting.isInProgress at hin
  rw [h, Activity.outcome] at hin
  split at hin
  · assumption
  · cases hin

theorem practice_of_isInProgress {c : Chapter} {current : Option Exercise} {complete : Bool}
    (h : s.sitting.activity = .practice c current complete)
    (hin : s.sitting.isInProgress = true) : complete = false := by
  unfold Sitting.isInProgress at hin
  rw [h] at hin
  cases complete with
  | false => rfl
  | true => cases hin

theorem fight_of_isInProgress {c : Chapter} {fight : Fight}
    (h : s.sitting.activity = .boss c fight) (hin : s.sitting.isInProgress = true) :
    fight.outcome = .inProgress := by
  unfold Sitting.isInProgress at hin
  rw [h] at hin
  exact of_decide_eq_true hin

/-- A right answer counts while the sitting is in progress. -/
theorem turn_recordCorrect (hin : s.sitting.isInProgress = true) (now : Instant) (elapsed : Float)
    (optimal : Bool) :
    s.Turn (.right (s.recordCorrect now elapsed optimal).1)
      (s.recordCorrect now elapsed optimal).2 := by
  unfold recordCorrect
  rw [if_pos hin]
  dsimp only
  cases h : s.sitting.activity with
  | idle => exact .rightNowhere hin (current_of_activity h) _
  | lesson c index => exact .rightLesson h (lt_of_isInProgress h hin) _
  | practice c current complete =>
    cases practice_of_isInProgress h hin
    cases current with
    | some e => exact .rightPractice h now _
    | none => exact .rightNowhere hin (current_of_activity h) _
  | boss c fight => exact .rightFight h (fight_of_isInProgress h hin) _

/-- So does a wrong one. -/
theorem turn_recordIncorrect (hin : s.sitting.isInProgress = true) (now : Instant) :
    s.Turn .wrong (s.recordIncorrect now) := by
  unfold recordIncorrect
  rw [if_pos hin]
  dsimp only
  cases h : s.sitting.activity with
  | idle => exact .wrongNowhere hin (current_of_activity h)
  | lesson c index => exact .wrongLesson h (lt_of_isInProgress h hin)
  | practice c current complete =>
    cases practice_of_isInProgress h hin
    cases current with
    | some e => exact .wrongPractice h now
    | none => exact .wrongNowhere hin (current_of_activity h)
  | boss c fight => exact .wrongFight h (fight_of_isInProgress h hin)

theorem recordCorrect_of_not (hin : ¬ s.sitting.isInProgress = true) (now : Instant)
    (elapsed : Float) (optimal : Bool) : s.recordCorrect now elapsed optimal = (0, s) := by
  rw [recordCorrect, if_neg hin]

theorem recordIncorrect_of_not (hin : ¬ s.sitting.isInProgress = true) (now : Instant) :
    s.recordIncorrect now = s := by
  rw [recordIncorrect, if_neg hin]

theorem turn_submit (now : Instant) (answer : String) (elapsed : Float) :
    s.Turn (s.deed (.submit now answer elapsed)) (s.serve (.submit now answer elapsed)).2 := by
  cases hcorrect : (s.judge answer).correct with
  | true =>
    have hserve : s.serve (.submit now answer elapsed) =
        (.judged (s.judge answer) (s.recordCorrect now elapsed (s.judge answer).optimal).1,
          (s.recordCorrect now elapsed (s.judge answer).optimal).2) := by
      rw [serve, submit]
      dsimp only
      rw [if_pos hcorrect]
    refine turn_of_serve hserve ?_
    rw [Request.deed, if_pos hcorrect]
    by_cases hin : s.sitting.isInProgress = true
    · rw [if_pos hin]
      exact turn_recordCorrect hin now elapsed _
    · rw [if_neg hin, recordCorrect_of_not hin]
      exact .stay
  | false =>
    have hserve : s.serve (.submit now answer elapsed) =
        (.judged (s.judge answer) 0, s.recordIncorrect now) := by
      rw [serve, submit]
      dsimp only
      rw [hcorrect]
      rfl
    refine turn_of_serve hserve ?_
    rw [Request.deed, hcorrect]
    by_cases hin : s.sitting.isInProgress = true
    · rw [if_pos hin]
      exact turn_recordIncorrect hin now
    · rw [if_neg hin, recordIncorrect_of_not hin]
      exact .stay

theorem turn_nextPractice : s.Turn .other s.nextPractice.2 := by
  cases h : s.sitting.activity with
  | practice c current complete =>
    obtain ⟨words, ⟨e, hdrawn⟩ | hdrawn⟩ := nextPractice_of_practice h
    · rw [hdrawn]
      exact .drawn h e words
    · rw [hdrawn]
      exact .exhausted h words
  | _ =>
    rw [nextPractice, h]
    exact .stay

theorem turn_advance : s.Turn .other s.advance.2 := by
  unfold advance
  split
  · rename_i hin
    cases h : s.sitting.activity with
    | idle => exact .stay
    | practice c current complete => exact turn_nextPractice
    | lesson c index =>
      have hlt := lt_of_isInProgress h hin
      dsimp only
      split
      · rename_i hnext
        exact .nextLesson h hnext
      · rename_i hlast
        exact .lastLesson h (by omega)
    | boss c fight => exact .nextStep h (fight_of_isInProgress h hin)
  · exact .stay

theorem turn_setPractice (e : Exercise) : s.Turn .other (s.setPractice e) := by
  unfold setPractice
  split
  · rename_i h
    exact .chosen h e
  · exact .stay

theorem turn_recordVictory : s.Turn (s.deed .recordVictory) (s.serve .recordVictory).2 := by
  have hserve : s.serve .recordVictory = (.told s.recordVictory.1, s.recordVictory.2) := rfl
  refine turn_of_serve hserve ?_
  unfold recordVictory
  split
  · rename_i c fight h
    split
    · rename_i hwon
      obtain ⟨hvictory, hfirst⟩ := Bool.and_eq_true_iff.mp hwon
      exact .won h (of_decide_eq_true hvictory) (by simpa using hfirst)
    · exact .stay
  · exact .stay

/-- **Every request takes a turn.** -/
theorem turn_serve (s : Session) (r : Request) : s.Turn (s.deed r) (s.serve r).2 := by
  cases r with
  | startLesson now module => exact turn_startLesson now module
  | startPractice now module => exact turn_startPractice now module
  | startBoss now module => exact turn_startBoss now module
  | submit now answer elapsed => exact turn_submit now answer elapsed
  | recordCorrect now elapsed optimal =>
    have hserve : s.serve (.recordCorrect now elapsed optimal) =
        (.brought (s.recordCorrect now elapsed optimal).1,
          (s.recordCorrect now elapsed optimal).2) := rfl
    refine turn_of_serve hserve ?_
    by_cases hin : s.sitting.isInProgress = true
    · rw [Request.deed, if_pos hin]
      exact turn_recordCorrect hin now elapsed optimal
    · rw [Request.deed, if_neg hin, recordCorrect_of_not hin]
      exact .stay
  | recordIncorrect now =>
    have hserve : s.serve (.recordIncorrect now) = (.done, s.recordIncorrect now) := rfl
    refine turn_of_serve hserve ?_
    by_cases hin : s.sitting.isInProgress = true
    · rw [Request.deed, if_pos hin]
      exact turn_recordIncorrect hin now
    · rw [Request.deed, if_neg hin, recordIncorrect_of_not hin]
      exact .stay
  | advance => exact turn_advance
  | nextPractice => exact turn_nextPractice
  | setPractice e => exact turn_setPractice e
  | recordVictory => exact turn_recordVictory
  | addElapsed time => exact .spent time
  | setWeights weights => exact .reweighed weights
  | reset => exact .ended

end Session

/-! ## 5. Runs -/

/-- A request, with the session that it was put to. -/
structure Event where
  session : Session
  request : Request

def Event.deed (e : Event) : Deed := e.session.deed e.request

/-- Events up to now among which none breaks off belong to those since the last one that does. -/
theorem Event.prefix_takeWhile {breaks : Event → Bool} {past span : List Event}
    (h : span <+: past) (hspan : ∀ e ∈ span, breaks e = false) :
    span <+: past.takeWhile fun e => !breaks e := by
  obtain ⟨earlier, rfl⟩ := h
  rw [List.takeWhile_append_of_pos fun e he => by rw [hspan e he]; rfl]
  exact List.prefix_append span _

namespace Session

/-- The session after some requests. -/
def run (s : Session) (requests : List Request) : Session :=
  requests.foldl (fun t r => (t.serve r).2) s

/-- What happened while some requests were served, the latest first. -/
def events (s : Session) : List Request → List Event
  | [] => []
  | r :: requests => events (s.serve r).2 requests ++ [⟨s, r⟩]

theorem run_append (s : Session) (requests later : List Request) :
    s.run (requests ++ later) = (s.run requests).run later :=
  List.foldl_append

theorem events_append (s : Session) (requests later : List Request) :
    s.events (requests ++ later) = (s.run requests).events later ++ s.events requests := by
  induction requests generalizing s with
  | nil => exact (List.append_nil _).symm
  | cons r requests ih =>
    rw [List.cons_append, events, ih, events, List.append_assoc]
    rfl

/-- **What holds at the start, and is kept by every request that is served, holds after any
requests.** -/
@[elab_as_elim]
theorem run_induction_serve {motive : Session → List Event → Prop} {s : Session}
    (start : motive s [])
    (serve : ∀ e past, motive e.session past → motive (e.session.serve e.request).2 (e :: past))
    (requests : List Request) : motive (s.run requests) (s.events requests) := by
  -- the session moves with every request, so what happened before must be arbitrary
  have hrun : ∀ past, motive s past → motive (s.run requests) (s.events requests ++ past) := by
    clear start
    induction requests generalizing s with
    | nil => exact fun past h => h
    | cons r requests ih =>
      intro past h
      rw [events, List.append_assoc]
      exact ih (s := (s.serve r).2) (⟨s, r⟩ :: past) (serve ⟨s, r⟩ past h)
  simpa using hrun [] start

/-- **What holds at the start, and is kept by every turn, holds after any requests.** -/
@[elab_as_elim]
theorem run_induction {motive : Session → List Event → Prop} {s : Session} (start : motive s [])
    (turn : ∀ e past t, e.session.Turn e.deed t → motive e.session past → motive t (e :: past))
    (requests : List Request) : motive (s.run requests) (s.events requests) :=
  run_induction_serve start
    (fun e past h => turn e past _ (turn_serve e.session e.request) h) requests

/-- What holds at the start, and is kept by every turn whatever happened before. -/
theorem run_invariant {P : Session → Prop} {s : Session} (start : P s)
    (turn : ∀ s d t, s.Turn d t → P s → P t) (requests : List Request) : P (s.run requests) :=
  run_induction (motive := fun t _ => P t) start (fun _ _ _ ht h => turn _ _ _ ht h) requests

end Session

end MotionTutor
