import MotionTutor.Proofs.Session.Scores

/-!
# Starts that are refused

A start of lessons, of practice or of a fight asks whether the module is there and open, ends the
sitting that goes on and begins a new one, which also shows in the profile. Done in place, step by
step on one session, a refusal takes back nothing of what was written before it (`InPlace`). It need
not: all that may be refused comes first, so in place a start does what it does at once
(`InPlace.perform_start`).

So a start that is refused changes nothing, and it is refused just when the module is not there, or
has no boss to fight, or is not open (`Session.start_all_or_nothing`).
-/

namespace MotionTutor

/-- What a sitting can be started as. -/
inductive StartKind
  | lesson
  | practice
  | boss
deriving DecidableEq, Repr

/-- The request for a start. -/
def StartKind.request (now : Instant) (module : String) : StartKind → Request
  | lesson => .startLesson now module
  | practice => .startPractice now module
  | boss => .startBoss now module

/-! ## 1. Work in place -/

/-- Work on a session that may be refused on the way. What was written by then stays written. -/
abbrev InPlace := ExceptT Refusal (StateM Session)

namespace InPlace

variable {α β : Type} {s t : Session} {refusal : Refusal}

/-- Asks the session for something. -/
def ask (question : Session → Except Refusal α) : InPlace α := ExceptT.mk fun s => (question s, s)

/-- Does some work, and replies whether it was done. -/
def perform (work : InPlace Unit) (s : Session) : Reply × Session :=
  match work.run s with
  | (.ok _, t) => (.done, t)
  | (.error refusal, t) => (.refused refusal, t)

theorem run_bind_of_ok {work : InPlace α} {a : α} (h : work.run s = (.ok a, t))
    (rest : α → InPlace β) : (work >>= rest).run s = (rest a).run t := by
  show ExceptT.bindCont rest (work.run s).1 (work.run s).2 = _
  rw [h]
  rfl

theorem run_bind_of_error {work : InPlace α} (h : work.run s = (.error refusal, t))
    (rest : α → InPlace β) : (work >>= rest).run s = (.error refusal, t) := by
  show ExceptT.bindCont rest (work.run s).1 (work.run s).2 = _
  rw [h]
  rfl

theorem run_ask {question : Session → Except Refusal α} {answer : Except Refusal α}
    (h : question s = answer) : (ask question).run s = (answer, s) :=
  Prod.ext h rfl

theorem run_modify (f : Session → Session) : (modify f : InPlace Unit).run s = (.ok (), f s) := rfl

/-! ## 2. Starts in place -/

def requireChapter (module : String) (s : Session) : Except Refusal Chapter :=
  match s.catalog.chapter? module with
  | some chapter => .ok chapter
  | none => .error (.unknownModule module)

def requireBoss (module : String) (s : Session) : Except Refusal Boss :=
  match s.catalog.boss? module with
  | some boss => .ok boss
  | none => .error (.noBoss module)

def requireOpen (module : String) (s : Session) : Except Refusal Unit :=
  if s.profile.isUnlocked s.catalog.order module then .ok () else .error (.locked module)

/-- Ends the sitting that goes on and begins another one in a module, if that is open. -/
def begin (now : Instant) (module : String) (activity : Chapter → Activity) : InPlace Chapter := do
  let chapter ← ask (requireChapter module)
  ask (requireOpen module)
  modify Session.reset
  modify (·.setActivity (activity chapter))
  modify fun s => { s with profile := { s.profile with lastPlayed := some now } }
  return chapter

/-- A start, step by step. -/
def start (now : Instant) (module : String) : StartKind → InPlace Unit
  | .lesson => do
    let chapter ← begin now module (.lesson · 0)
    modify (·.modifyProgress module fun p =>
      { p with lessonsTotal := chapter.lessons.length }.completeLessons p.lessonsCompleted)
  | .practice => do
    let _ ← begin now module (.practice · none false)
    modify (·.nextPractice.2)
  | .boss => do
    let boss ← ask (requireBoss module)
    let _ ← begin now module (.boss · (.start boss))
    modify (·.modifyProgress module fun p => { p with bossAttempts := p.bossAttempts + 1 })

variable {now : Instant} {module : String} {activity : Chapter → Activity} {c : Chapter}

theorem requireOpen_of_isUnlocked (h : s.profile.isUnlocked s.catalog.order module = true) :
    requireOpen module s = .ok () := if_pos h

/-- Nothing was written yet when a start turns out to be refused. -/
theorem run_begin_of_error (h : s.openChapter module = .error refusal) :
    (begin now module activity).run s = (.error refusal, s) := by
  unfold Session.openChapter at h
  split at h
  · rename_i hnone
    cases h
    have hchapter : requireChapter module s = .error (.unknownModule module) := by
      rw [requireChapter, hnone]
    exact run_bind_of_error (run_ask hchapter) _
  · rename_i c hsome
    have hchapter : requireChapter module s = .ok c := by rw [requireChapter, hsome]
    rw [begin, run_bind_of_ok (run_ask hchapter)]
    split at h
    · cases h
    · rename_i hlocked
      cases h
      exact run_bind_of_error (run_ask (if_neg hlocked)) _

/-- The sitting begins as it does at once. -/
theorem run_begin_of_ok (h : s.openChapter module = .ok c) :
    (begin now module activity).run s = (.ok c, s.begin now (activity c)) := by
  obtain ⟨rfl, hopen⟩ := Session.openChapter_eq_ok h
  have hchapter : requireChapter c.id s = .ok c := by rw [requireChapter, hopen.listed]
  rw [begin, run_bind_of_ok (run_ask hchapter),
    run_bind_of_ok (run_ask (requireOpen_of_isUnlocked hopen.unlocked))]
  rfl

/-- **A start in place does what a start does at once.** -/
theorem perform_start (now : Instant) (module : String) (kind : StartKind) (s : Session) :
    perform (start now module kind) s = s.serve (kind.request now module) := by
  unfold perform
  cases kind with
  | lesson =>
    dsimp only [start, StartKind.request, Session.serve, Session.startLesson]
    cases h : s.openChapter module with
    | error refusal =>
      rw [run_bind_of_error (run_begin_of_error h)]
      rfl
    | ok c =>
      rw [run_bind_of_ok (run_begin_of_ok h), run_modify]
      rfl
  | practice =>
    dsimp only [start, StartKind.request, Session.serve, Session.startPractice]
    cases h : s.openChapter module with
    | error refusal =>
      rw [run_bind_of_error (run_begin_of_error h)]
      rfl
    | ok c =>
      rw [run_bind_of_ok (run_begin_of_ok h), run_modify]
      rfl
  | boss =>
    dsimp only [start, StartKind.request, Session.serve, Session.startBoss]
    cases hboss : s.catalog.boss? module with
    | none =>
      have hrequire : requireBoss module s = .error (.noBoss module) := by rw [requireBoss, hboss]
      rw [run_bind_of_error (run_ask hrequire)]
      rfl
    | some boss =>
      have hrequire : requireBoss module s = .ok boss := by rw [requireBoss, hboss]
      rw [run_bind_of_ok (run_ask hrequire)]
      cases h : s.openChapter module with
      | error refusal =>
        rw [run_bind_of_error (run_begin_of_error h)]
        rfl
      | ok c =>
        rw [run_bind_of_ok (run_begin_of_ok h), run_modify]
        rfl

end InPlace

/-! ## 3. When a start is refused -/

/-- What a start is answered: `missing` if what it needs is not there, that the module is locked if
it is there and the module is not open, and otherwise it is done. -/
structure Session.AnswersStart (s : Session) (module : String) (there : Prop) (missing : Refusal)
    (reply : Reply) : Prop where
  missing : reply = .refused missing ↔ ¬ there
  locked : reply = .refused (.locked module) ↔
    there ∧ s.profile.isUnlocked s.catalog.order module = false
  done : reply = .done ↔ there ∧ s.profile.isUnlocked s.catalog.order module = true

namespace Session

variable {s : Session} {module : String} {there : Prop} {missing : Refusal} {reply : Reply}

theorem answersStart_of_missing (hne : missing ≠ .locked module) (hthere : ¬ there) :
    s.AnswersStart module there missing (.refused missing) where
  missing := iff_of_true rfl hthere
  locked := iff_of_false (fun h => hne (Reply.refused.inj h)) fun h => hthere h.1
  done := iff_of_false Reply.noConfusion fun h => hthere h.1

theorem answersStart_of_locked (hne : missing ≠ .locked module) (hthere : there)
    (hlocked : s.profile.isUnlocked s.catalog.order module = false) :
    s.AnswersStart module there missing (.refused (.locked module)) where
  missing := iff_of_false (fun h => hne (Reply.refused.inj h).symm) (not_not_intro hthere)
  locked := iff_of_true rfl ⟨hthere, hlocked⟩
  done := iff_of_false Reply.noConfusion fun h => Bool.false_ne_true (hlocked.symm.trans h.2)

theorem answersStart_of_open (hthere : there)
    (hopen : s.profile.isUnlocked s.catalog.order module = true) :
    s.AnswersStart module there missing .done where
  missing := iff_of_false Reply.noConfusion (not_not_intro hthere)
  locked := iff_of_false Reply.noConfusion fun h => Bool.false_ne_true (h.2.symm.trans hopen)
  done := iff_of_true rfl ⟨hthere, hopen⟩

theorem chapter?_isSome_iff {catalog : Catalog} :
    (catalog.chapter? module).isSome = true ↔ module ∈ catalog.order := by
  unfold Catalog.chapter? Catalog.order
  rw [List.find?_isSome, List.mem_map]
  simp only [decide_eq_true_eq]

/-- What opening a chapter can come to. -/
theorem openChapter_cases (s : Session) (module : String) :
    (module ∉ s.catalog.order ∧ s.openChapter module = .error (.unknownModule module)) ∨
      (module ∈ s.catalog.order ∧ s.profile.isUnlocked s.catalog.order module = false ∧
        s.openChapter module = .error (.locked module)) ∨
      ∃ c, module ∈ s.catalog.order ∧ s.profile.isUnlocked s.catalog.order module = true ∧
        s.openChapter module = .ok c := by
  unfold openChapter
  cases hchapter : s.catalog.chapter? module with
  | none =>
    refine .inl ⟨fun hmem => ?_, rfl⟩
    rw [← chapter?_isSome_iff, hchapter] at hmem
    cases hmem
  | some c =>
    have hmem : module ∈ s.catalog.order := chapter?_isSome_iff.mp (by rw [hchapter]; rfl)
    cases hopen : s.profile.isUnlocked s.catalog.order module with
    | false => exact .inr (.inl ⟨hmem, rfl, rfl⟩)
    | true => exact .inr (.inr ⟨c, hmem, rfl, rfl⟩)

/-- A start that opens the chapter of a module needs the module. -/
theorem answersStart_openChapter (s : Session) (module : String) (f : Chapter → Session) :
    s.AnswersStart module (module ∈ s.catalog.order) (.unknownModule module)
      (s.started ((s.openChapter module).map f)).1 := by
  rcases s.openChapter_cases module with ⟨hthere, h⟩ | ⟨hthere, hlocked, h⟩ | ⟨c, hthere, hopen, h⟩
  · rw [h]
    exact answersStart_of_missing Refusal.noConfusion hthere
  · rw [h]
    exact answersStart_of_locked Refusal.noConfusion hthere hlocked
  · rw [h]
    exact answersStart_of_open hthere hopen

/-- A fight needs a boss, which only a module of the catalog can have. -/
theorem answersStart_startBoss (s : Session) (now : Instant) (module : String) :
    s.AnswersStart module ((s.catalog.boss? module).isSome = true) (.noBoss module)
      (s.started (s.startBoss now module)).1 := by
  unfold startBoss
  cases hboss : s.catalog.boss? module with
  | none => exact answersStart_of_missing Refusal.noConfusion Bool.false_ne_true
  | some boss =>
    have hmem : module ∈ s.catalog.order := by
      obtain ⟨c, hc, -⟩ := Option.bind_eq_some_iff.mp hboss
      exact chapter?_isSome_iff.mp (by rw [hc]; rfl)
    rcases s.openChapter_cases module with ⟨hmissing, -⟩ | ⟨-, hlocked, h⟩ | ⟨c, -, hopen, h⟩
    · exact absurd hmem hmissing
    · rw [h]
      exact answersStart_of_locked Refusal.noConfusion rfl hlocked
    · rw [h]
      exact answersStart_of_open rfl hopen

/-- **A start does all or nothing.** In any session, lessons and practice are refused as unknown just
when the module is not in the catalog, a fight just when the catalog has no boss for it, and any of
the three as locked just when there is one but the module is not open; otherwise they are done. A
start that is refused leaves the whole session as it was, even if it is done in place, one write
after the other, and so whatever is asked later comes to what it would have come to. -/
theorem start_all_or_nothing (s : Session) (now : Instant) (module : String) :
    let after kind := InPlace.perform (InPlace.start now module kind) s
    (∀ kind, after kind = s.serve (kind.request now module)) ∧
      s.AnswersStart module (module ∈ s.catalog.order) (.unknownModule module) (after .lesson).1 ∧
      s.AnswersStart module (module ∈ s.catalog.order) (.unknownModule module)
        (after .practice).1 ∧
      s.AnswersStart module ((s.catalog.boss? module).isSome = true) (.noBoss module)
        (after .boss).1 ∧
      ∀ kind refusal, (after kind).1 = .refused refusal →
        (after kind).2 = s ∧
          ∀ later, s.run (kind.request now module :: later) = s.run later := by
  intro after
  have hserve : ∀ kind, after kind = s.serve (kind.request now module) :=
    fun kind => InPlace.perform_start now module kind s
  refine ⟨hserve, ?_, ?_, ?_, fun kind refusal hrefused => ?_⟩
  · rw [hserve]
    exact s.answersStart_openChapter module _
  · rw [hserve]
    exact s.answersStart_openChapter module _
  · rw [hserve]
    exact s.answersStart_startBoss now module
  · rw [hserve] at hrefused ⊢
    have hsame := serve_of_refused hrefused
    exact ⟨hsame, fun later => congrArg (fun t => run t later) hsame⟩

end Session

end MotionTutor
