import MotionTutor.Cli.Run
import MotionTutor.Proofs.Catalog.Reopening
import MotionTutor.Proofs.Stats.Answers
import MotionTutor.Proofs.Stats.Untimed

/-!
# Recording on a disk is recording in memory

Every run of the program that records an answer reads the catalog and the saved profile, changes the
profile and saves it. After any such runs, starting without a saved profile, what is saved is what
the answers come to when they are recorded one after the other in memory
(`Cli.records_in_memory`), but for times and accuracies.

* `Catalog.moduleOf?` is the module whose lessons have an id; the program finds the same module
  (`Catalog.exercise?_lesson`, `Catalog.exercise?_no_lesson`).
* `Cli.Runs` are runs of the program one after the other, each with its own arguments, surroundings
  and settings.
* `Cli.Holds` is what every run keeps: nothing has happened yet to the disk, or a profile is saved
  that is the one in memory, but for times and accuracies (`Cli.holds_runs`).
-/

namespace MotionTutor

/-! ## 1. Lessons by their ids -/

namespace Catalog

variable {c : Catalog} {id module : String}

/-- The module that has a lesson of this id. -/
def moduleOf? (c : Catalog) (id : String) : Option String :=
  c.order.find? fun module => (c.lessons module).any (·.id = id)

/-- A lesson is found under its id, and says which module it is of. -/
theorem exercise?_lesson (h : c.moduleOf? id = some module) :
    ∃ e, c.exercise? id = some e ∧ e.kind = .lesson ∧ e.id = id ∧ e.moduleId = module := by
  have hany := List.find?_some h
  obtain ⟨e, he, hid⟩ := List.any_eq_true.1 hany
  obtain ⟨hoffers, hmodule, hkind⟩ := placed_of_mem_lessons he
  have hid : e.id = id := of_decide_eq_true hid
  exact ⟨e, exercise?_eq_some_iff.2 ⟨hid, hoffers⟩, hkind, hid, hmodule⟩

/-- A step of a boss is no lesson. -/
theorem kind_of_mem_boss {b : Boss} {step : BossStep} (hb : b ∈ c.boss? module)
    (hstep : step ∈ b.steps) : c.Offers step.exercise ∧ step.exercise.kind = .boss := by
  cases hchapter : c.chapter? module with
  | none =>
    rw [boss?, hchapter] at hb
    cases hb
  | some chapter =>
    obtain ⟨hmem, rfl⟩ := mem_of_chapter? hchapter
    refine ⟨⟨chapter.id, List.mem_map_of_mem hmem, .inr ⟨b, hb, step, hstep, rfl⟩⟩, ?_⟩
    rw [boss?_of_mem hmem] at hb
    obtain ⟨content, hassembled⟩ := c.coherent.assembled chapter hmem
    rw [hassembled] at hb
    obtain ⟨b', -, rfl⟩ := Option.map_eq_some_iff.1 hb
    obtain ⟨step', -, rfl⟩ := List.mem_map.1 hstep
    rfl

/-- The id is of no exercise, or of a step of a boss. -/
def Rejects (c : Catalog) (id : String) : Prop :=
  (∀ e, c.Offers e → e.id ≠ id) ∨
    ∃ module, ∃ b ∈ c.boss? module, ∃ step ∈ b.steps, step.exercise.id = id

/-- What is found under an id that is of no lesson. -/
theorem exercise?_no_lesson (h : c.moduleOf? id = none) :
    c.exercise? id = none ∨ ∃ e, c.exercise? id = some e ∧ e.kind ≠ .lesson := by
  cases hfound : c.exercise? id with
  | none => exact .inl rfl
  | some e =>
    refine .inr ⟨e, rfl, fun hkind => ?_⟩
    obtain ⟨hid, module, hmodule, hlesson | ⟨b, hb, step, hstep, rfl⟩⟩ :=
      exercise?_eq_some_iff.1 hfound
    · have hnone := List.find?_eq_none.1 h module hmodule
      exact hnone (List.any_eq_true.2 ⟨e, hlesson, decide_eq_true hid⟩)
    · cases hkind.symm.trans (kind_of_mem_boss hb hstep).2

theorem moduleOf?_of_rejects (h : c.Rejects id) : c.moduleOf? id = none := by
  cases hmodule : c.moduleOf? id with
  | none => rfl
  | some module =>
    obtain ⟨e, hfound, hkind, hid, -⟩ := exercise?_lesson hmodule
    obtain ⟨-, hoffers⟩ := exercise?_eq_some_iff.1 hfound
    rcases h with hunknown | ⟨_, b, hb, step, hstep, hstepid⟩
    · exact absurd hid (hunknown e hoffers)
    · obtain ⟨hstepoffers, hboss⟩ := kind_of_mem_boss hb hstep
      have hsame := exercise?_eq_some_iff.2 ⟨hstepid, hstepoffers⟩
      cases hfound.symm.trans hsame
      cases hkind.symm.trans hboss

end Catalog

/-! ## 2. In memory -/

namespace Catalog

variable (c : Catalog)

/-- Records an answer, if it is to a lesson. -/
def recordAnswer (p : Profile) (a : Answer) : Profile :=
  match c.moduleOf? a.id with
  | some module => p.recordAnswer module a.id a.correct a.time
  | none => p

/-- The profile that answers come to, recorded one after the other in memory. -/
def recordAll (answers : List Answer) : Profile := answers.foldl c.recordAnswer .fresh

/-- Whether one of the answers is to a lesson. -/
def hasLesson (answers : List Answer) : Bool := answers.any fun a => (c.moduleOf? a.id).isSome

theorem recordAll_concat (answers : List Answer) (a : Answer) :
    c.recordAll (answers ++ [a]) = c.recordAnswer (c.recordAll answers) a := List.foldl_concat ..

theorem hasLesson_concat (answers : List Answer) (a : Answer) :
    c.hasLesson (answers ++ [a]) = (c.hasLesson answers || (c.moduleOf? a.id).isSome) := by
  rw [hasLesson, hasLesson, List.any_append, List.any_cons, List.any_nil, Bool.or_false]

end Catalog

/-! ## 3. Runs -/

namespace Cli

open MotionTutor.Action (outcome)

variable {s : Store} {directory : Option String} {c : Catalog} {d d' : Disk} {a : Answer}
  {around : Surroundings} {arguments : List String} {answers : List Answer} {q q' : List String}

/-- The settings of a run: those that the arguments give, then those saved on the disk. -/
def effective (given : Settings) (around : Surroundings) (d : Disk) : Settings :=
  given.orElse ((Settings.load around.environment.settingsPath : StateM Disk Settings).run d).1

/-- A run of the program on this disk is to record this answer in the store, with the catalog of
this directory, at a time within the years 0 to 9999. -/
structure Asks (s : Store) (directory : Option String) (around : Surroundings)
    (arguments : List String) (d : Disk) (a : Answer) : Prop where
  invocation : ∃ given, Invocation.read arguments = .ok ⟨given, .record a.id a.correct⟩ ∧
    around.environment.statsDirectory (effective given around d).statsDirectory = s.directory ∧
    (effective given around d).catalogDirectory = directory
  proper : around.now.Proper
  hasText : around.now.HasText

/-- Runs of the program one after the other, each to record an answer. -/
inductive Runs (s : Store) (directory : Option String) (d : Disk) : List Answer → Disk → Prop
  | start : Runs s directory d [] d
  | record {answers : List Answer} {d' : Disk} {around : Surroundings} {arguments : List String}
    {a : Answer} (h : Runs s directory d answers d')
    (hasks : Asks s directory around arguments d' a) :
    Runs s directory d (answers ++ [a]) ((run around arguments : StateM Disk Exit).run d').2

/-- Reading the settings changes nothing. -/
theorem settings_load_run (path : String) (d : Disk) :
    ((Settings.load path : StateM Disk Settings).run d).2 = d := by
  have hread : ((FileSystem.readText path : Action Disk String).run).run d = (d.read path, d) :=
    Disk.outcome_readText d path
  rw [Settings.load, StateT.run_bind, hread]
  cases d.read path <;> rfl

theorem open?_run_state (directory : Option String) (d : Disk) :
    ((Catalog.open? directory : StateM Disk (Except CatalogError Catalog)).run d).2 = d := by
  cases directory with
  | none => rfl
  | some directory => rw [Catalog.open?_run]

/-- A run records on the catalog that it opens. -/
theorem run_eq (hasks : Asks s directory around arguments d a)
    (hopen : ((Catalog.open? directory : StateM Disk (Except CatalogError Catalog)).run d).1 =
      .ok c) :
    (run around arguments : StateM Disk Exit).run d =
      (.ofResult ((runRecord c s around.now a.id a.correct : StateM Disk TaskResult).run d).1,
        ((runRecord c s around.now a.id a.correct : StateM Disk TaskResult).run d).2) := by
  obtain ⟨⟨given, hread, hstore, hdirectory⟩, -, -⟩ := hasks
  have hsettings := settings_load_run around.environment.settingsPath d
  have hstate := open?_run_state directory d
  have hcatalog : (withCatalog (effective given around d)
      (fun c => runRecord c s around.now a.id a.correct) : StateM Disk TaskResult).run d =
        (runRecord c s around.now a.id a.correct : StateM Disk TaskResult).run d := by
    rw [withCatalog, hdirectory, StateT.run_bind]
    generalize (Catalog.open? directory : StateM Disk (Except CatalogError Catalog)).run d = opened
      at hopen hstate
    obtain ⟨result, state⟩ := opened
    cases hopen
    cases hstate
    rfl
  have htask : (runTask around (effective given around d) (.record a.id a.correct) :
      StateM Disk TaskResult).run d =
        (runRecord c s around.now a.id a.correct : StateM Disk TaskResult).run d := by
    rw [← hcatalog]
    show (withCatalog _ (fun c => runRecord c ⟨around.environment.statsDirectory _⟩ _ _ _) :
      StateM Disk TaskResult).run d = _
    rw [hstore]
  have hload : (Settings.load around.environment.settingsPath : StateM Disk Settings).run d =
      (((Settings.load around.environment.settingsPath : StateM Disk Settings).run d).1, d) :=
    Prod.ext rfl hsettings
  rw [run, hread]
  dsimp only
  rw [StateT.run_bind, hload]
  show StateT.run (runTask around (effective given around d) (.record a.id a.correct) >>=
    fun result => pure (Exit.ofResult result)) d = _
  rw [StateT.run_bind, htask]
  rfl

/-- What a run saves for an answer to a lesson of a module. -/
def answered (p : Profile) (module : String) (a : Answer) (now : Instant) : Profile :=
  { p.recordAnswer module a.id a.correct now with lastPlayed := some now }

/-- An answer to a lesson is recorded in what was saved before. -/
theorem runRecord_lesson {module : String} {loaded : Option Profile} {now : Instant}
    (hlesson : c.moduleOf? a.id = some module)
    (hload : (s.load : StateM Disk (Option Profile)).run d = (loaded, d))
    (hsave : outcome (s.save (answered (loaded.getD .fresh) module a now)) d = (.ok (), d')) :
    (runRecord c s now a.id a.correct : StateM Disk TaskResult).run d =
      (.ok (recordReport a.id a.correct ((((answered (loaded.getD .fresh) module a now).progress
        module).history? a.id).getD .fresh)), d') := by
  obtain ⟨id, correct, time⟩ := a
  obtain ⟨e, hfound, hkind, rfl, rfl⟩ := Catalog.exercise?_lesson hlesson
  have hprofile : (loadProfile s : StateM Disk Profile).run d = (loaded.getD .fresh, d) := by
    rw [loadProfile, StateT.run_bind, hload]
    rfl
  have hthen (f : Except FileFault Unit → StateM Disk TaskResult) :
      StateT.run ((s.save (answered (loaded.getD .fresh) e.moduleId ⟨e.id, correct, time⟩ now) :
        Action Disk Unit).run >>= f) d = (f (.ok ())).run d' := by
    have hsave : ((s.save (answered (loaded.getD .fresh) e.moduleId ⟨e.id, correct, time⟩ now) :
        Action Disk Unit).run).run d = (.ok (), d') := hsave
    rw [StateT.run_bind, hsave]
    rfl
  unfold runRecord
  rw [hfound]
  dsimp only
  rw [if_neg (not_not_intro hkind), StateT.run_bind, hprofile]
  exact (hthen _).trans rfl

/-- An answer to anything else is refused. -/
theorem runRecord_no_lesson {now : Instant} (hlesson : c.moduleOf? a.id = none) :
    ∃ error, (runRecord c s now a.id a.correct : StateM Disk TaskResult).run d =
      (.error error, d) := by
  unfold runRecord
  rcases Catalog.exercise?_no_lesson hlesson with hnone | ⟨e, hfound, hkind⟩
  · rw [hnone]
    exact ⟨_, rfl⟩
  · rw [hfound]
    dsimp only
    rw [if_pos hkind]
    exact ⟨_, rfl⟩

/-! ## 4. What a run keeps -/

/-- A profile can be saved on the disk, and nothing stands yet where it will be. -/
def Awaits (s : Store) (d : Disk) : Prop :=
  ∃ d₁ q, outcome (s.save .fresh) d = (.ok (), d₁) ∧ d₁.locate s.path = .ok q ∧ d.node? q = none

/-- What a disk is like before anything was saved on it. -/
structure Prepared (s : Store) (q q' : List String) (d d₁ : Disk) : Prop where
  made : outcome (FileSystem.createParent s.path : Action Disk Unit) d = (.ok (), d₁)
  grows : d.Grows [q, q'] d₁
  ready : d₁.Ready s q q'
  free : d.node? q = none

theorem Awaits.prepared (h : Awaits s d) : ∃ d₁ q q', Prepared s q q' d d₁ := by
  obtain ⟨d₂, q, hsave, hpath, hfree⟩ := h
  obtain ⟨d₁, q₁, q', hmade, hgrows, hready⟩ := Disk.ready_of_save hsave
  obtain ⟨d₃, hsave', -, hready', -⟩ := Disk.save_of_ready hmade hready .fresh
  cases hsave.symm.trans hsave'
  cases hpath.symm.trans hready'.path
  exact ⟨d₁, q, q', hmade, hgrows.mono (List.nil_subset _), hready, hfree⟩

/-- What is on a disk after some answers were recorded, which was `d` before: still the same, if
none was to a lesson; else a profile that is the one in memory but for times and accuracies. -/
inductive Holds (c : Catalog) (s : Store) (q q' : List String) (d : Disk) (answers : List Answer) :
    Disk → Prop
  | untouched (h : c.hasLesson answers = false) : Holds c s q q' d answers d
  | saved {d' : Disk} {p : Profile} (hlesson : c.hasLesson answers = true)
    (hgrows : d.Grows [q, q'] d') (hready : d'.Ready s q q')
    (hnode : d'.node? q = some (.file p.render)) (honly : p.OnlyPractice) (hsavable : p.Savable)
    (huntimed : p.untimed = (c.recordAll answers).untimed) : Holds c s q q' d answers d'

theorem recordAll_of_no_lesson (h : c.hasLesson answers = false) :
    c.recordAll answers = .fresh := by
  unfold Catalog.recordAll
  induction answers with
  | nil => rfl
  | cons a answers ih =>
    rw [Catalog.hasLesson, List.any_cons, Bool.or_eq_false_iff] at h
    have hstep : c.recordAnswer .fresh a = .fresh := by
      rw [Catalog.recordAnswer, Option.isSome_eq_false_iff.1 h.1 |> Option.isNone_iff_eq_none.1]
    rw [List.foldl_cons, hstep]
    exact ih h.2

/-- What is loaded is the profile in memory but for times and accuracies, if there was an answer to
a lesson. -/
theorem Holds.load {d₁ : Disk} (h : Holds c s q q' d answers d') (hprepared : Prepared s q q' d d₁)
    (hattempts : (c.recordAll answers).AttemptsFit) :
    ∃ loaded : Option Profile, (s.load : StateM Disk (Option Profile)).run d' = (loaded, d') ∧
      loaded.map Profile.untimed =
        (if c.hasLesson answers then some (c.recordAll answers).untimed else none) ∧
      (loaded.getD .fresh).OnlyPractice ∧ (loaded.getD .fresh).Savable ∧
      (loaded.getD .fresh).untimed = (c.recordAll answers).untimed := by
  cases h with
  | untouched hlesson =>
    refine ⟨none, Disk.load_run_of_grows hprepared.grows hprepared.ready.path hprepared.free, ?_,
      Profile.onlyPractice_fresh, Profile.savable_fresh, ?_⟩
    · rw [hlesson]
      rfl
    · rw [recordAll_of_no_lesson hlesson]
      rfl
  | @saved _ p hlesson _ hready hnode honly hsavable huntimed =>
    have hparse := honly.parse?_render hsavable (.of_untimed huntimed hattempts)
    have hloaded := honly.untimed_reloaded.trans huntimed
    refine ⟨some p.reloaded, ?_, ?_, honly.reloaded, hsavable.reloaded, hloaded⟩
    · rw [Disk.load_run_of_ready hready hnode, hparse]
    · rw [hlesson, Option.map_some, hloaded]
      rfl

/-- The store is ready wherever answers were recorded, once its directory is made. -/
theorem Holds.prepared {d₁ : Disk} (h : Holds c s q q' d answers d')
    (hprepared : Prepared s q q' d d₁) :
    ∃ d₂, outcome (FileSystem.createParent s.path : Action Disk Unit) d' = (.ok (), d₂) ∧
      d.Grows [q, q'] d₂ ∧ d₂.Ready s q q' := by
  cases h with
  | untouched => exact ⟨d₁, hprepared.made, hprepared.grows, hprepared.ready⟩
  | saved _ hgrows hready =>
    exact ⟨d', Disk.createParent_of_holdsParent hready.parent, hgrows, hready⟩

/-- The catalog is still the one that it was. -/
theorem Holds.open? (h : Holds c s q q' d answers d') (hfree : d.node? q = none)
    (hopen : ((Catalog.open? directory : StateM Disk (Except CatalogError Catalog)).run d).1 =
      .ok c) :
    ((Catalog.open? directory : StateM Disk (Except CatalogError Catalog)).run d').1 = .ok c := by
  cases h with
  | untouched => exact hopen
  | saved _ hgrows hready => exact Catalog.open?_of_grows hgrows hready hfree hopen

theorem attemptsFit_of_concat (h : (c.recordAll (answers ++ [a])).AttemptsFit) :
    (c.recordAll answers).AttemptsFit := by
  rw [Catalog.recordAll_concat, Catalog.recordAnswer] at h
  split at h
  · exact h.of_recordAnswer.1
  · exact h

/-- A run for an answer to a lesson succeeds, and saves what was loaded with the answer. -/
theorem Holds.run_lesson {d₁ : Disk} {module : String} {loaded : Option Profile}
    (h : Holds c s q q' d answers d') (hprepared : Prepared s q q' d d₁)
    (hopen : ((Catalog.open? directory : StateM Disk (Except CatalogError Catalog)).run d).1 =
      .ok c)
    (hasks : Asks s directory around arguments d' a) (hlesson : c.moduleOf? a.id = some module)
    (hload : (s.load : StateM Disk (Option Profile)).run d' = (loaded, d')) :
    ((Cli.run around arguments : StateM Disk Exit).run d').1.code = 0 ∧
      d.Grows [q, q'] ((Cli.run around arguments : StateM Disk Exit).run d').2 ∧
      ((Cli.run around arguments : StateM Disk Exit).run d').2.Ready s q q' ∧
      ((Cli.run around arguments : StateM Disk Exit).run d').2.node? q =
        some (.file (answered (loaded.getD .fresh) module a around.now).render) := by
  obtain ⟨d₂, hmade, hgrows, hready⟩ := h.prepared hprepared
  obtain ⟨d₃, hsave, hgrows', hready', hnode⟩ :=
    Disk.save_of_ready hmade hready (answered (loaded.getD .fresh) module a around.now)
  rw [run_eq hasks (h.open? hprepared.free hopen), runRecord_lesson hlesson hload hsave]
  exact ⟨rfl, hgrows.trans hgrows', hready', hnode⟩

/-- A run for any other answer fails and changes nothing. -/
theorem Holds.run_no_lesson {d₁ : Disk} (h : Holds c s q q' d answers d')
    (hprepared : Prepared s q q' d d₁)
    (hopen : ((Catalog.open? directory : StateM Disk (Except CatalogError Catalog)).run d).1 =
      .ok c)
    (hasks : Asks s directory around arguments d' a) (hlesson : c.moduleOf? a.id = none) :
    ((Cli.run around arguments : StateM Disk Exit).run d').1.code = 1 ∧
      ((Cli.run around arguments : StateM Disk Exit).run d').2 = d' := by
  obtain ⟨error, hrun⟩ := @runRecord_no_lesson s c d' a around.now hlesson
  rw [run_eq hasks (h.open? hprepared.free hopen), hrun]
  exact ⟨rfl, rfl⟩

/-- **One run keeps what holds.** -/
theorem Holds.run {d₁ : Disk} (h : Holds c s q q' d answers d') (hprepared : Prepared s q q' d d₁)
    (hopen : ((Catalog.open? directory : StateM Disk (Except CatalogError Catalog)).run d).1 =
      .ok c)
    (hasks : Asks s directory around arguments d' a)
    (hattempts : (c.recordAll (answers ++ [a])).AttemptsFit) :
    Holds c s q q' d (answers ++ [a])
      ((Cli.run around arguments : StateM Disk Exit).run d').2 := by
  have hconcat := c.hasLesson_concat answers a
  have hmemory := c.recordAll_concat answers a
  cases hlesson : c.moduleOf? a.id with
  | none =>
    rw [hlesson, Option.isSome_none, Bool.or_false] at hconcat
    rw [Catalog.recordAnswer, hlesson] at hmemory
    rw [(h.run_no_lesson hprepared hopen hasks hlesson).2]
    cases h with
    | untouched hnone => exact .untouched (hconcat.trans hnone)
    | saved hsome hgrows hready hnode honly hsavable huntimed =>
      exact .saved (hconcat.trans hsome) hgrows hready hnode honly hsavable
        (huntimed.trans (congrArg Profile.untimed hmemory.symm))
  | some module =>
    obtain ⟨loaded, hload, -, honly, hsavable, huntimed⟩ :=
      h.load hprepared (attemptsFit_of_concat hattempts)
    obtain ⟨-, hgrows, hready, hnode⟩ := h.run_lesson hprepared hopen hasks hlesson hload
    rw [hlesson, Option.isSome_some, Bool.or_true] at hconcat
    rw [Catalog.recordAnswer, hlesson] at hmemory
    have hnext : ((loaded.getD .fresh).recordAnswer module a.id a.correct around.now).untimed =
        (c.recordAll (answers ++ [a])).untimed := by
      rw [hmemory]
      exact Profile.untimed_recordAnswer huntimed around.now a.time
    have honly' := honly.recordAnswer module a.id a.correct around.now
    have hsavable' := hsavable.recordAnswer honly (.of_untimed hnext hattempts) hasks.proper
      hasks.hasText
    refine .saved hconcat hgrows hready hnode ⟨honly'.totalScore, honly'.currentStreak,
      honly'.bestStreak, honly'.totalTime, honly'.modules⟩ ⟨?_, ?_, hsavable'.modules⟩ hnext
    · rintro _ ⟨⟩
      exact hasks.proper
    · rintro _ ⟨⟩
      exact hasks.hasText

/-- **What holds at the start holds after any runs.** -/
theorem holds_runs {d₁ : Disk} (hprepared : Prepared s q q' d d₁)
    (hopen : ((Catalog.open? directory : StateM Disk (Except CatalogError Catalog)).run d).1 =
      .ok c)
    (hruns : Runs s directory d answers d') (hattempts : (c.recordAll answers).AttemptsFit) :
    Holds c s q q' d answers d' := by
  induction hruns with
  | start => exact .untouched rfl
  | record _ hasks ih =>
    exact (ih (attemptsFit_of_concat hattempts)).run hprepared hopen hasks hattempts

/-! ## 5. Recording in memory -/

/-- What the saved profile and the next run are like after some answers were recorded. -/
structure RecordsInMemory (c : Catalog) (s : Store) (directory : Option String)
    (answers : List Answer) (d : Disk) : Prop where
  /-- But for times and accuracies, the profile in memory is saved, once there was an answer to a
  lesson. -/
  load : ((s.load : StateM Disk (Option Profile)).run d).1.map Profile.untimed =
    if c.hasLesson answers then some (c.recordAll answers).untimed else none
  /-- An answer to a lesson is recorded. -/
  lesson : ∀ around arguments a, Asks s directory around arguments d a →
    (c.moduleOf? a.id).isSome = true →
      ((run around arguments : StateM Disk Exit).run d).1.code = 0
  /-- An answer to no exercise, or to a step of a boss, fails and changes nothing. -/
  rejected : ∀ around arguments a, Asks s directory around arguments d a → c.Rejects a.id →
    ((run around arguments : StateM Disk Exit).run d).1.code = 1 ∧
      ((run around arguments : StateM Disk Exit).run d).2 = d

/-- **Recording through runs of the program is recording in memory.** On a disk without a saved
profile, on which one can be saved, any runs that record answers leave the profile that the answers
come to in memory, whenever they were recorded, but for times and accuracies. The answers must be no
more than can be counted, in memory as on the disk. -/
theorem records_in_memory
    (hopen : ((Catalog.open? directory : StateM Disk (Except CatalogError Catalog)).run d).1 =
      .ok c)
    (hawaits : Awaits s d) (hruns : Runs s directory d answers d')
    (hattempts : (c.recordAll answers).AttemptsFit) :
    RecordsInMemory c s directory answers d' := by
  obtain ⟨d₁, q, q', hprepared⟩ := hawaits.prepared
  have hholds := holds_runs hprepared hopen hruns hattempts
  refine ⟨?_, ?_, ?_⟩
  · obtain ⟨loaded, hload, huntimed, -⟩ := hholds.load hprepared hattempts
    rw [hload]
    exact huntimed
  · intro around arguments a hasks hlesson
    obtain ⟨module, hmodule⟩ := Option.isSome_iff_exists.1 hlesson
    exact (hholds.run_lesson hprepared hopen hasks hmodule (Disk.load_run s d')).1
  · intro around arguments a hasks hrejects
    exact hholds.run_no_lesson hprepared hopen hasks (Catalog.moduleOf?_of_rejects hrejects)

/-- The catalog of a directory `k`: a lesson `b`, and a boss whose only step is `c`. -/
def corpusDisk : Disk where
  nodes := [(["k"], .directory), (["k", "modules.json"], .file "[[\"a\",\"\",\"\",\"\"]]"),
    (["k", "a.json"], .file ("[[[\"b\",\"\",1,\"lesson\",[],[0,0],\"\",[\"w\"],\"w\"]]," ++
      "[\"\",\"\",\"\",1,[[1,[\"c\",\"\",1,\"boss\",[],[0,0],\"\",[\"w\"],\"w\"]]]]]"))]
  workingDirectory := []

/-- A right answer to the lesson, then a wrong one to the step of the boss. -/
def lessonThenStep : List Answer := [⟨"b", true, ⟨0, 0⟩⟩, ⟨"c", false, ⟨0, 0⟩⟩]

/-- A run in the year 2024, in which the environment names no directories. -/
def bareSurroundings : Surroundings := ⟨⟨none, none, none, none⟩, ⟨1710001815, 0⟩, 0⟩

/-- The arguments that record an answer in the directory `s`, with the catalog of `k`. -/
def recordArguments (id verdict : String) : List String :=
  ["--stats-dir", "/s", "--catalog-dir", "/k", "record", id, verdict]

/-- The answer to the lesson is saved, and the one to the step of the boss is not. -/
theorem records_in_memory_lesson_then_step :
    ∃ c d, ((Catalog.open? (some "/k") : StateM Disk (Except CatalogError Catalog)).run
        corpusDisk).1 = .ok c ∧ c.hasLesson lessonThenStep = true ∧
      Runs ⟨"/s"⟩ (some "/k") corpusDisk lessonThenStep d ∧
      RecordsInMemory c ⟨"/s"⟩ (some "/k") lessonThenStep d := by
  have hcatalog : (((Catalog.open? (some "/k") :
      StateM Disk (Except CatalogError Catalog)).run corpusDisk).1.toOption.any fun c =>
        c.hasLesson lessonThenStep &&
          (c.recordAll lessonThenStep).modules.values.all (·.attempts < counterLimit)) = true := by
    decide +kernel
  have hawaits : Awaits ⟨"/s"⟩ corpusDisk := by
    have hsave : (outcome (Store.save ⟨"/s"⟩ .fresh) corpusDisk).1 = .ok () := by decide +kernel
    exact ⟨_, ["s", "stats.json"], Prod.ext hsave rfl, by decide +kernel, by decide +kernel⟩
  have hlesson (d : Disk) : Asks ⟨"/s"⟩ (some "/k") bareSurroundings
      (recordArguments "b" "--correct") d ⟨"b", true, ⟨0, 0⟩⟩ :=
    ⟨⟨⟨some "/s", none, some "/k"⟩, by decide +kernel, rfl, rfl⟩, by decide +kernel,
      by decide +kernel⟩
  have hstep (d : Disk) : Asks ⟨"/s"⟩ (some "/k") bareSurroundings
      (recordArguments "c" "--wrong") d ⟨"c", false, ⟨0, 0⟩⟩ :=
    ⟨⟨⟨some "/s", none, some "/k"⟩, by decide +kernel, rfl, rfl⟩, by decide +kernel,
      by decide +kernel⟩
  have hruns := ((Runs.start (d := corpusDisk)).record (hlesson _)).record (hstep _)
  cases hopen : ((Catalog.open? (some "/k") :
      StateM Disk (Except CatalogError Catalog)).run corpusDisk).1 with
  | error e =>
    rw [hopen] at hcatalog
    cases hcatalog
  | ok c =>
    rw [hopen, Except.toOption, Option.any_some, Bool.and_eq_true] at hcatalog
    have hattempts : (c.recordAll lessonThenStep).AttemptsFit := fun m hm =>
      of_decide_eq_true (List.all_eq_true.1 hcatalog.2 m hm)
    exact ⟨c, _, rfl, hcatalog.1, hruns, records_in_memory hopen hawaits hruns hattempts⟩

end Cli

end MotionTutor
