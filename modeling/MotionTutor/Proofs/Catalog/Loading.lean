import MotionTutor.Catalog.Load

/-!
# Which corpora load, and what is wrong with the others

A corpus is well formed if its modules are listed, at least one and none twice, if the file of each
can be read, no two of all exercises have one id, every optimal solution is listed, and every boss
has steps and lives (`Corpus.WellFormed`). Exactly these corpora load (`Corpus.chapters_eq_ok_iff`).
Any other is refused with its first problem (`Corpus.FirstProblem`, `Corpus.chapters_eq_error_iff`).

* `CorpusEntry` is a module with what its file holds, before it is assembled to a chapter. All
  conditions are about entries; placing an exercise changes none of them.
* First means: every module before is sound together with those before it (`Corpus.Sound`), and so
  is every exercise before in the same file, lessons before steps of the boss; the boss itself comes
  last (`Corpus.Refuses`).
* Both results go by induction over the list of modules. What is carried is the entries that were
  loaded so far.
-/

namespace MotionTutor

/-! ## 1. Exercises -/

/-- The exercise has this fault, when some ids are taken. -/
inductive Exercise.Faulty (taken : List String) (e : Exercise) : CorpusFault → Prop
  | twice (h : e.id ∈ taken) : Faulty taken e (.exerciseTwice e.id)
  | noSolutions (hnew : e.id ∉ taken) (h : e.solutions = []) :
    Faulty taken e (.noSolutions e.id)
  | notListed (hnew : e.id ∉ taken) (hsome : e.solutions ≠ []) (h : e.optimal ∉ e.solutions) :
    Faulty taken e (.optimalNotListed e.id e.optimal)

/-- The exercises can be added when some ids are taken: no id is repeated, and every optimal
solution is listed. -/
def FitBeside (taken : List String) (l : List Exercise) : Prop :=
  (taken ++ l.map (·.id)).Nodup ∧ ∀ e ∈ l, e.optimal ∈ e.solutions

theorem Exercise.fault?_eq_some {taken : List String} {e : Exercise} {fault : CorpusFault} :
    e.fault? taken = some fault ↔ e.Faulty taken fault := by
  unfold Exercise.fault?
  constructor
  · intro h
    split at h
    · rename_i htaken
      cases h
      exact .twice htaken
    · rename_i hnew
      split at h
      · rename_i hnone
        cases h
        exact .noSolutions hnew hnone
      · rename_i hsome
        split at h
        · rename_i hmissing
          cases h
          exact .notListed hnew hsome hmissing
        · cases h
  · rintro (htaken | ⟨hnew, hnone⟩ | ⟨hnew, hsome, hmissing⟩)
    · rw [if_pos htaken]
    · rw [if_neg hnew, if_pos hnone]
    · rw [if_neg hnew, if_neg hsome, if_pos hmissing]

/-- The first fault is that of an exercise before which all others fit. -/
theorem firstFault?_eq_some {taken : List String} {l : List Exercise} {fault : CorpusFault}
    (h : taken.Nodup) :
    firstFault? taken l = some fault ↔
      ∃ before e after, l = before ++ e :: after ∧ FitBeside taken before ∧
        e.Faulty (taken ++ before.map (·.id)) fault := by
  constructor
  · intro hfault
    induction l generalizing taken with
    | nil => cases hfault
    | cons x rest ih =>
      rw [firstFault?] at hfault
      cases hx : x.fault? taken with
      | some f =>
        rw [hx] at hfault
        cases hfault
        refine ⟨[], x, rest, rfl, ⟨?_, List.forall_mem_nil _⟩, ?_⟩
        · simpa using h
        · simpa using Exercise.fault?_eq_some.1 hx
      | none =>
        rw [hx, Option.none_or] at hfault
        obtain ⟨hnew, hoptimal⟩ := Exercise.fault?_eq_none.1 hx
        have hnodup : (taken ++ [x.id]).Nodup := by
          rw [List.nodup_append]
          exact ⟨h, by simp, fun a ha b hb hab => hnew (by simp_all)⟩
        obtain ⟨before, e, after, rfl, ⟨hbefore, hoptimals⟩, hfaulty⟩ := ih hnodup hfault
        refine ⟨x :: before, e, after, rfl, ⟨?_, ?_⟩, ?_⟩
        · simpa [List.append_assoc] using hbefore
        · intro e' he'
          rcases List.mem_cons.1 he' with rfl | he'
          · exact hoptimal
          · exact hoptimals e' he'
        · simpa [List.append_assoc] using hfaulty
  · rintro ⟨before, e, after, rfl, hbefore, hfaulty⟩
    induction before generalizing taken with
    | nil =>
      rw [List.map_nil, List.append_nil] at hfaulty
      rw [List.nil_append, firstFault?, Exercise.fault?_eq_some.2 hfaulty, Option.some_or]
    | cons x before ih =>
      obtain ⟨hnodup, hoptimal⟩ := hbefore
      rw [List.map_cons, List.append_cons] at hnodup hfaulty
      have hfirst := (List.nodup_append.1 hnodup).1
      have hnew : x.id ∉ taken := fun hmem =>
        (List.nodup_append.1 hfirst).2.2 _ hmem _ (List.mem_singleton_self _) rfl
      have hx : x.fault? taken = none :=
        Exercise.fault?_eq_none.2 ⟨hnew, hoptimal x List.mem_cons_self⟩
      rw [List.cons_append, firstFault?, hx, Option.none_or]
      exact ih hfirst ⟨hnodup, fun e' he' => hoptimal e' (List.mem_cons_of_mem x he')⟩ hfaulty

theorem Boss.fault?_eq_some {b : Boss} {fault : CorpusFault} :
    b.fault? = some fault ↔ (b.steps = [] ∨ b.lives = 0) ∧ fault = .bossUnfit b.id := by
  unfold Boss.fault?
  split
  · rename_i h
    simp [h, eq_comm]
  · rename_i h
    simp [h]

/-! ## 2. Entries -/

namespace ChapterContent

/-- All exercises of the file, those of the boss at the end. -/
def exercises (c : ChapterContent) : List Exercise :=
  c.lessons ++ (c.boss.elim [] (·.steps)).map (·.exercise)

end ChapterContent

/-- A module with what its file holds. -/
structure CorpusEntry where
  info : ModuleInfo
  content : ChapterContent

namespace CorpusEntry

def id (e : CorpusEntry) : String := e.info.id

def exercises (e : CorpusEntry) : List Exercise := e.content.exercises

def chapter (e : CorpusEntry) : Chapter := .assemble e.info e.content

/-- The ids of all exercises of some entries. -/
def exerciseIds (entries : List CorpusEntry) : List String :=
  (entries.flatMap exercises).map (·.id)

variable {e : CorpusEntry} {entries : List CorpusEntry}

/-- The exercises of a chapter are those of the file, each placed in one way or the other. -/
theorem exercises_chapter (e : CorpusEntry) :
    e.chapter.exercises = e.content.lessons.map (·.placed e.info .lesson) ++
      ((e.content.boss.elim [] (·.steps)).map (·.exercise)).map (·.placed e.info .boss) := by
  obtain ⟨info, lessons, boss⟩ := e
  cases boss with
  | none => rfl
  | some b =>
    show lessons.map _ ++ (b.steps.map _).map _ = _
    rw [List.map_map, Option.elim_some, List.map_map]
    rfl

/-- A placed exercise keeps what is checked of it. -/
theorem fault?_placed (x : Exercise) (info : ModuleInfo) (kind : ExerciseKind)
    (taken : List String) : (x.placed info kind).fault? taken = x.fault? taken := rfl

theorem firstFault?_map_placed (l : List Exercise) (info : ModuleInfo) (kind : ExerciseKind)
    (taken : List String) (rest rest' : List Exercise)
    (h : ∀ taken, firstFault? taken rest = firstFault? taken rest') :
    firstFault? taken (l.map (·.placed info kind) ++ rest) = firstFault? taken (l ++ rest') := by
  induction l generalizing taken with
  | nil => exact h taken
  | cons x l ih =>
    rw [List.map_cons, List.cons_append, List.cons_append, firstFault?, firstFault?]
    rw [fault?_placed]
    exact congrArg _ (ih _)

/-- The faults of a chapter are those of its file. -/
theorem fault?_chapter (e : CorpusEntry) (taken : List String) :
    e.chapter.fault? taken =
      (firstFault? taken e.exercises).or (e.content.boss.bind Boss.fault?) := by
  have hexercises : firstFault? taken e.chapter.exercises = firstFault? taken e.exercises := by
    rw [exercises_chapter]
    refine firstFault?_map_placed _ _ _ _ _ _ fun taken => ?_
    have hsteps := firstFault?_map_placed ((e.content.boss.elim [] (·.steps)).map (·.exercise))
      e.info .boss taken [] [] fun _ => rfl
    rwa [List.append_nil, List.append_nil] at hsteps
  have hboss : e.chapter.boss.bind Boss.fault? = e.content.boss.bind Boss.fault? := by
    obtain ⟨info, lessons, boss⟩ := e
    cases boss with
    | none => rfl
    | some b =>
      show (b.placed info).fault? = b.fault?
      unfold Boss.fault?
      simp [Boss.placed]
  rw [Chapter.fault?, hexercises, hboss]

theorem ids_chapter (e : CorpusEntry) :
    e.chapter.exercises.map (·.id) = e.exercises.map (·.id) := by
  rw [exercises_chapter, exercises, ChapterContent.exercises, List.map_append, List.map_append,
    List.map_map, List.map_map]
  rfl

theorem exerciseIds_chapters (entries : List CorpusEntry) :
    Corpus.exerciseIds (entries.map chapter) = exerciseIds entries := by
  unfold Corpus.exerciseIds exerciseIds
  induction entries with
  | nil => rfl
  | cons e entries ih =>
    rw [List.map_cons, List.flatMap_cons, List.flatMap_cons, List.map_append, List.map_append, ih,
      ids_chapter]

theorem ids_chapters (entries : List CorpusEntry) :
    (entries.map chapter).map Chapter.id = entries.map id := by
  rw [List.map_map]
  rfl

theorem exerciseIds_append (entries more : List CorpusEntry) :
    exerciseIds (entries ++ more) = exerciseIds entries ++ exerciseIds more := by
  unfold exerciseIds
  rw [List.flatMap_append, List.map_append]

end CorpusEntry

/-! ## 3. What is required -/

namespace Corpus

variable {corpus : Corpus} {entries loaded more : List CorpusEntry} {info : ModuleInfo}
  {error : CatalogError}

/-- The entries are modules of the corpus, with their files, in which nothing is wrong. -/
structure Sound (corpus : Corpus) (entries : List CorpusEntry) : Prop where
  decodes : ∀ e ∈ entries, corpus.content e.id = .ok e.content
  nodup_modules : (entries.map (·.id)).Nodup
  nodup_exercises : (CorpusEntry.exerciseIds entries).Nodup
  optimal_mem : ∀ e ∈ entries, ∀ x ∈ e.exercises, x.optimal ∈ x.solutions
  fightable : ∀ e ∈ entries, ∀ b ∈ e.content.boss, b.steps ≠ [] ∧ 0 < b.lives

/-- The corpus lists these entries, at least one, and nothing is wrong in them. -/
structure WellFormed (corpus : Corpus) (entries : List CorpusEntry) : Prop
    extends Sound corpus entries where
  listed : corpus.modules = .ok (entries.map (·.info))
  ne_nil : entries ≠ []

/-- The next module is refused, after some entries were loaded. -/
inductive Refuses (corpus : Corpus) (loaded : List CorpusEntry) (info : ModuleInfo) :
    CatalogError → Prop
  | moduleTwice (h : info.id ∈ loaded.map (·.id)) :
    Refuses corpus loaded info ⟨modulesFile, .moduleTwice info.id⟩
  | file (hnew : info.id ∉ loaded.map (·.id)) {fault : CorpusFault}
    (h : corpus.content info.id = .error fault) : Refuses corpus loaded info ⟨fileOf info.id, fault⟩
  | exercise (hnew : info.id ∉ loaded.map (·.id)) {content : ChapterContent}
    (hcontent : corpus.content info.id = .ok content) {before after : List Exercise} {x : Exercise}
    (hsplit : content.exercises = before ++ x :: after)
    (hbefore : FitBeside (CorpusEntry.exerciseIds loaded) before) {fault : CorpusFault}
    (hx : x.Faulty (CorpusEntry.exerciseIds loaded ++ before.map (·.id)) fault) :
    Refuses corpus loaded info ⟨fileOf info.id, fault⟩
  | boss (hnew : info.id ∉ loaded.map (·.id)) {content : ChapterContent}
    (hcontent : corpus.content info.id = .ok content)
    (hexercises : FitBeside (CorpusEntry.exerciseIds loaded) content.exercises) {b : Boss}
    (hboss : content.boss = some b) (hb : b.steps = [] ∨ b.lives = 0) :
    Refuses corpus loaded info ⟨fileOf info.id, .bossUnfit b.id⟩

/-- The first problem of a corpus, in the order of its modules. -/
inductive FirstProblem (corpus : Corpus) : CatalogError → Prop
  | list {fault : CorpusFault} (h : corpus.modules = .error fault) :
    FirstProblem corpus ⟨modulesFile, fault⟩
  | noModules (h : corpus.modules = .ok []) : FirstProblem corpus ⟨modulesFile, .noModules⟩
  | module {loaded : List CorpusEntry} {info : ModuleInfo} {rest : List ModuleInfo}
    {error : CatalogError} (h : corpus.modules = .ok (loaded.map (·.info) ++ info :: rest))
    (hloaded : corpus.Sound loaded) (herror : corpus.Refuses loaded info error) :
    FirstProblem corpus error

theorem sound_nil (corpus : Corpus) : corpus.Sound [] :=
  ⟨nofun, .nil, .nil, nofun, nofun⟩

/-- Nothing is wrong in the first entries if nothing is in all. -/
theorem Sound.of_append (h : corpus.Sound (entries ++ more)) : corpus.Sound entries where
  decodes e he := h.decodes e (List.mem_append_left more he)
  nodup_modules := by
    have hnodup := h.nodup_modules
    rw [List.map_append] at hnodup
    exact (List.nodup_append.1 hnodup).1
  nodup_exercises := by
    have hnodup := h.nodup_exercises
    rw [CorpusEntry.exerciseIds_append] at hnodup
    exact (List.nodup_append.1 hnodup).1
  optimal_mem e he := h.optimal_mem e (List.mem_append_left more he)
  fightable e he := h.fightable e (List.mem_append_left more he)

/-- What one entry more requires. -/
theorem sound_append_singleton {content : ChapterContent} :
    corpus.Sound (loaded ++ [CorpusEntry.mk info content]) ↔
      corpus.Sound loaded ∧ info.id ∉ loaded.map (·.id) ∧ corpus.content info.id = .ok content ∧
        FitBeside (CorpusEntry.exerciseIds loaded) content.exercises ∧
        ∀ b ∈ content.boss, b.steps ≠ [] ∧ 0 < b.lives := by
  let e := CorpusEntry.mk info content
  have hids : CorpusEntry.exerciseIds (loaded ++ [e]) =
      CorpusEntry.exerciseIds loaded ++ content.exercises.map (·.id) := by
    rw [CorpusEntry.exerciseIds_append]
    unfold CorpusEntry.exerciseIds
    rw [List.flatMap_singleton]
    rfl
  have hmem : e ∈ loaded ++ [e] := List.mem_append_right _ (List.mem_singleton_self e)
  constructor
  · intro h
    have hnodup := h.nodup_modules
    have hexercises := h.nodup_exercises
    rw [List.map_append, List.map_singleton, List.nodup_append] at hnodup
    rw [hids] at hexercises
    refine ⟨h.of_append, fun hold => ?_, h.decodes e hmem, ⟨hexercises, h.optimal_mem e hmem⟩,
      h.fightable e hmem⟩
    exact hnodup.2.2 _ hold _ (List.mem_singleton_self _) rfl
  · rintro ⟨h, hnew, hdecodes, ⟨hexercises, hoptimal⟩, hboss⟩
    have hcases : ∀ {P : CorpusEntry → Prop}, (∀ e' ∈ loaded, P e') → P e →
        ∀ e' ∈ loaded ++ [e], P e' := by
      intro P hloaded he e' he'
      rcases List.mem_append.1 he' with he' | he'
      · exact hloaded e' he'
      · exact List.mem_singleton.1 he' ▸ he
    refine ⟨hcases h.decodes hdecodes, ?_, ?_, hcases h.optimal_mem hoptimal,
      hcases h.fightable hboss⟩
    · rw [List.map_append, List.map_singleton, List.nodup_append]
      refine ⟨h.nodup_modules, by simp, ?_⟩
      rintro a ha b hb rfl
      have heq : a = info.id := List.mem_singleton.1 hb
      exact hnew (heq ▸ ha)
    · rw [hids]
      exact hexercises

/-! ## 4. Loading -/

/-- What adding a chapter comes to, said of entries. -/
theorem addChapter_eq (corpus : Corpus) (loaded : List CorpusEntry) (info : ModuleInfo) :
    corpus.addChapter (loaded.map CorpusEntry.chapter) info =
      if info.id ∈ loaded.map (·.id) then .error ⟨modulesFile, .moduleTwice info.id⟩
      else
        match corpus.content info.id with
        | .error fault => .error ⟨fileOf info.id, fault⟩
        | .ok content =>
          match (firstFault? (CorpusEntry.exerciseIds loaded) content.exercises).or
            (content.boss.bind Boss.fault?) with
          | some fault => .error ⟨fileOf info.id, fault⟩
          | none => .ok ((loaded ++ [CorpusEntry.mk info content]).map CorpusEntry.chapter) := by
  unfold addChapter
  rw [CorpusEntry.ids_chapters, CorpusEntry.exerciseIds_chapters]
  split
  · rfl
  · cases corpus.content info.id with
    | error fault => rfl
    | ok content =>
      have hfault := CorpusEntry.fault?_chapter ⟨info, content⟩ (CorpusEntry.exerciseIds loaded)
      unfold CorpusEntry.chapter CorpusEntry.exercises at hfault
      dsimp only
      dsimp only at hfault
      rw [hfault, List.map_append]
      rfl

/-- The next chapter is added if its module and its file are in order. -/
theorem addChapter_eq_ok_iff (h : corpus.Sound loaded) {chapters : List Chapter} :
    corpus.addChapter (loaded.map CorpusEntry.chapter) info = .ok chapters ↔
      ∃ content, corpus.Sound (loaded ++ [CorpusEntry.mk info content]) ∧
        chapters = (loaded ++ [CorpusEntry.mk info content]).map CorpusEntry.chapter := by
  rw [addChapter_eq]
  constructor
  · intro hadd
    split at hadd
    · cases hadd
    · rename_i hnew
      split at hadd
      · cases hadd
      · rename_i content hcontent
        split at hadd
        · cases hadd
        · rename_i hnone
          cases hadd
          rw [Option.or_eq_none_iff, firstFault?_eq_none h.nodup_exercises] at hnone
          obtain ⟨hexercises, hboss⟩ := hnone
          refine ⟨content, sound_append_singleton.2 ⟨h, hnew, hcontent, hexercises, ?_⟩, rfl⟩
          intro b hb
          exact Boss.fault?_eq_none.1 (Option.bind_eq_none_iff.1 hboss b hb)
  · rintro ⟨content, hsound, rfl⟩
    obtain ⟨-, hnew, hcontent, hexercises, hboss⟩ := sound_append_singleton.1 hsound
    have hfirst := (firstFault?_eq_none h.nodup_exercises).2 hexercises
    have hfit : content.boss.bind Boss.fault? = none :=
      Option.bind_eq_none_iff.2 fun b hb => Boss.fault?_eq_none.2 (hboss b hb)
    rw [if_neg hnew, hcontent]
    dsimp only
    rw [hfirst, hfit]
    rfl

/-- It is refused with the first problem of its module and its file. -/
theorem addChapter_eq_error_iff (h : corpus.Sound loaded) :
    corpus.addChapter (loaded.map CorpusEntry.chapter) info = .error error ↔
      corpus.Refuses loaded info error := by
  rw [addChapter_eq]
  constructor
  · intro hadd
    split at hadd
    · rename_i hold
      cases hadd
      exact .moduleTwice hold
    · rename_i hnew
      split at hadd
      · rename_i fault hcontent
        cases hadd
        exact .file hnew hcontent
      · rename_i content hcontent
        split at hadd
        · rename_i fault hsome
          cases hadd
          rw [Option.or_eq_some_iff, firstFault?_eq_some h.nodup_exercises,
            firstFault?_eq_none h.nodup_exercises] at hsome
          rcases hsome with ⟨before, x, after, hsplit, hbefore, hx⟩ | ⟨hexercises, hboss⟩
          · exact .exercise hnew hcontent hsplit hbefore hx
          · obtain ⟨b, hb, hfault⟩ := Option.bind_eq_some_iff.1 hboss
            obtain ⟨hunfit, rfl⟩ := Boss.fault?_eq_some.1 hfault
            exact .boss hnew hcontent hexercises hb hunfit
        · cases hadd
  · rintro (hold | ⟨hnew, hcontent⟩ | ⟨hnew, hcontent, hsplit, hbefore, hx⟩ |
      ⟨hnew, hcontent, hexercises, hboss, hb⟩)
    · rw [if_pos hold]
    · rw [if_neg hnew, hcontent]
    · have hfirst := (firstFault?_eq_some h.nodup_exercises).2 ⟨_, _, _, hsplit, hbefore, hx⟩
      rw [if_neg hnew, hcontent]
      dsimp only
      rw [hfirst]
      rfl
    · have hfirst := (firstFault?_eq_none h.nodup_exercises).2 hexercises
      rw [if_neg hnew, hcontent]
      dsimp only
      rw [hfirst, hboss, Option.bind_some, Boss.fault?_eq_some.2 ⟨hb, rfl⟩]
      rfl

/-- All chapters are added if all modules and files are in order. -/
theorem addChapters_eq_ok_iff (h : corpus.Sound loaded) {infos : List ModuleInfo}
    {chapters : List Chapter} :
    corpus.addChapters (loaded.map CorpusEntry.chapter) infos = .ok chapters ↔
      ∃ more, more.map (·.info) = infos ∧ corpus.Sound (loaded ++ more) ∧
        chapters = (loaded ++ more).map CorpusEntry.chapter := by
  induction infos generalizing loaded with
  | nil =>
    constructor
    · intro hadd
      cases hadd
      exact ⟨[], rfl, by rwa [List.append_nil], by rw [List.append_nil]⟩
    · rintro ⟨more, hmore, -, rfl⟩
      rw [List.map_eq_nil_iff.1 hmore, List.append_nil]
      rfl
  | cons info rest ih =>
    unfold addChapters
    constructor
    · intro hadd
      split at hadd
      · cases hadd
      · rename_i done hstep
        obtain ⟨content, hsound, rfl⟩ := (addChapter_eq_ok_iff h).1 hstep
        obtain ⟨more, rfl, hmore, rfl⟩ := (ih hsound).1 hadd
        rw [List.append_assoc, List.singleton_append] at hmore ⊢
        exact ⟨_, rfl, hmore, rfl⟩
    · rintro ⟨more, hmore, hsound, hchapters⟩
      obtain ⟨⟨info', content⟩, more, rfl, rfl, rfl⟩ := List.map_eq_cons_iff.1 hmore
      rw [List.append_cons] at hsound hchapters
      have hstep := (addChapter_eq_ok_iff h).2 ⟨content, hsound.of_append, rfl⟩
      rw [hstep]
      exact (ih hsound.of_append).2 ⟨more, rfl, hsound, hchapters⟩

/-- Otherwise the corpus is refused at the first module that cannot be added. -/
theorem addChapters_eq_error_iff (h : corpus.Sound loaded) {infos : List ModuleInfo} :
    corpus.addChapters (loaded.map CorpusEntry.chapter) infos = .error error ↔
      ∃ more info after, infos = more.map (·.info) ++ info :: after ∧
        corpus.Sound (loaded ++ more) ∧ corpus.Refuses (loaded ++ more) info error := by
  induction infos generalizing loaded with
  | nil =>
    refine iff_of_false nofun ?_
    rintro ⟨more, info, after, hsplit, -⟩
    exact List.append_ne_nil_of_right_ne_nil _ (List.cons_ne_nil info after) hsplit.symm
  | cons info rest ih =>
    unfold addChapters
    constructor
    · intro hadd
      split at hadd
      · rename_i error' hstep
        cases hadd
        refine ⟨[], info, rest, rfl, by rwa [List.append_nil], ?_⟩
        rw [List.append_nil]
        exact (addChapter_eq_error_iff h).1 hstep
      · rename_i done hstep
        obtain ⟨content, hsound, rfl⟩ := (addChapter_eq_ok_iff h).1 hstep
        obtain ⟨more, info', after, rfl, hmore, hrefuses⟩ := (ih hsound).1 hadd
        rw [List.append_assoc, List.singleton_append] at hmore hrefuses
        exact ⟨_ :: more, info', after, rfl, hmore, hrefuses⟩
    · rintro ⟨more, info', after, hsplit, hsound, hrefuses⟩
      cases more with
      | nil =>
        cases hsplit
        rw [List.append_nil] at hrefuses
        rw [(addChapter_eq_error_iff h).2 hrefuses]
      | cons e more =>
        obtain ⟨rfl, rfl⟩ := List.cons.inj hsplit
        rw [List.append_cons] at hsound hrefuses
        rw [(addChapter_eq_ok_iff h).2 ⟨e.content, hsound.of_append, rfl⟩]
        exact (ih hsound.of_append).2 ⟨more, info', after, rfl, hsound, hrefuses⟩

/-- **A corpus has chapters if and only if it is well formed**, and these are its entries
assembled. -/
theorem chapters_eq_ok_iff {chapters : List Chapter} :
    corpus.chapters = .ok chapters ↔
      ∃ entries, corpus.WellFormed entries ∧ chapters = entries.map CorpusEntry.chapter := by
  unfold Corpus.chapters
  constructor
  · intro h
    split at h
    · cases h
    · cases h
    · rename_i infos hne hlist
      obtain ⟨entries, rfl, hsound, rfl⟩ := (addChapters_eq_ok_iff (sound_nil corpus)).1 h
      refine ⟨entries, ⟨hsound, hlist, ?_⟩, rfl⟩
      rintro rfl
      exact hne rfl
  · rintro ⟨entries, hwell, rfl⟩
    have hne : entries.map (·.info) ≠ [] := fun hnil => hwell.ne_nil (List.map_eq_nil_iff.1 hnil)
    rw [hwell.listed]
    split
    · rename_i heq
      cases heq
    · rename_i heq
      exact absurd (Except.ok.inj heq) hne
    · rename_i infos _ heq
      rw [← Except.ok.inj heq]
      exact (addChapters_eq_ok_iff (sound_nil corpus)).2 ⟨entries, rfl, hwell.toSound, rfl⟩

/-- **Any other corpus is refused with its first problem.** -/
theorem chapters_eq_error_iff : corpus.chapters = .error error ↔ corpus.FirstProblem error := by
  unfold Corpus.chapters
  constructor
  · intro h
    split at h
    · rename_i fault hlist
      cases h
      exact .list hlist
    · rename_i hlist
      cases h
      exact .noModules hlist
    · rename_i infos _ hlist
      obtain ⟨loaded, info, after, rfl, hsound, hrefuses⟩ :=
        (addChapters_eq_error_iff (sound_nil corpus)).1 h
      exact .module hlist hsound hrefuses
  · rintro (hlist | hlist | ⟨hlist, hloaded, hrefuses⟩)
    · rw [hlist]
    · rw [hlist]
    · rw [hlist]
      split
      · rename_i heq
        cases heq
      · rename_i heq
        exact absurd (Except.ok.inj heq) (List.append_ne_nil_of_right_ne_nil _ (by simp))
      · rename_i infos _ heq
        rw [← Except.ok.inj heq]
        exact (addChapters_eq_error_iff (sound_nil corpus)).2
          ⟨_, _, _, rfl, hloaded, hrefuses⟩

end Corpus

end MotionTutor
