import MotionTutor.Catalog
import MotionTutor.Catalog.Fault

/-!
# Loading a catalog

`Catalog.load` makes a catalog of a corpus, module by module in the order listed: the lessons of a
module are looked at before its boss, its boss before the next module, and the first fault found
refuses the corpus. A module must be new, its file readable, every exercise id new, and every
optimal solution listed; a boss must have steps and lives.
-/

namespace MotionTutor

/-! ## 1. Checking a chapter -/

/-- What is wrong with an exercise, when some ids are taken. -/
def Exercise.fault? (taken : List String) (e : Exercise) : Option CorpusFault :=
  if e.id ∈ taken then some (.exerciseTwice e.id)
  else if e.solutions = [] then some (.noSolutions e.id)
  else if e.optimal ∉ e.solutions then some (.optimalNotListed e.id e.optimal)
  else none

/-- The first fault of some exercises. -/
def firstFault? : List String → List Exercise → Option CorpusFault
  | _, [] => none
  | taken, e :: rest => (e.fault? taken).or (firstFault? (taken ++ [e.id]) rest)

def Boss.fault? (b : Boss) : Option CorpusFault :=
  if b.steps = [] ∨ b.lives = 0 then some (.bossUnfit b.id) else none

/-- The first fault of a chapter. -/
def Chapter.fault? (taken : List String) (c : Chapter) : Option CorpusFault :=
  (firstFault? taken c.exercises).or (c.boss.bind Boss.fault?)

theorem Exercise.fault?_eq_none {taken : List String} {e : Exercise} :
    e.fault? taken = none ↔ e.id ∉ taken ∧ e.optimal ∈ e.solutions := by
  unfold Exercise.fault?
  by_cases ht : e.id ∈ taken <;> by_cases hs : e.solutions = [] <;>
    by_cases ho : e.optimal ∈ e.solutions <;> simp_all

theorem firstFault?_eq_none {taken : List String} {l : List Exercise} (h : taken.Nodup) :
    firstFault? taken l = none ↔
      (taken ++ l.map (·.id)).Nodup ∧ ∀ e ∈ l, e.optimal ∈ e.solutions := by
  induction l generalizing taken with
  | nil => simp [firstFault?, h]
  | cons e rest ih =>
    rw [firstFault?, Option.or_eq_none_iff, Exercise.fault?_eq_none]
    by_cases he : e.id ∈ taken
    · have hdup : ¬ (taken ++ (e :: rest).map (·.id)).Nodup := fun hn =>
        (List.nodup_append.1 hn).2.2 _ he _ List.mem_cons_self rfl
      exact ⟨fun h => absurd he h.1.1, fun h => absurd h.1 hdup⟩
    · have hnodup : (taken ++ [e.id]).Nodup := by
        rw [List.nodup_append]
        exact ⟨h, by simp, fun a ha b hb hab => he (by simp_all)⟩
      rw [ih hnodup]
      simp [he, List.append_assoc, and_left_comm]

theorem Boss.fault?_eq_none {b : Boss} : b.fault? = none ↔ b.steps ≠ [] ∧ 0 < b.lives := by
  simp [Boss.fault?, not_or, Nat.pos_iff_ne_zero]

/-! ## 2. Adding chapters -/

/-- Where a catalog comes from: the list of modules and, by their ids, the contents of their files.
-/
structure Corpus where
  modules : Except CorpusFault (List ModuleInfo)
  content : String → Except CorpusFault ChapterContent

namespace Corpus

/-- The file that lists the modules. -/
def modulesFile : String := "modules.json"

/-- The file of a module. -/
def fileOf (id : String) : String := id ++ ".json"

/-- The ids of all exercises of some chapters. -/
def exerciseIds (chapters : List Chapter) : List String :=
  (chapters.flatMap Chapter.exercises).map (·.id)

/-- Adds the chapter of the next module. -/
def addChapter (corpus : Corpus) (done : List Chapter) (info : ModuleInfo) :
    Except CatalogError (List Chapter) :=
  if info.id ∈ done.map Chapter.id then .error ⟨modulesFile, .moduleTwice info.id⟩
  else
    match corpus.content info.id with
    | .error fault => .error ⟨fileOf info.id, fault⟩
    | .ok content =>
      let chapter := Chapter.assemble info content
      match chapter.fault? (exerciseIds done) with
      | some fault => .error ⟨fileOf info.id, fault⟩
      | none => .ok (done ++ [chapter])

/-- Adds the chapters of some modules in their order. -/
def addChapters (corpus : Corpus) :
    List Chapter → List ModuleInfo → Except CatalogError (List Chapter)
  | done, [] => .ok done
  | done, info :: rest =>
    match corpus.addChapter done info with
    | .error e => .error e
    | .ok done => corpus.addChapters done rest

/-- All chapters, or the first thing that is wrong. -/
def chapters (corpus : Corpus) : Except CatalogError (List Chapter) :=
  match corpus.modules with
  | .error fault => .error ⟨modulesFile, fault⟩
  | .ok [] => .error ⟨modulesFile, .noModules⟩
  | .ok infos => corpus.addChapters [] infos

/-! ## 3. What was loaded is coherent -/

theorem coherent_addChapter {corpus : Corpus} {done done' : List Chapter} {info : ModuleInfo}
    (h : Coherent done) (hadd : corpus.addChapter done info = .ok done') : Coherent done' := by
  unfold addChapter at hadd
  split at hadd
  · cases hadd
  · rename_i hid
    split at hadd
    · cases hadd
    · rename_i content _
      dsimp only at hadd
      split at hadd
      · cases hadd
      · rename_i hfault
        cases hadd
        rw [Chapter.fault?, Option.or_eq_none_iff, exerciseIds,
          firstFault?_eq_none h.nodup_exercises] at hfault
        obtain ⟨⟨hnodup, hoptimal⟩, hboss⟩ := hfault
        refine ⟨?_, ?_, ?_, ?_, ?_⟩
        · rw [List.map_append, List.nodup_append]
          refine ⟨h.nodup_modules, by simp, fun a ha b hb hab => ?_⟩
          simp only [List.map_cons, List.map_nil, List.mem_singleton] at hb
          subst hab hb
          exact hid ha
        · simpa using hnodup
        · intro c hc
          rcases List.mem_append.1 hc with hc | hc
          · exact h.assembled c hc
          · exact ⟨content, by rw [List.mem_singleton.1 hc]; rfl⟩
        · intro c hc
          rcases List.mem_append.1 hc with hc | hc
          · exact h.optimal_mem c hc
          · exact List.mem_singleton.1 hc ▸ hoptimal
        · intro c hc b hb
          rcases List.mem_append.1 hc with hc | hc
          · exact h.fightable c hc b hb
          · rw [List.mem_singleton.1 hc] at hb
            rw [Option.mem_def.1 hb] at hboss
            exact Boss.fault?_eq_none.1 hboss

theorem coherent_addChapters {corpus : Corpus} {infos : List ModuleInfo}
    {done done' : List Chapter} (h : Coherent done)
    (hadd : corpus.addChapters done infos = .ok done') : Coherent done' := by
  induction infos generalizing done with
  | nil => cases hadd; exact h
  | cons info rest ih =>
    unfold addChapters at hadd
    split at hadd
    · cases hadd
    · rename_i hstep
      exact ih (coherent_addChapter h hstep) hadd

theorem coherent_nil : Coherent [] := ⟨.nil, .nil, nofun, nofun, nofun⟩

theorem coherent_chapters {corpus : Corpus} {chapters : List Chapter}
    (h : corpus.chapters = .ok chapters) : Coherent chapters := by
  unfold Corpus.chapters at h
  split at h
  · cases h
  · cases h
  · exact coherent_addChapters coherent_nil h

end Corpus

/-- The catalog of a corpus, or the first thing that is wrong with the corpus. -/
def Catalog.load (corpus : Corpus) : Except CatalogError Catalog :=
  match h : corpus.chapters with
  | .error e => .error e
  | .ok chapters => .ok ⟨chapters, Corpus.coherent_chapters h⟩

end MotionTutor
