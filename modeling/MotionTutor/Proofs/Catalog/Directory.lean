import MotionTutor.Catalog.Files
import MotionTutor.Files.Disk
import MotionTutor.Proofs.Catalog.Loading

/-!
# The catalog of a directory

A directory becomes a catalog if and only if its corpus is well formed, and otherwise it is refused
with its first problem (`Catalog.open?_directory`). The catalog then holds what the files hold
(`Catalog.Holds`): the modules in the order listed, the lessons and the boss of each with their
module, kind and judging put in place, and every exercise under its id.

* A catalog is its chapters, so `Catalog.load` succeeds and fails as these do (`load_eq_ok_iff`,
  `load_eq_error_iff`).
* `Disk.document` is what is found in a directory under a name. Only the documents that are listed
  are read, and a corpus shows no others (`chapters_congr`), so the catalog is that of all documents
  of the directory (`open?_run`).
-/

namespace MotionTutor

/-! ## 1. Looking up -/

/-- Where no two elements have one key, each is what is found under its key. -/
theorem find?_of_nodup {α : Type} {key : α → String} {l : List α} (h : (l.map key).Nodup) {x : α}
    (hx : x ∈ l) : l.find? (fun y => key y = key x) = some x := by
  induction l with
  | nil => cases hx
  | cons y l ih =>
    obtain ⟨hnew, hrest⟩ := List.nodup_cons.1 h
    rcases List.mem_cons.1 hx with rfl | hx
    · exact List.find?_cons_of_pos (decide_eq_true rfl)
    · have hne : ¬ key y = key x := fun heq => hnew (heq ▸ List.mem_map_of_mem hx)
      rw [List.find?_cons_of_neg (by simpa using hne)]
      exact ih hrest hx

/-- In the graph of a function, its value is found under each of the names. -/
theorem lookup_graph {α : Type} (f : String → α) {names : List String} {name : String}
    (h : name ∈ names) : (names.map fun n => (n, f n)).lookup name = some (f name) := by
  induction names with
  | nil => cases h
  | cons n names ih =>
    rw [List.map_cons, SortedMap.lookup_cons_eq]
    split
    · rename_i heq
      rw [heq]
    · rename_i hne
      exact ih ((List.mem_cons.1 h).resolve_left hne)

/-! ## 2. What a catalog holds -/

namespace Catalog

variable {c : Catalog} {corpus : Corpus} {entries : List CorpusEntry}

theorem load_eq_ok_iff : load corpus = .ok c ↔ corpus.chapters = .ok c.chapters := by
  unfold load
  split
  · rename_i error h
    rw [h]
    exact iff_of_false nofun nofun
  · rename_i chapters h
    obtain ⟨chapters', hcoherent⟩ := c
    rw [Except.ok.injEq, Catalog.mk.injEq, show corpus.chapters = _ from h, Except.ok.injEq]

theorem load_eq_error_iff {error : CatalogError} :
    load corpus = .error error ↔ corpus.chapters = .error error := by
  unfold load
  split
  · rename_i error' h
    rw [h, Except.error.injEq, Except.error.injEq]
  · rename_i chapters h
    exact iff_of_false nofun fun herror => nomatch h.symm.trans herror

/-- The exercise is a lesson of a module, or a step of its boss. -/
def Offers (c : Catalog) (x : Exercise) : Prop :=
  ∃ module ∈ c.order, x ∈ c.lessons module ∨ ∃ b ∈ c.boss? module, ∃ s ∈ b.steps, s.exercise = x

/-- The catalog holds these entries, with every exercise in its place and under its id. -/
structure Holds (c : Catalog) (entries : List CorpusEntry) : Prop where
  modules : c.modules = entries.map (·.info)
  order : c.order = entries.map (·.id)
  lessons : ∀ e ∈ entries, c.lessons e.id = e.content.lessons.map (·.placed e.info .lesson)
  boss : ∀ e ∈ entries, c.boss? e.id = e.content.boss.map (·.placed e.info)
  exercise : ∀ id x, c.exercise? id = some x ↔ x.id = id ∧ c.Offers x
  lesson : ∀ module, ∀ x ∈ c.lessons module,
    c.exercise? x.id = some x ∧ x.moduleId = module ∧ x.kind = .lesson

theorem chapter?_of_mem {chapter : Chapter} (h : chapter ∈ c.chapters) :
    c.chapter? chapter.id = some chapter :=
  find?_of_nodup c.coherent.nodup_modules h

/-- The chapter that is found under an id is one of the catalog and has this id. -/
theorem mem_of_chapter? {id : String} {chapter : Chapter} (h : c.chapter? id = some chapter) :
    chapter ∈ c.chapters ∧ chapter.id = id :=
  ⟨List.mem_of_find?_eq_some h, by simpa using List.find?_some h⟩

theorem lessons_of_mem {chapter : Chapter} (h : chapter ∈ c.chapters) :
    c.lessons chapter.id = chapter.lessons := by
  rw [lessons, chapter?_of_mem h]
  rfl

theorem boss?_of_mem {chapter : Chapter} (h : chapter ∈ c.chapters) :
    c.boss? chapter.id = chapter.boss := by
  rw [boss?, chapter?_of_mem h]
  rfl

theorem mem_bossExercises {chapter : Chapter} {x : Exercise} :
    x ∈ chapter.bossExercises ↔ ∃ b ∈ chapter.boss, ∃ s ∈ b.steps, s.exercise = x := by
  unfold Chapter.bossExercises
  rw [List.mem_map]
  cases chapter.boss with
  | none => simp
  | some b => simp

theorem mem_exercises_iff {x : Exercise} : x ∈ c.exercises ↔ c.Offers x := by
  unfold exercises Offers
  rw [List.mem_flatMap]
  constructor
  · rintro ⟨chapter, hmem, hx⟩
    refine ⟨chapter.id, List.mem_map_of_mem hmem, ?_⟩
    rw [lessons_of_mem hmem, boss?_of_mem hmem, ← mem_bossExercises]
    exact List.mem_append.1 hx
  · rintro ⟨module, hmodule, hx⟩
    obtain ⟨chapter, hmem, rfl⟩ := List.mem_map.1 hmodule
    rw [lessons_of_mem hmem, boss?_of_mem hmem, ← mem_bossExercises] at hx
    exact ⟨chapter, hmem, List.mem_append.2 hx⟩

/-- Under an id stands the one exercise that has it. -/
theorem exercise?_eq_some_iff {id : String} {x : Exercise} :
    c.exercise? id = some x ↔ x.id = id ∧ c.Offers x := by
  rw [← mem_exercises_iff]
  constructor
  · intro h
    exact ⟨by simpa using List.find?_some h, List.mem_of_find?_eq_some h⟩
  · rintro ⟨rfl, hmem⟩
    exact find?_of_nodup c.coherent.nodup_exercises hmem

/-- A lesson of a module is in its place. -/
theorem placed_of_mem_lessons {module : String} {x : Exercise} (h : x ∈ c.lessons module) :
    c.Offers x ∧ x.moduleId = module ∧ x.kind = .lesson := by
  cases hchapter : c.chapter? module with
  | none =>
    rw [lessons, hchapter] at h
    cases h
  | some chapter =>
    obtain ⟨hmem, rfl⟩ := mem_of_chapter? hchapter
    refine ⟨⟨chapter.id, List.mem_map_of_mem hmem, Or.inl h⟩, ?_⟩
    rw [lessons_of_mem hmem] at h
    obtain ⟨content, hassembled⟩ := c.coherent.assembled chapter hmem
    rw [hassembled] at h
    obtain ⟨y, -, rfl⟩ := List.mem_map.1 h
    exact ⟨rfl, rfl⟩

theorem holds_of_chapters (h : c.chapters = entries.map CorpusEntry.chapter) :
    c.Holds entries where
  modules := by
    rw [modules, h, List.map_map]
    rfl
  order := by
    rw [order, h, CorpusEntry.ids_chapters]
  lessons e he := by
    have hmem : e.chapter ∈ c.chapters := h ▸ List.mem_map_of_mem he
    exact lessons_of_mem hmem
  boss e he := by
    have hmem : e.chapter ∈ c.chapters := h ▸ List.mem_map_of_mem he
    exact boss?_of_mem hmem
  exercise _ _ := exercise?_eq_some_iff
  lesson _ x hx := by
    obtain ⟨hoffers, hplaced⟩ := placed_of_mem_lessons hx
    exact ⟨exercise?_eq_some_iff.2 ⟨rfl, hoffers⟩, hplaced⟩

end Catalog

/-! ## 3. Reading a directory -/

/-- What is found in a directory under a name. -/
def Disk.document (d : Disk) (directory name : String) : Except CorpusFault String :=
  (d.read (Path.join directory name)).mapError .unreadable

namespace Corpus

/-- Two corpora with one list and the same files for it have the same chapters. -/
theorem addChapters_congr {corpus corpus' : Corpus} {infos : List ModuleInfo}
    (h : ∀ info ∈ infos, corpus.content info.id = corpus'.content info.id)
    (done : List Chapter) : corpus.addChapters done infos = corpus'.addChapters done infos := by
  induction infos generalizing done with
  | nil => rfl
  | cons info infos ih =>
    have hstep : corpus.addChapter done info = corpus'.addChapter done info := by
      unfold addChapter
      rw [h info List.mem_cons_self]
    rw [addChapters, addChapters, hstep]
    cases corpus'.addChapter done info with
    | error e => rfl
    | ok done => exact ih (fun info' hmem => h info' (List.mem_cons_of_mem info hmem)) done

theorem chapters_congr {corpus corpus' : Corpus} (hlist : corpus.modules = corpus'.modules)
    (h : ∀ infos, corpus.modules = .ok infos →
      ∀ info ∈ infos, corpus.content info.id = corpus'.content info.id) :
    corpus.chapters = corpus'.chapters := by
  unfold chapters
  rw [← hlist]
  split
  · rfl
  · rfl
  · rename_i infos _ hinfos
    exact addChapters_congr (h infos hinfos) []

variable (d : Disk) (directory : String)

theorem readText_run (path : String) :
    ((FileSystem.readText path : ExceptT FileFault (StateM Disk) String).run).run d =
      (d.read path, d) := by
  have hget : ((get : ExceptT FileFault (StateM Disk) Disk).run).run d = pure (.ok d, d) := rfl
  simp only [FileSystem.readText, ExceptT.run_bind, StateT.run_bind, hget, pure_bind]
  cases d.read path <;> rfl

theorem readDocument_run (name : String) :
    (readDocument directory name : StateM Disk _).run d = (d.document directory name, d) := by
  unfold readDocument Disk.document
  rw [StateT.run_bind, readText_run]
  cases d.read (Path.join directory name) <;> rfl

theorem readDocuments_run (names : List String) :
    (readDocuments directory names : StateM Disk _).run d =
      (names.map fun name => (name, d.document directory name), d) := by
  induction names with
  | nil => rfl
  | cons name names ih =>
    rw [readDocuments, StateT.run_bind, readDocument_run]
    show StateT.run (readDocuments directory names >>= fun others =>
      pure ((name, d.document directory name) :: others)) d = _
    rw [StateT.run_bind, ih]
    rfl

/-- The documents of some files of a directory, as they are looked up. -/
theorem lookup_documents {names : List String} {name : String} (h : name ∈ names) :
    ((names.map fun n => (n, d.document directory n)).lookup name).getD
      (.error (.unreadable .notFound)) = d.document directory name := by
  rw [lookup_graph _ h]
  rfl

/-- The files that are read: the list of modules, and the file of each module listed. -/
def filesRead (modules : Except CorpusFault (List ModuleInfo)) : List String :=
  modulesFile :: (match modules with
    | .ok infos => infos
    | .error _ => []).map fun info : ModuleInfo => fileOf info.id

theorem readDirectory_run :
    (readDirectory directory : StateM Disk _).run d =
      (ofDocuments fun name =>
        (((filesRead ((d.document directory modulesFile).bind decodeModules)).map
          fun n => (n, d.document directory n)).lookup name).getD
            (.error (.unreadable .notFound)), d) := by
  rw [readDirectory, StateT.run_bind, readDocument_run]
  show StateT.run (readDocuments directory _ >>= fun documents => pure (ofDocuments fun name =>
    (((modulesFile, d.document directory modulesFile) :: documents).lookup name).getD _)) d = _
  rw [StateT.run_bind, readDocuments_run]
  unfold filesRead
  rw [List.map_cons]
  cases (d.document directory modulesFile).bind decodeModules <;> rfl

/-- What is read of a directory has the chapters of all its documents. -/
theorem chapters_readDirectory :
    (((readDirectory directory : StateM Disk _).run d).1).chapters =
      (ofDocuments (d.document directory)).chapters := by
  rw [readDirectory_run]
  have hlist : modulesFile ∈ filesRead ((d.document directory modulesFile).bind decodeModules) :=
    List.mem_cons_self
  have hmodules := lookup_documents d directory hlist
  refine chapters_congr (congrArg (·.bind decodeModules) hmodules) ?_
  intro infos hinfos info hinfo
  have hlisted : (d.document directory modulesFile).bind decodeModules = .ok infos :=
    (congrArg (·.bind decodeModules) hmodules).symm.trans hinfos
  refine congrArg (·.bind decodeContent) (lookup_documents d directory ?_)
  rw [hlisted]
  exact List.mem_cons_of_mem _ (List.mem_map_of_mem hinfo)

end Corpus

/-! ## 4. The catalog of a directory -/

namespace Catalog

/-- The catalog of a directory is that of its documents. -/
theorem load_readDirectory (d : Disk) (directory : String) :
    load ((Corpus.readDirectory directory : StateM Disk _).run d).1 =
      load (.ofDocuments (d.document directory)) := by
  have hchapters := Corpus.chapters_readDirectory d directory
  cases h : load (.ofDocuments (d.document directory)) with
  | ok c =>
    rw [load_eq_ok_iff, hchapters]
    exact load_eq_ok_iff.1 h
  | error e =>
    rw [load_eq_error_iff, hchapters]
    exact load_eq_error_iff.1 h

theorem open?_run (d : Disk) (directory : String) :
    (open? (some directory) : StateM Disk _).run d =
      (load (.ofDocuments (d.document directory)), d) := by
  rw [open?, StateT.run_bind]
  show (load ((Corpus.readDirectory directory : StateM Disk _).run d).1,
    ((Corpus.readDirectory directory : StateM Disk _).run d).2) = _
  rw [load_readDirectory, Corpus.readDirectory_run]

/-- **A directory becomes a catalog if and only if its corpus is well formed.** The catalog holds
what the files hold, each exercise in its place and under its id. Any other directory is refused
with its first problem, module by module in the order listed, the lessons of a module before its
boss. -/
theorem open?_directory (d : Disk) (directory : String) :
    let corpus := Corpus.ofDocuments (d.document directory)
    let result := ((open? (some directory) : StateM Disk _).run d).1
    ((∃ c, result = .ok c) ↔ ∃ entries, corpus.WellFormed entries) ∧
      (∀ c, result = .ok c → ∃ entries, corpus.WellFormed entries ∧ c.Holds entries) ∧
      ∀ error, result = .error error ↔ corpus.FirstProblem error := by
  intro corpus result
  have hresult : result = load corpus := congrArg Prod.fst (open?_run d directory)
  rw [hresult]
  refine ⟨⟨?_, ?_⟩, fun c hc => ?_, fun error => ?_⟩
  · rintro ⟨c, hc⟩
    obtain ⟨entries, hwell, -⟩ := Corpus.chapters_eq_ok_iff.1 (load_eq_ok_iff.1 hc)
    exact ⟨entries, hwell⟩
  · rintro ⟨entries, hwell⟩
    have hchapters := Corpus.chapters_eq_ok_iff.2 ⟨entries, hwell, rfl⟩
    exact ⟨⟨_, Corpus.coherent_chapters hchapters⟩, load_eq_ok_iff.2 hchapters⟩
  · obtain ⟨entries, hwell, hchapters⟩ := Corpus.chapters_eq_ok_iff.1 (load_eq_ok_iff.1 hc)
    exact ⟨entries, hwell, holds_of_chapters hchapters⟩
  · rw [load_eq_error_iff]
    exact Corpus.chapters_eq_error_iff

end Catalog

end MotionTutor
