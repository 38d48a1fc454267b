import MotionTutor.Catalog.Chapter

/-!
# Catalogs

A catalog is a list of chapters in the order in which they open, and it keeps what its users rely on
(`Coherent`): no two modules and no two exercises have one id, every exercise lists its optimal
solution, every boss can be fought, and every exercise knows its module, its kind and how it is
judged.
-/

namespace MotionTutor

/-- What holds of the chapters of a catalog. -/
structure Coherent (chapters : List Chapter) : Prop where
  nodup_modules : (chapters.map Chapter.id).Nodup
  nodup_exercises : ((chapters.flatMap Chapter.exercises).map (·.id)).Nodup
  assembled : ∀ c ∈ chapters, ∃ content, c = .assemble c.info content
  optimal_mem : ∀ c ∈ chapters, ∀ e ∈ c.exercises, e.optimal ∈ e.solutions
  fightable : ∀ c ∈ chapters, ∀ b ∈ c.boss, b.steps ≠ [] ∧ 0 < b.lives

structure Catalog where
  chapters : List Chapter
  coherent : Coherent chapters

namespace Catalog

variable (c : Catalog)

def modules : List ModuleInfo := c.chapters.map (·.info)

/-- The ids of the modules, in the order in which they open. -/
def order : List String := c.chapters.map Chapter.id

def chapter? (id : String) : Option Chapter := c.chapters.find? (·.id = id)

def module? (id : String) : Option ModuleInfo := (c.chapter? id).map (·.info)

/-- The lessons of a module in their order; none for an unknown module. -/
def lessons (id : String) : List Exercise := (c.chapter? id).elim [] (·.lessons)

def boss? (id : String) : Option Boss := (c.chapter? id).bind (·.boss)

/-- All exercises, chapter by chapter. -/
def exercises : List Exercise := c.chapters.flatMap Chapter.exercises

def exercise? (id : String) : Option Exercise := c.exercises.find? (·.id = id)

/-- Every boss has a step and gives a life. -/
theorem fightable_of_boss? {c : Catalog} {id : String} {b : Boss} (h : c.boss? id = some b) :
    b.steps ≠ [] ∧ 0 < b.lives := by
  obtain ⟨chapter, hlisted, hboss⟩ := Option.bind_eq_some_iff.1 h
  exact c.coherent.fightable chapter (List.mem_of_find?_eq_some hlisted) b hboss

end Catalog

end MotionTutor
