import MotionTutor.Catalog.Record
import MotionTutor.Files
import MotionTutor.Files.Path
import MotionTutor.Lessons

/-!
# Corpora in directories

A corpus can be read from a directory that holds its documents. The list of modules is read first;
it says which other documents are wanted.
-/

namespace MotionTutor

variable {m : Type → Type} [Monad m] [FileSystem m]

namespace Corpus

/-- A document in a directory. -/
def readDocument (directory name : String) : m (Except CorpusFault String) := do
  match ← (FileSystem.readText (Path.join directory name)).run with
  | .ok document => return .ok document
  | .error fault => return .error (.unreadable fault)

/-- Documents of a directory by their names. -/
def readDocuments (directory : String) : List String → m (List (String × Except CorpusFault String))
  | [] => return []
  | name :: names => do
    let document ← readDocument directory name
    let others ← readDocuments directory names
    return (name, document) :: others

/-- The corpus in a directory. -/
def readDirectory (directory : String) : m Corpus := do
  let modules ← readDocument directory modulesFile
  let listed := match modules.bind decodeModules with
    | .ok infos => infos
    | .error _ => []
  let documents ← readDocuments directory (listed.map fun info => fileOf info.id)
  return .ofDocuments fun name =>
    ((modulesFile, modules) :: documents).lookup name |>.getD (.error (.unreadable .notFound))

end Corpus

/-- The catalog in a directory, or without one the catalog that comes with the tutor. -/
def Catalog.open? : Option String → m (Except CatalogError Catalog)
  | some directory => return Catalog.load (← Corpus.readDirectory directory)
  | none => return Catalog.builtin

end MotionTutor
