import MotionTutor.Catalog.Load
import MotionTutor.Exercise.Record
import MotionTutor.Json.Reader

/-!
# The documents of a corpus

A corpus is a document that lists the modules, and one for each module with its lessons and its
boss. Without lessons the list is empty. The boss may be missing or null, but a chapter written as
an array has a place for it.
-/

namespace MotionTutor

open Json (Value required optional)

namespace ChapterContent

def readBoss? : Value → Option Value → Option (Option Boss)
  | .object _, none => some none
  | _, field => required (Value.nullable? Boss.read?) field

def read? (v : Value) : Option ChapterContent := do
  let [lessons, boss] ← v.fields? ["lessons", "boss"] | none
  let lessons ← optional [] (Value.list? Exercise.read?) lessons
  let boss ← readBoss? v boss
  return ⟨lessons, boss⟩

end ChapterContent

namespace Corpus

/-- What a document holds. -/
def decode {α : Type} (read? : Value → Option α) (document : String) : Except CorpusFault α :=
  match (Value.parse? document).bind read? with
  | some x => .ok x
  | none => .error .malformed

/-- The list of modules in a document. -/
def decodeModules : String → Except CorpusFault (List ModuleInfo) :=
  decode (Value.list? ModuleInfo.read?)

/-- The content of a chapter in a document. -/
def decodeContent : String → Except CorpusFault ChapterContent := decode ChapterContent.read?

/-- The corpus of a collection of documents by the names of their files. -/
def ofDocuments (document : String → Except CorpusFault String) : Corpus where
  modules := (document modulesFile).bind decodeModules
  content id := (document (fileOf id)).bind decodeContent

end Corpus

end MotionTutor
