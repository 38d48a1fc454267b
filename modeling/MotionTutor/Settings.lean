import MotionTutor.Files
import MotionTutor.Files.Path
import MotionTutor.Json.Printer
import MotionTutor.Json.Reader
import MotionTutor.Json.Record
import MotionTutor.Limits

/-!
# Settings

What can be set once and for all in a file, or for one run on the command line. A file that is
missing or malformed sets nothing.
-/

namespace MotionTutor

open Json (Value optional)

structure Settings where
  /-- The directory of the saved profile. -/
  statsDirectory : Option String
  /-- Fixes the draws of practice. -/
  seed : Option Nat
  /-- The directory of the corpus, if it is not the one that comes with the tutor. -/
  catalogDirectory : Option String
deriving DecidableEq, Repr

namespace Settings

/-- Nothing is set. -/
def unset : Settings := ⟨none, none, none⟩

/-- The first settings, where they set something; otherwise the second. -/
def orElse (s t : Settings) : Settings :=
  ⟨s.statsDirectory <|> t.statsDirectory, s.seed <|> t.seed,
    s.catalogDirectory <|> t.catalogDirectory⟩

/-! ## 1. As records -/

def read? (v : Value) : Option Settings := do
  let [statsDirectory, seed, catalogDirectory] ←
    v.fields? ["stats_dir", "seed", "catalog_dir"] | none
  let statsDirectory ← optional none (Value.nullable? Value.text?) statsDirectory
  let seed ← optional none (Value.nullable? (Value.natural? wordLimit)) seed
  let catalogDirectory ← optional none (Value.nullable? Value.text?) catalogDirectory
  return ⟨statsDirectory, seed, catalogDirectory⟩

def write (s : Settings) : Value :=
  .object [("stats_dir", .ofOption .text s.statsDirectory), ("seed", .ofOption .ofNat s.seed),
    ("catalog_dir", .ofOption .text s.catalogDirectory)]

/-- The settings of a document. -/
def parse? (document : String) : Option Settings := (Value.parse? document).bind read?

/-- The document of settings. -/
def render (s : Settings) : String := s.write.render

/-! ## 2. In a file -/

variable {m : Type → Type} [Monad m] [FileSystem m]

/-- The settings in a file. -/
def load (path : String) : m Settings := do
  match ← (FileSystem.readText path).run with
  | .ok document => return (parse? document).getD unset
  | .error _ => return unset

def save (s : Settings) (path : String) : ExceptT FileFault m Unit := do
  FileSystem.createParent path
  FileSystem.writeText path s.render

end Settings

end MotionTutor
