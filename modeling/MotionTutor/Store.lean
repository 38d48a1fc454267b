import MotionTutor.Files
import MotionTutor.Files.Path
import MotionTutor.Stats.Record

/-!
# The saved profile

A store keeps a profile in a file of a directory. Loading never fails: what is missing or cannot be
read as a profile counts as no profile. Saving writes a draft beside the file and then gives it the
name of the file, so the file holds either the old profile or the new one.
-/

namespace MotionTutor

/-- Where a profile is kept. -/
structure Store where
  directory : String
deriving DecidableEq, Repr

namespace Store

variable (s : Store)

/-- The file of the profile. -/
def path : String := Path.join s.directory "stats.json"

/-- The file that a profile is written to first. -/
def draftPath : String := Path.join s.directory "stats.json.tmp"

variable {m : Type → Type} [Monad m] [FileSystem m]

/-- The saved profile, if there is one. -/
def load : m (Option Profile) := do
  match ← (FileSystem.readText s.path).run with
  | .ok document => return Profile.parse? document
  | .error _ => return none

def save (p : Profile) : ExceptT FileFault m Unit := do
  FileSystem.createParent s.path
  FileSystem.writeText s.draftPath p.render
  FileSystem.rename s.draftPath s.path

/-- Removes the saved profile, if there is one. -/
def reset : ExceptT FileFault m Unit :=
  tryCatch (FileSystem.removeFile s.path) fun
    | .notFound => return
    | fault => throw fault

end Store

end MotionTutor
