import MotionTutor.Files

/-!
# What is wrong with a corpus

A corpus that does not become a catalog is refused with the first thing that is wrong with it.
-/

namespace MotionTutor

/-- Why a corpus is refused. -/
inductive CorpusFault
  /-- The file cannot be read. -/
  | unreadable (fault : FileFault)
  /-- The file is no document of the right form. -/
  | malformed
  | noModules
  | moduleTwice (id : String)
  | exerciseTwice (id : String)
  | noSolutions (id : String)
  | optimalNotListed (id optimal : String)
  /-- A boss without steps or lives. -/
  | bossUnfit (id : String)
deriving DecidableEq, Repr

namespace CorpusFault

def quoted (s : String) : String := "`" ++ s ++ "`"

def message : CorpusFault → String
  | unreadable fault => fault.message
  | malformed => "is malformed"
  | noModules => "no modules listed"
  | moduleTwice id => "module " ++ quoted id ++ " listed twice"
  | exerciseTwice id => "duplicate exercise id " ++ quoted id
  | noSolutions id => "exercise " ++ quoted id ++ " has no solutions"
  | optimalNotListed id optimal =>
    "exercise " ++ quoted id ++ ": optimal " ++ quoted optimal ++ " is not a listed solution"
  | bossUnfit id => "boss " ++ quoted id ++ " needs at least one step and one life"

end CorpusFault

/-- A fault and the file it is found in. -/
structure CatalogError where
  file : String
  fault : CorpusFault
deriving DecidableEq, Repr

end MotionTutor
