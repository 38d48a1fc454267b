import MotionTutor.Files.Path

/-!
# Access to files

What the tutor asks of a file system. A program that reads and writes files is written for any
monad with these operations, so it runs on real files as well as on a `Disk` kept in memory.

Directories are made one at a time. To make a directory and all on the way to it, the path is tried
first, then the ones on its way from the longest to the shortest, until one can be made or is there;
then the others are made in turn (`createDirectories`). What was made stays if a later one fails.
-/

namespace MotionTutor

/-! ## 1. Faults -/

/-- Why an operation on files failed. -/
inductive FileFault
  | notFound
  | alreadyExists
  | notDirectory
  | isDirectory
  | nameTooLong
  /-- The path holds the character zero, so it was not even tried. -/
  | invalidPath
  | other
deriving DecidableEq, Repr

namespace FileFault

/-- The number under which systems report the fault, if they do. -/
def code? : FileFault → Option Nat
  | notFound => some 2
  | alreadyExists => some 17
  | notDirectory => some 20
  | isDirectory => some 21
  | nameTooLong => some 36
  | invalidPath => none
  | other => some 5

def description : FileFault → String
  | notFound => "No such file or directory"
  | alreadyExists => "File exists"
  | notDirectory => "Not a directory"
  | isDirectory => "Is a directory"
  | nameTooLong => "File name too long"
  | invalidPath => "file name contained an unexpected NUL byte"
  | other => "Input/output error"

/-- The description with the number of the fault. -/
def message (fault : FileFault) : String :=
  fault.description ++ fault.code?.elim "" fun code => " (os error " ++ toString code ++ ")"

end FileFault

/-! ## 2. Operations -/

/-- Operations on files named by paths. -/
class FileSystem (m : Type → Type) where
  /-- The content of a file. -/
  readText : String → ExceptT FileFault m String
  /-- Replaces the content of a file, or makes the file. -/
  writeText : String → String → ExceptT FileFault m Unit
  /-- Makes a directory in one that is there. -/
  createDirectory : String → ExceptT FileFault m Unit
  /-- Gives the first file the name of the second, which it replaces. -/
  rename : String → String → ExceptT FileFault m Unit
  removeFile : String → ExceptT FileFault m Unit

namespace FileSystem

variable {m : Type → Type} [Monad m] [FileSystem m]

/-- Whether a path leads to a directory: it cannot be read for being one. -/
def isDirectory (path : String) : m Bool := do
  match ← (readText path).run with
  | .error .isDirectory => return true
  | _ => return false

/-- Makes a directory if it is not there already. -/
def ensureDirectory (path : String) : ExceptT FileFault m Unit :=
  tryCatch (createDirectory path) fun fault => do
    if fault = .alreadyExists && (← (isDirectory path : m Bool)) then return else throw fault

/-- Makes the first of some directories, each of which lies in the next one. -/
def ensureWithin : List String → ExceptT FileFault m Unit
  | [] => return
  | path :: outer =>
    tryCatch (ensureDirectory path) fun
      | .notFound => do
        ensureWithin outer
        ensureDirectory path
      | fault => throw fault

/-- Makes a directory and those on the way to it, where they are missing. -/
def createDirectories (path : String) : ExceptT FileFault m Unit :=
  ensureWithin (Path.ancestors path)

/-- Makes the directory that a file is to lie in. -/
def createParent (path : String) : ExceptT FileFault m Unit := do
  if let some directory := Path.parent? path then
    createDirectories directory

end FileSystem

end MotionTutor
