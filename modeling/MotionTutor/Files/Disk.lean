import MotionTutor.Files
import MotionTutor.Files.Path

/-!
# A file system in memory

A disk holds files and directories under the names that lead to them from the root. Every operation
first follows its path: each part on the way must lead to a directory, what the last one leads to
need not exist (`Disk.locate`). Names and paths have a largest size.
-/

namespace MotionTutor

/-- What stands under a name. -/
inductive Node
  | file (content : String)
  | directory
deriving DecidableEq, Repr

structure Disk where
  nodes : List (List String × Node)
  /-- Where paths start that do not start at the root. -/
  workingDirectory : List String
deriving Repr

namespace Disk

/-- A disk without files. -/
def empty : Disk := ⟨[], []⟩

/-! ## 1. Looking -/

/-- What stands at a place; at the root a directory. -/
def node? (d : Disk) (place : List String) : Option Node :=
  if place = [] then some .directory else d.nodes.lookup place

/-- The place that a part of a path leads to from another place. -/
def follow (d : Disk) (place : List String) (part : String) : Except FileFault (List String) :=
  match d.node? place with
  | none => .error .notFound
  | some (.file _) => .error .notDirectory
  | some .directory =>
    if part = "." then .ok place
    else if part = ".." then .ok place.dropLast
    else if Path.maxNameSize < part.utf8ByteSize then .error .nameTooLong
    else .ok (place ++ [part])

/-- Where paths of this form start. -/
def startOf (d : Disk) (path : String) : List String :=
  if Path.isAbsolute path then [] else d.workingDirectory

/-- The place that a path leads to. -/
def locate (d : Disk) (path : String) : Except FileFault (List String) :=
  if !Path.isValid path then .error .invalidPath
  else if path.isEmpty then .error .notFound
  else if Path.maxSize < path.utf8ByteSize then .error .nameTooLong
  else (Path.parts path).foldlM d.follow (d.startOf path)

/-- The content of a file. -/
def read (d : Disk) (path : String) : Except FileFault String := do
  let place ← d.locate path
  match d.node? place with
  | none => .error .notFound
  | some .directory => .error .isDirectory
  | some (.file content) => if Path.endsInSlash path then .error .notDirectory else .ok content

/-- Whether a path leads to something. -/
def pathExists (d : Disk) (path : String) : Bool :=
  match d.locate path with
  | .error _ => false
  | .ok place =>
    match d.node? place with
    | none => false
    | some .directory => true
    | some (.file _) => !Path.endsInSlash path

/-! ## 2. Changing -/

/-- Without what stands at a place. -/
def clear (d : Disk) (place : List String) : Disk :=
  { d with nodes := d.nodes.filter fun n => n.1 ≠ place }

/-- With a node at a place. -/
def put (d : Disk) (place : List String) (node : Node) : Disk :=
  { d with nodes := (place, node) :: (d.clear place).nodes }

def write (d : Disk) (path content : String) : Except FileFault Disk := do
  let place ← d.locate path
  if d.node? place = some .directory ∨ Path.endsInSlash path then .error .isDirectory
  else .ok (d.put place (.file content))

/-- Makes a directory. Dots at the end lead to a place that is there. -/
def createDirectory (d : Disk) (path : String) : Except FileFault Disk := do
  let place ← d.locate path
  if (d.node? place).isSome then .error .alreadyExists else .ok (d.put place .directory)

def rename (d : Disk) (source target : String) : Except FileFault Disk := do
  let here ← d.locate source
  let there ← d.locate target
  match d.node? here with
  | none => .error .notFound
  | some .directory => .error .other
  | some (.file content) =>
    if d.node? there = some .directory then .error .isDirectory
    else .ok ((d.clear here).put there (.file content))

def removeFile (d : Disk) (path : String) : Except FileFault Disk := do
  let place ← d.locate path
  match d.node? place with
  | none => .error .notFound
  | some .directory => .error .isDirectory
  | some (.file _) => .ok (d.clear place)

/-! ## 3. As a file system -/

/-- Changes the disk, or leaves it as it is if that fails. -/
def change (f : Disk → Except FileFault Disk) : ExceptT FileFault (StateM Disk) Unit := do
  match f (← get) with
  | .ok d => set d
  | .error fault => throw fault

instance : FileSystem (StateM Disk) where
  readText path := do
    match (← get).read path with
    | .ok content => return content
    | .error fault => throw fault
  writeText path content := change fun d => d.write path content
  createDirectory path := change fun d => d.createDirectory path
  rename source target := change fun d => d.rename source target
  removeFile path := change fun d => d.removeFile path

end Disk

end MotionTutor
