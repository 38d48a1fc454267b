/-!
# Paths

A path is a text of parts divided by slashes. It starts at the root if a slash comes first, and at
the working directory otherwise; the empty path is the working directory. A part is a name, or dots:
a single dot leads nowhere and two dots lead back. Empty parts do not count.
-/

namespace MotionTutor.Path

/-! ## 1. Parts -/

def isAbsolute (path : String) : Bool := path.toList.head? == some '/'

/-- Divides a text at its slashes. -/
def split : List Char → List (List Char)
  | [] => [[]]
  | c :: cs =>
    if c = '/' then [] :: split cs
    else
      match split cs with
      | [] => [[c]]
      | name :: names => (c :: name) :: names

/-- The names and dots on the way, from the start on. -/
def parts (path : String) : List String :=
  ((split path.toList).map String.ofList).filter fun part => part ≠ ""

/-- The parts that lead somewhere. -/
def names (path : String) : List String := (parts path).filter fun part => part ≠ "."

/-- Whether the path can only name a directory, since a slash follows its last part. -/
def endsInSlash (path : String) : Bool := path.toList.getLast? == some '/'

/-! ## 2. Limits -/

/-- Whether the path can be passed to a file system at all: the character zero ends it there. -/
def isValid (path : String) : Bool := !path.toList.contains '\x00'

/-- The most bytes of a name. -/
def maxNameSize : Nat := 255

/-- The most bytes of a path. -/
def maxSize : Nat := 4095

/-! ## 3. Other paths -/

/-- A path from a directory on; an absolute path does not depend on it. -/
def join (directory path : String) : String :=
  if isAbsolute path || directory.isEmpty then path
  else if endsInSlash directory then directory ++ path
  else directory ++ "/" ++ path

/-- The path along some parts. -/
def ofParts (absolute : Bool) (parts : List String) : String :=
  let way := "/".intercalate parts
  if absolute then "/" ++ way else way

/-- The path without its last name; none if it has no name. -/
def parent? (path : String) : Option String :=
  match names path with
  | [] => none
  | names => some (ofParts (isAbsolute path) names.dropLast)

/-- A path that leads somewhere and the directories on its way, the longest first. -/
def ancestors (path : String) : List String :=
  let way := names path
  if way = [] then []
  else
    path :: (List.range' 1 (way.length - 1)).reverse.map fun count =>
      ofParts (isAbsolute path) (way.take count)

/-- Skips slashes and single dots at the front of the characters of a path. -/
def skipIdle : List Char → List Char
  | '/' :: cs => skipIdle cs
  | '.' :: '/' :: cs => skipIdle cs
  | cs => cs

/-- The path from its first name on, as it is seen from a directory it was joined to. An absolute
path is seen whole. -/
def seenFromWithin (path : String) : String :=
  if isAbsolute path then path else String.ofList (skipIdle path.toList)

end MotionTutor.Path
