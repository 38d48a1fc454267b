import MotionTutor.Files.Path

/-!
# Where files are kept

The profile and the settings have default places under the home directory, which the environment can
move. A directory that the environment names for settings or data counts only if its path starts at
the root.
-/

namespace MotionTutor

/-- What the environment says of directories. -/
structure Environment where
  home : Option String
  configHome : Option String
  dataHome : Option String
  /-- The home directory of the account, whatever the environment says. -/
  accountHome : Option String
deriving DecidableEq, Repr

namespace Environment

/-- The name of the tutor's own directories. -/
def directoryName : String := "vimdrill"

variable (e : Environment)

/-- The home directory; an empty one counts as not set. -/
def homeDirectory : Option String := (e.home.filter fun h => !h.isEmpty) <|> e.accountHome

/-- The tutor's directory under one that the environment names, or else under one of the home
directory. Without a home directory there is none. -/
def ownDirectory (named : Option String) (underHome : String) : Option String :=
  e.homeDirectory.map fun home =>
    Path.join ((named.filter Path.isAbsolute).getD (Path.join home underHome)) directoryName

/-- The directory of the profile: the given one, or else the place for settings under the home
directory, or the place for data if the environment sets no home directory. -/
def statsDirectory (given : Option String) : String :=
  match given, e.home with
  | some directory, _ => directory
  | none, some home => Path.join (Path.join home ".config") directoryName
  | none, none => (e.ownDirectory e.dataHome ".local/share").getD ("." ++ directoryName)

/-- The file of the settings. -/
def settingsPath : String :=
  match e.ownDirectory e.configHome ".config" with
  | some directory => Path.join directory "config.json"
  | none => directoryName ++ "_config.json"

end Environment

end MotionTutor
