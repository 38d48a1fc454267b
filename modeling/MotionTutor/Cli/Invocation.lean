import MotionTutor.Cli.Arguments
import MotionTutor.Position
import MotionTutor.Settings

/-!
# What the command line asks for

The tutor has seven tasks, each a subcommand. The settings can be given before its name and after
it; what comes after counts.
-/

namespace MotionTutor.Cli

/-! ## 1. Tasks -/

inductive Task
  /-- Run keys in a text and show where they lead. -/
  | simulate (start : Position) (code : List String) (keys : String) (showTokens : Bool)
  /-- Judge an answer. -/
  | validate (exercise answer : String)
  /-- Draw exercises. -/
  | practice (module : String) (count : Nat)
  /-- Record a result of practice. -/
  | record (exercise : String) (correct : Bool)
  /-- Show the profile. -/
  | stats
  /-- Show the modules and what is open. -/
  | modules
  /-- Delete the profile. -/
  | reset
deriving DecidableEq, Repr

structure Invocation where
  settings : Settings
  task : Task
deriving DecidableEq, Repr

/-! ## 2. Commands -/

def helpOption : OptionSpec := { name := "help", short := some 'h' }

def settingsOptions : List OptionSpec :=
  [{ name := "stats-dir", takes := .path }, { name := "seed", takes := .number },
    { name := "catalog-dir", takes := .path }]

def taskNames : List String :=
  ["simulate", "validate", "practice", "record", "stats", "modules", "reset"]

/-- The command itself. -/
def mainSpec : CommandSpec where
  options := helpOption :: { name := "version", short := some 'V' } :: settingsOptions
  operands := []
  subcommands := "help" :: taskNames

/-- The options of a subcommand besides the settings, and its operands. -/
def ownSpec : String → List OptionSpec × List Bool
  | "simulate" =>
    ([{ name := "line", takes := .number }, { name := "col", takes := .number },
      { name := "code", takes := .text, repeatable := true }, { name := "tokens" }], [true])
  | "validate" => ([], [false, true])
  | "practice" => ([{ name := "count", short := some 'n', takes := .number }], [false])
  | "record" => ([{ name := "correct" }, { name := "wrong" }], [false])
  | _ => ([], [])

def specOf (task : String) : CommandSpec where
  options := helpOption :: settingsOptions ++ (ownSpec task).1
  operands := (ownSpec task).2

/-! ## 3. Reading -/

namespace Given

variable (g : Given)

def numberOr (name : String) (default : Nat) : Nat := ((g.value? name).bind number?).getD default

def settings : Settings :=
  ⟨g.value? "stats-dir", (g.value? "seed").bind number?, g.value? "catalog-dir"⟩

/-- The task that a subcommand asks for, if all it needs was given. -/
def task? (name : String) : Option Task :=
  match name, g.operands with
  | "simulate", [keys] =>
    if g.has "code" then
      some (.simulate ⟨g.numberOr "line" 0, g.numberOr "col" 0⟩ (g.values "code") keys
        (g.has "tokens"))
    else none
  | "validate", [exercise, answer] => some (.validate exercise answer)
  | "practice", [module] => some (.practice module (g.numberOr "count" 1))
  | "record", [exercise] =>
    if g.has "correct" = g.has "wrong" then none else some (.record exercise (g.has "correct"))
  | "stats", [] => some .stats
  | "modules", [] => some .modules
  | "reset", [] => some .reset
  | _, _ => none

end Given

/-- The names of tasks that help is asked for; there is no help for anything else. -/
def helpFor : List String → Stop
  | [] => .help
  | [name] => if "help" :: taskNames |>.contains name then .help else .misuse
  | _ => .misuse

/-- What a list of arguments asks for. -/
def Invocation.read (arguments : List String) : Except Stop Invocation :=
  match mainSpec.read arguments with
  | .error stop => .error stop
  | .ok (_, none) => .error .misuse
  | .ok (_, some ("help", rest)) => .error (helpFor rest)
  | .ok (outer, some (name, rest)) =>
    match (specOf name).read rest with
    | .error stop => .error stop
    | .ok (inner, _) =>
      match inner.task? name with
      | some task => .ok ⟨inner.settings.orElse outer.settings, task⟩
      | none => .error .misuse

end MotionTutor.Cli
