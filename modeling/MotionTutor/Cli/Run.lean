import MotionTutor.Catalog.Files
import MotionTutor.Cli.Invocation
import MotionTutor.Cli.Report
import MotionTutor.Locations
import MotionTutor.Random.ChaCha
import MotionTutor.Refusal
import MotionTutor.Store
import MotionTutor.Text.Quoted
import MotionTutor.Text.Shown

/-!
# Running a task

A run reads the settings, the catalog and the saved profile as the task needs them, and ends with an
exit code: zero with a report, one with an error, two if the arguments were misused.
-/

namespace MotionTutor.Cli

/-! ## 1. Errors -/

/-- Why a task failed. -/
inductive TaskError
  | refused (reason : Refusal)
  /-- Only lessons are practised. -/
  | bossStep (id : String)
  | catalog (directory : Option String) (error : CatalogError)
  | file (fault : FileFault)
deriving DecidableEq, Repr

/-- The name of a kind of fault. -/
def faultKind : FileFault → String
  | .notFound => "NotFound"
  | .alreadyExists => "AlreadyExists"
  | .notDirectory => "NotADirectory"
  | .isDirectory => "IsADirectory"
  | .nameTooLong => "InvalidFilename"
  | .invalidPath => "InvalidInput"
  | .other => "Uncategorized"

/-- A fault of the file system by its number, if it has one, its kind and its description. -/
def faultText (fault : FileFault) : String :=
  let parts := [("kind", faultKind fault), ("message", Text.quoted fault.description)]
  Text.shownCase "Io"
    (match fault.code? with
    | some code => Text.shownRecord "Os" (("code", toString code) :: parts)
    | none => Text.shownRecord "Error" parts)

def refusalText : Refusal → String
  | .unknownModule id => Text.shownCase "UnknownModule" (Text.quoted id)
  | .unknownExercise id => Text.shownCase "UnknownExercise" (Text.quoted id)
  | .noBoss id => Text.shownCase "NoBoss" (Text.quoted id)
  | .locked id => Text.shownCase "Locked" (Text.quoted id)

def TaskError.text : TaskError → String
  | refused reason => refusalText reason
  | bossStep id => Text.quoted ("`" ++ id ++ "` is a boss step; only lessons are practiced")
  | catalog directory error =>
    let path := directory.elim error.file fun d => Path.join d error.file
    Text.shownRecord "Catalog"
      [("path", Text.quoted path), ("reason", Text.quoted error.fault.message)]
  | file fault => faultText fault

/-! ## 2. Tasks -/

/-- What a run depends on besides files. -/
structure Surroundings where
  environment : Environment
  /-- The time of the run, in whole seconds. -/
  now : Instant
  /-- The seed of the draws where none is set. -/
  entropy : UInt64

/-- What a task comes to: lines to print, or an error. -/
abbrev TaskResult := Except TaskError (List String)

variable {m : Type → Type} [Monad m] [FileSystem m]

/-- Runs a task on the catalog that the settings name. -/
def withCatalog (settings : Settings) (f : Catalog → m TaskResult) : m TaskResult := do
  match ← Catalog.open? settings.catalogDirectory with
  | .ok c => f c
  | .error e => return .error (.catalog settings.catalogDirectory e)

/-- The saved profile, or a fresh one. -/
def loadProfile (store : Store) : m Profile := do
  return (← store.load).getD .fresh

def runValidate (c : Catalog) (id answer : String) : TaskResult :=
  match c.exercise? id with
  | none => .error (.refused (.unknownExercise id))
  | some e => .ok (verdictReport e (e.judge answer))

def runPractice (c : Catalog) (store : Store) (module : String) (count : Nat)
    (words : Words) : m TaskResult := do
  match c.chapter? module with
  | none => return .error (.refused (.unknownModule module))
  | some chapter =>
    let p ← loadProfile store
    return .ok (practiceReport module (p.progress module) chapter.lessons count words)

/-- Records a result of practice. Nothing is written for an exercise that is not a lesson. -/
def runRecord (c : Catalog) (store : Store) (now : Instant) (id : String)
    (correct : Bool) : m TaskResult := do
  match c.exercise? id with
  | none => return .error (.refused (.unknownExercise id))
  | some e =>
    if e.kind ≠ .lesson then return .error (.bossStep id)
    else
      let p ← loadProfile store
      let p := p.modifyProgress e.moduleId fun progress => progress.recordPractice e.id correct now
      let p := { p with lastPlayed := some now }
      match ← (store.save p).run with
      | .error fault => return .error (.file fault)
      | .ok () =>
        let history := ((p.progress e.moduleId).history? e.id).getD .fresh
        return .ok (recordReport e.id correct history)

def runReset (store : Store) : m TaskResult := do
  match ← store.reset.run with
  | .error fault => return .error (.file fault)
  | .ok () => return .ok ["stats reset: " ++ store.path]

def runTask (around : Surroundings) (settings : Settings) (task : Task) : m TaskResult :=
  let store : Store := ⟨around.environment.statsDirectory settings.statsDirectory⟩
  match task with
  | .simulate start code keys showTokens =>
    return .ok (simulationReport start code keys showTokens)
  | .validate exercise answer =>
    withCatalog settings fun c => return runValidate c exercise answer
  | .practice module count =>
    let seed := settings.seed.elim around.entropy UInt64.ofNat
    withCatalog settings fun c => runPractice c store module count (.ofSeed seed)
  | .record exercise correct =>
    withCatalog settings fun c => runRecord c store around.now exercise correct
  | .stats => return .ok (statsReport (← loadProfile store))
  | .modules => withCatalog settings fun c => return .ok (modulesReport c (← loadProfile store))
  | .reset => runReset store

/-! ## 3. Runs -/

/-- What a run leaves behind. -/
structure Exit where
  code : Nat
  output : String
  /-- What went wrong, if the code is one. -/
  error : Option String
deriving DecidableEq, Repr

/-- Lines as a text; each ends with a line feed. -/
def textOfLines (lines : List String) : String := String.join (lines.map (· ++ "\n"))

def versionLine : String := "vimdrill 0.3.0"

def helpLines : List String :=
  ["Usage: vimdrill [OPTIONS] <COMMAND>", "", "Commands:"] ++ taskNames.map ("  " ++ ·) ++
    ["", "Options:"] ++ mainSpec.options.map fun o => "  --" ++ o.name

def Exit.ofStop : Stop → Exit
  | .help => ⟨0, textOfLines helpLines, none⟩
  | .version => ⟨0, textOfLines [versionLine], none⟩
  | .misuse => ⟨2, "", none⟩

def Exit.ofResult : TaskResult → Exit
  | .ok lines => ⟨0, textOfLines lines, none⟩
  | .error e => ⟨1, "", some e.text⟩

/-- Runs what the arguments ask for. -/
def run (around : Surroundings) (arguments : List String) : m Exit := do
  match Invocation.read arguments with
  | .error stop => return .ofStop stop
  | .ok invocation =>
    let saved ← Settings.load around.environment.settingsPath
    return .ofResult (← runTask around (invocation.settings.orElse saved) invocation.task)

end MotionTutor.Cli
