import MotionTutor.Decimal.Digits
import MotionTutor.Limits

/-!
# Reading the arguments of a command

A command takes options and operands. An option is a flag or takes a value; a value is attached with
an equals sign, or is the next argument. What is fixed here:

* an option may come anywhere, and once only unless it is repeatable;
* after two dashes alone all arguments are operands; a dash alone is one everywhere;
* what begins with a dash and is no option is refused, but where the next operand may begin with a
  dash it is an operand, or the value that is waited for;
* short flags can be written together, and a value can follow its short option directly;
* the name of a subcommand, where an option does not wait for its value, ends the arguments of the
  command itself.
-/

namespace MotionTutor.Cli

/-! ## 1. Commands -/

/-- The values an option takes. -/
inductive Takes
  | nothing
  | text
  /-- A text that is not empty. -/
  | path
  /-- A whole number of 64 bits. -/
  | number
deriving DecidableEq, Repr

structure OptionSpec where
  name : String
  short : Option Char := none
  takes : Takes := .nothing
  repeatable : Bool := false
deriving DecidableEq, Repr

structure CommandSpec where
  options : List OptionSpec
  /-- For each operand, whether it may begin with a dash. -/
  operands : List Bool
  subcommands : List String := []
deriving DecidableEq, Repr

/-- Why there is nothing to run. -/
inductive Stop
  | help
  | version
  | misuse
deriving DecidableEq, Repr

/-- The number of a text: digits, with a plus sign or without. -/
def number? (s : String) : Option Nat :=
  let digits := match s.toList with
    | '+' :: cs => cs
    | cs => cs
  if digits ≠ [] ∧ digits.all Char.isDigit then
    let n := Decimal.valueOf digits
    if n < wordLimit then some n else none
  else none

/-- Whether a value is of the kind wanted. -/
def Takes.accepts : Takes → String → Bool
  | nothing, _ => false
  | text, _ => true
  | path, s => !s.isEmpty
  | number, s => (number? s).isSome

/-! ## 2. What was given -/

/-- Options by their names with their values, flags with none, and operands. -/
structure Given where
  options : List (String × Option String)
  operands : List String
deriving DecidableEq, Repr

namespace Given

def nothing : Given := ⟨[], []⟩

def has (g : Given) (name : String) : Bool := g.options.any (·.1 == name)

/-- The values of an option in their order. -/
def values (g : Given) (name : String) : List String :=
  g.options.filterMap fun o => if o.1 = name then o.2 else none

def value? (g : Given) (name : String) : Option String := (g.values name).head?

/-- Adds an option. The one for help and the one for the version end it all. -/
def addOption (g : Given) (o : OptionSpec) (value : Option String) : Except Stop Given :=
  if o.name = "help" then .error .help
  else if o.name = "version" then .error .version
  else if g.has o.name && !o.repeatable then .error .misuse
  else if value.all o.takes.accepts then
    .ok { g with options := g.options ++ [(o.name, value)] }
  else .error .misuse

/-- Adds an operand, if one is expected. -/
def addOperand (g : Given) (spec : CommandSpec) (operand : String) : Except Stop Given :=
  if g.operands.length < spec.operands.length then
    .ok { g with operands := g.operands ++ [operand] }
  else .error .misuse

/-- Whether the next operand may begin with a dash. -/
def admitsDash (g : Given) (spec : CommandSpec) : Bool :=
  spec.operands[g.operands.length]?.getD false

end Given

/-! ## 3. Single arguments -/

/-- The forms of arguments. -/
inductive Form
  | separator
  | long (name : String) (value : Option String)
  | short (letters : List Char)
  | plain
deriving DecidableEq, Repr

/-- Divides at the first equals sign. -/
def divide (cs : List Char) : String × Option String :=
  let name := String.ofList (cs.takeWhile (· ≠ '='))
  match cs.dropWhile (· ≠ '=') with
  | [] => (name, none)
  | _ :: value => (name, some (String.ofList value))

def Form.of (argument : String) : Form :=
  match argument.toList with
  | ['-', '-'] => .separator
  | '-' :: '-' :: cs => .long (divide cs).1 (divide cs).2
  | '-' :: c :: cs => .short (c :: cs)
  | _ => .plain

/-- What one argument did: an option waits for its value, or none does. -/
structure Step where
  given : Given
  waiting : Option OptionSpec

/-- An option with the value attached to it, if there is one. -/
def Step.ofOption (g : Given) (o : OptionSpec) (attached : Option String) : Except Stop Step :=
  match o.takes, attached with
  | .nothing, some _ => .error .misuse
  | .nothing, none => (g.addOption o none).map (⟨·, none⟩)
  | _, some value => (g.addOption o (some value)).map (⟨·, none⟩)
  | _, none => .ok ⟨g, some o⟩

namespace CommandSpec

variable (spec : CommandSpec)

def long? (name : String) : Option OptionSpec := spec.options.find? (·.name = name)

def short? (letter : Char) : Option OptionSpec := spec.options.find? (·.short = some letter)

/-- What follows a short option as its value. -/
def attachedTo : List Char → Option String
  | [] => none
  | '=' :: cs | cs => some (String.ofList cs)

/-- Short options written together. -/
def readShorts (g : Given) : List Char → Except Stop Step
  | [] => .ok ⟨g, none⟩
  | c :: cs =>
    match spec.short? c with
    | none => .error .misuse
    | some o =>
      if o.takes = .nothing then
        match g.addOption o none with
        | .error stop => .error stop
        | .ok g => readShorts g cs
      else Step.ofOption g o (attachedTo cs)

/-- A value that was waited for, or an operand. -/
def readPlain (s : Step) (argument : String) : Except Stop Step :=
  match s.waiting with
  | some o => (s.given.addOption o (some argument)).map (⟨·, none⟩)
  | none => (s.given.addOperand spec argument).map (⟨·, none⟩)

/-- One argument that is not the separator. An option cannot come where a value is waited for. -/
def readArgument (s : Step) (argument : String) : Except Stop Step :=
  match Form.of argument with
  | .long name attached =>
    match spec.long? name with
    | some o => if s.waiting.isSome then .error .misuse else Step.ofOption s.given o attached
    | none => if s.given.admitsDash spec then spec.readPlain s argument else .error .misuse
  | .short letters =>
    if s.given.admitsDash spec && letters.any fun c => (spec.short? c).isNone then
      spec.readPlain s argument
    else if s.waiting.isSome then .error .misuse
    else spec.readShorts s.given letters
  | .separator | .plain => spec.readPlain s argument

/-! ## 4. All arguments -/

/-- The arguments after the separator. -/
def readOperands (g : Given) : List String → Except Stop Given
  | [] => .ok g
  | argument :: rest =>
    match g.addOperand spec argument with
    | .error stop => .error stop
    | .ok g => readOperands g rest

/-- Reads the arguments of a command; with a subcommand, its name and its arguments are left. -/
def readFrom (s : Step) : List String → Except Stop (Given × Option (String × List String))
  | [] => if s.waiting.isSome then .error .misuse else .ok (s.given, none)
  | argument :: rest =>
    if s.waiting.isNone && spec.subcommands.contains argument then
      .ok (s.given, some (argument, rest))
    else if argument = "--" then
      if s.waiting.isSome then .error .misuse
      else (spec.readOperands s.given rest).map (·, none)
    else
      match spec.readArgument s argument with
      | .error stop => .error stop
      | .ok s => readFrom s rest

def read (arguments : List String) : Except Stop (Given × Option (String × List String)) :=
  spec.readFrom ⟨.nothing, none⟩ arguments

end CommandSpec

end MotionTutor.Cli
