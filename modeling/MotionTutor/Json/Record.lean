import MotionTutor.Json.Value
import MotionTutor.Limits
import MotionTutor.SortedMap

/-!
# Reading values as data

How a JSON value is read as a value of a known type; every reader gives none if the value does not
fit.

A record is written as an object or as an array of its fields in their order (`fields?`). An object
may hold other members, which are ignored, but none of the fields twice. An array may stop early but
not go on. A field that is missing takes its default if it has one (`optional`), and spoils the
record otherwise (`required`). Null is not a missing field: it fits only where a value may be absent
(`nullable?`).
-/

namespace MotionTutor.Json

namespace Value

/-! ## 1. Single values -/

/-- A whole number below a bound. -/
def natural? (bound : Nat) : Value → Option Nat
  | number (.whole n) => if 0 ≤ n ∧ n < bound then some n.toNat else none
  | _ => none

/-- A whole number of 64 bits with a sign. -/
def integer? : Value → Option Int
  | number (.whole n) => if -integerLimit ≤ n ∧ n < integerLimit then some n else none
  | _ => none

/-- A number as a binary fraction; a whole number is rounded to the nearest one. -/
def float? : Value → Option Float
  | number (.fraction x) => some x
  | number (.whole n) =>
    let size := (UInt64.ofNat n.natAbs).toFloat
    some (if n < 0 then -size else size)
  | _ => none

def bool? : Value → Option Bool
  | bool b => some b
  | _ => none

def text? : Value → Option String
  | text s => some s
  | _ => none

/-- An array of values that all fit. -/
def list? {α : Type} (read : Value → Option α) : Value → Option (List α)
  | array items => items.mapM read
  | _ => none

/-- An object as a map; of two members of one name both must fit and the later counts. -/
def map? {α : Type} (read : Value → Option α) : Value → Option (SortedMap α)
  | object members =>
    (members.mapM fun m => (read m.2).map (m.1, ·)).map SortedMap.ofList
  | _ => none

/-- Null, or a value that fits. -/
def nullable? {α : Type} (read : Value → Option α) : Value → Option (Option α)
  | null => some none
  | v => (read v).map some

/-- One of a set of names, given as a text or as the only member of an object, with null as its
value. -/
def name? {α : Type} (ofName? : String → Option α) : Value → Option α
  | text s => ofName? s
  | object [(s, null)] => ofName? s
  | _ => none

/-! ## 2. Records -/

/-- The values of the named fields in their order; none where a field is missing. -/
def fields? (names : List String) : Value → Option (List (Option Value))
  | object members =>
    if names.all (fun name => members.countP (·.1 == name) ≤ 1) then
      some (names.map fun name => members.lookup name)
    else none
  | array items =>
    if items.length ≤ names.length then
      some (items.map some ++ List.replicate (names.length - items.length) none)
    else none
  | _ => none

end Value

/-- A field that must be there. -/
def required {α : Type} (read : Value → Option α) (field : Option Value) : Option α :=
  field.bind read

/-- A field with a default. -/
def optional {α : Type} (default : α) (read : Value → Option α) : Option Value → Option α
  | none => some default
  | some v => read v

/-! ## 3. Writing -/

namespace Value

def ofNat (n : Nat) : Value := number (.whole n)

def ofInt (n : Int) : Value := number (.whole n)

def ofFloat (x : Float) : Value := number (.fraction x)

def ofTexts (texts : List String) : Value := array (texts.map text)

def ofMap {α : Type} (write : α → Value) (m : SortedMap α) : Value :=
  object (m.entries.map fun e => (e.1, write e.2))

def ofOption {α : Type} (write : α → Value) : Option α → Value
  | none => null
  | some x => write x

end Value

end MotionTutor.Json
