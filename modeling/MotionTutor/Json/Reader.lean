import MotionTutor.Json.Numeral
import MotionTutor.Json.Text

/-!
# Reading JSON documents

`Value.parse?` reads a whole document: one value, with white space around it and nothing else. The
nesting of a value has no limit. The readers below it return what follows the part they read; the
number they recurse on is at least twice the length of the text, which no document exceeds.
-/

namespace MotionTutor.Json

/-- Space, tab, line feed and carriage return may stand between the parts of a document. -/
def isSpace (c : Char) : Bool := c == ' ' || c == '\n' || c == '\t' || c == '\r'

def skipSpace (cs : List Char) : List Char := cs.dropWhile isSpace

/-- A text as a value. -/
def Value.ofText? : Option String → Value
  | some s => .text s
  | none => .unreadable

/-- Members as an object, if all their names are texts. -/
def Value.ofMembers (members : List (Option String × Value)) : Value :=
  match members.mapM fun (name, v) => name.map (·, v) with
  | some members => .object members
  | none => .unreadable

/-- The name of a member with the colon after it. -/
def readName (cs : List Char) : Option (Option String × List Char) :=
  match skipSpace cs with
  | '"' :: cs =>
    match readText cs with
    | none => none
    | some (name, cs) =>
      match skipSpace cs with
      | ':' :: cs => some (name, cs)
      | _ => none
  | _ => none

mutual

/-- One value, white space before it skipped. -/
def readValue : Nat → List Char → Option (Value × List Char)
  | 0, _ => none
  | limit + 1, cs =>
    match skipSpace cs with
    | 'n' :: 'u' :: 'l' :: 'l' :: cs => some (.null, cs)
    | 't' :: 'r' :: 'u' :: 'e' :: cs => some (.bool true, cs)
    | 'f' :: 'a' :: 'l' :: 's' :: 'e' :: cs => some (.bool false, cs)
    | '"' :: cs => (readText cs).map fun (s, cs) => (.ofText? s, cs)
    | '[' :: cs =>
      match skipSpace cs with
      | ']' :: cs => some (.array [], cs)
      | cs => (readItems limit cs).map fun (items, cs) => (.array items, cs)
    | '\x7b' :: cs =>
      match skipSpace cs with
      | '\x7d' :: cs => some (.object [], cs)
      | cs => (readMembers limit cs).map fun (members, cs) => (.ofMembers members, cs)
    | cs =>
      (Numeral.read cs).map fun (n, cs) => (n.value.elim .unreadable .number, cs)

/-- The items of an array that has some, up to its closing bracket. -/
def readItems : Nat → List Char → Option (List Value × List Char)
  | 0, _ => none
  | limit + 1, cs =>
    match readValue limit cs with
    | none => none
    | some (v, cs) =>
      match skipSpace cs with
      | ',' :: cs => (readItems limit cs).map fun (items, cs) => (v :: items, cs)
      | ']' :: cs => some ([v], cs)
      | _ => none

/-- The members of an object that has some, up to its closing brace. -/
def readMembers : Nat → List Char → Option (List (Option String × Value) × List Char)
  | 0, _ => none
  | limit + 1, cs =>
    match readName cs with
    | none => none
    | some (name, cs) =>
      match readValue limit cs with
      | none => none
      | some (v, cs) =>
        match skipSpace cs with
        | ',' :: cs => (readMembers limit cs).map fun (members, cs) => ((name, v) :: members, cs)
        | '\x7d' :: cs => some ([(name, v)], cs)
        | _ => none

end

/-- The value of a document; none if the text is not one value. -/
def Value.parse? (s : String) : Option Value :=
  let cs := s.toList
  match readValue (2 * cs.length + 2) cs with
  | some (v, rest) => if skipSpace rest = [] then some v else none
  | none => none

end MotionTutor.Json
