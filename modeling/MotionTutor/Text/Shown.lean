/-!
# Values in words

How a value of several parts is shown on one line: a name with its fields between braces, a name
with one part in brackets, and a part that may be absent.
-/

namespace MotionTutor.Text

/-- The fields with their names. -/
def shownFields (fields : List (String × String)) : String :=
  ", ".intercalate (fields.map fun f => f.1 ++ ": " ++ f.2)

/-- A name with all its fields. -/
def shownRecord (name : String) (fields : List (String × String)) : String :=
  name ++ " \x7b " ++ shownFields fields ++ " \x7d"

/-- A name with some of its fields, and dots for the others. -/
def shownExcerpt (name : String) (fields : List (String × String)) : String :=
  name ++ " \x7b " ++ shownFields fields ++ ", .. \x7d"

/-- A name with one part. -/
def shownCase (name part : String) : String := name ++ "(" ++ part ++ ")"

def shownOption : Option String → String
  | none => "None"
  | some part => shownCase "Some" part

def shownBool (b : Bool) : String := if b then "true" else "false"

end MotionTutor.Text
