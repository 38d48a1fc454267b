import MotionTutor.Decimal.Digits
import MotionTutor.Decimal.Shortest
import MotionTutor.Json.Text
import MotionTutor.Json.Value

/-!
# Writing JSON documents

A document is written over several lines, one item or member a line, indented by two spaces a level;
an empty array or object stays on its line.

A fraction is written with the fewest digits that read back. It has a point and at least one decimal
if its leading digit stands between the fifth decimal and the sixteenth place before the point;
outside, an exponent with its sign follows. What is not a number has no numeral and is written as
null.
-/

namespace MotionTutor.Json

/-! ## 1. Numbers -/

/-- The exponents of the leading digit for which no exponent is written. -/
def isPositional (exponent : Int) : Bool := -5 ≤ exponent && exponent ≤ 15

/-- A decimal with a point. -/
def positional (digits : List Char) (exponent : Int) : List Char :=
  if exponent < 0 then
    ['0', '.'] ++ List.replicate (-exponent - 1).toNat '0' ++ digits
  else
    let places := exponent.toNat + 1
    let whole := digits.take places ++ List.replicate (places - digits.length) '0'
    let decimals := digits.drop places
    whole ++ '.' :: (if decimals = [] then ['0'] else decimals)

/-- A decimal with an exponent. -/
def exponential (digits : List Char) (exponent : Int) : List Char :=
  let sign := if exponent < 0 then '-' else '+'
  let point := if 1 < digits.length then '.' :: digits.drop 1 else []
  digits.take 1 ++ point ++ 'e' :: sign :: Decimal.digits exponent.natAbs

/-- The numeral of a fraction. -/
def fractionText : Decimal.Binary → List Char
  | .finite negative mantissa exponent =>
    let sign := if negative then ['-'] else []
    if mantissa = 0 then sign ++ ['0', '.', '0']
    else
      let s := Decimal.shortest mantissa exponent
      sign ++
        if isPositional s.exponent then positional s.digits s.exponent
        else exponential s.digits s.exponent
  | _ => ['n', 'u', 'l', 'l']

/-- The numeral of a number. -/
def Number.chars : Number → List Char
  | .whole n => (if n < 0 then ['-'] else []) ++ Decimal.digits n.natAbs
  | .fraction x => fractionText (.ofFloat x)

/-! ## 2. Documents -/

/-- A new line at a level. -/
def newLine (level : Nat) : List Char := '\n' :: List.replicate (2 * level) ' '

mutual

/-- A value that begins on a line at the given level. -/
def Value.chars (level : Nat) : Value → List Char
  | .null | .unreadable => ['n', 'u', 'l', 'l']
  | .bool true => ['t', 'r', 'u', 'e']
  | .bool false => ['f', 'a', 'l', 's', 'e']
  | .number n => n.chars
  | .text s => encode s.toList
  | .array [] => ['[', ']']
  | .array (v :: items) =>
    '[' :: newLine (level + 1) ++ v.chars (level + 1) ++ moreItems (level + 1) items ++
      newLine level ++ [']']
  | .object [] => ['\x7b', '\x7d']
  | .object ((name, v) :: members) =>
    '\x7b' :: newLine (level + 1) ++ encode name.toList ++ [':', ' '] ++ v.chars (level + 1) ++
      moreMembers (level + 1) members ++ newLine level ++ ['\x7d']

/-- The items after the first. -/
def moreItems (level : Nat) : List Value → List Char
  | [] => []
  | v :: items => ',' :: newLine level ++ v.chars level ++ moreItems level items

/-- The members after the first. -/
def moreMembers (level : Nat) : List (String × Value) → List Char
  | [] => []
  | (name, v) :: members =>
    ',' :: newLine level ++ encode name.toList ++ [':', ' '] ++ v.chars level ++
      moreMembers level members

end

/-- The document of a value. -/
def Value.render (v : Value) : String := String.ofList (v.chars 0)

end MotionTutor.Json
