import MotionTutor.Text.Printable

/-!
# Texts between quotes

A quoted text shows every character unambiguously. Zero, tab, line feed, carriage return, the
backslash and the quote itself are written with a backslash; a character that cannot be printed or
would combine with the one before it is written by its number.
-/

namespace MotionTutor.Text

/-- A character by its number in base sixteen. -/
def numbered (c : Char) : List Char := '\\' :: 'u' :: '\x7b' :: Nat.toDigits 16 c.toNat ++ ['\x7d']

/-- A character as it stands between quotes of the given kind. -/
def escaped (mark c : Char) : List Char :=
  match c with
  | '\x00' => ['\\', '0']
  | '\t' => ['\\', 't']
  | '\r' => ['\\', 'r']
  | '\n' => ['\\', 'n']
  | '\\' => ['\\', '\\']
  | c =>
    if c = mark then ['\\', c]
    else if isPrintable c then [c]
    else numbered c

/-- A text between double quotes. -/
def quoted (s : String) : String :=
  String.ofList ('"' :: s.toList.flatMap (escaped '"') ++ ['"'])

/-- A character between single quotes. -/
def quotedChar (c : Char) : String := String.ofList ('\'' :: escaped '\'' c ++ ['\''])

end MotionTutor.Text
