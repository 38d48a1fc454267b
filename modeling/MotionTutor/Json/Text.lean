/-!
# Texts of JSON documents

A text stands between quotes. `encode` escapes the quote, the backslash and the control characters,
and nothing else; `readText` also accepts every other escape, and refuses a control character that
is not escaped.

An escape by number names 16 bits. Two of them in a row that are the halves of a surrogate pair name
one character; a half on its own names none, and the text around it has no value.
-/

namespace MotionTutor.Json

/-! ## 1. Writing -/

/-- A hexadecimal digit. -/
def hexDigit (n : Nat) : Char := if n < 10 then Char.ofNat (48 + n) else Char.ofNat (87 + n)

/-- A character as it stands in a text. -/
def escape (c : Char) : List Char :=
  if c = '"' then ['\\', '"']
  else if c = '\\' then ['\\', '\\']
  else if c = '\n' then ['\\', 'n']
  else if c = '\r' then ['\\', 'r']
  else if c = '\t' then ['\\', 't']
  else if c = '\x08' then ['\\', 'b']
  else if c = '\x0c' then ['\\', 'f']
  else if c.toNat < 0x20 then
    ['\\', 'u', '0', '0', hexDigit (c.toNat / 16), hexDigit (c.toNat % 16)]
  else [c]

/-- A text with its quotes. -/
def encode (cs : List Char) : List Char := '"' :: cs.flatMap escape ++ ['"']

/-! ## 2. Reading -/

/-- What one character or escape of a text names. -/
inductive Piece
  | char (c : Char)
  /-- 16 bits given by number. -/
  | unit (n : Nat)
deriving DecidableEq, Repr

/-- The value of a hexadecimal digit. -/
def hexValue (c : Char) : Option Nat :=
  if '0' ≤ c ∧ c ≤ '9' then some (c.toNat - 48)
  else if 'a' ≤ c ∧ c ≤ 'f' then some (c.toNat - 87)
  else if 'A' ≤ c ∧ c ≤ 'F' then some (c.toNat - 55)
  else none

/-- The 16 bits of four hexadecimal digits. -/
def unitOf (a b c d : Char) : Option Nat := do
  let a ← hexValue a
  let b ← hexValue b
  let c ← hexValue c
  let d ← hexValue d
  return ((a * 16 + b) * 16 + c) * 16 + d

/-- The escapes of one letter. -/
def unescape : Char → Option Char
  | '"' => some '"'
  | '\\' => some '\\'
  | '/' => some '/'
  | 'b' => some '\x08'
  | 'f' => some '\x0c'
  | 'n' => some '\n'
  | 'r' => some '\r'
  | 't' => some '\t'
  | _ => none

/-- Reads up to the closing quote, and returns what follows it. -/
def readPieces : List Char → Option (List Piece × List Char)
  | '"' :: cs => some ([], cs)
  | '\\' :: 'u' :: a :: b :: c :: d :: cs =>
    match unitOf a b c d with
    | none => none
    | some n => (readPieces cs).map fun (pieces, rest) => (.unit n :: pieces, rest)
  | '\\' :: c :: cs =>
    match unescape c with
    | none => none
    | some c => (readPieces cs).map fun (pieces, rest) => (.char c :: pieces, rest)
  | c :: cs =>
    if c.toNat < 0x20 ∨ c = '\\' then none
    else (readPieces cs).map fun (pieces, rest) => (.char c :: pieces, rest)
  | [] => none

def isLeading (n : Nat) : Bool := 0xd800 ≤ n && n < 0xdc00

def isTrailing (n : Nat) : Bool := 0xdc00 ≤ n && n < 0xe000

/-- The text that the pieces spell; none if half a surrogate pair stands alone. -/
def spell : List Piece → Option (List Char)
  | [] => some []
  | .char c :: pieces => (spell pieces).map (c :: ·)
  | .unit n :: .unit m :: pieces =>
    if isLeading n then
      if isTrailing m then
        (spell pieces).map (Char.ofNat (0x10000 + (n - 0xd800) * 0x400 + (m - 0xdc00)) :: ·)
      else none
    else if isTrailing n then none
    else (spell (.unit m :: pieces)).map (Char.ofNat n :: ·)
  | .unit n :: pieces =>
    if isLeading n || isTrailing n then none else (spell pieces).map (Char.ofNat n :: ·)

/-- Reads a text after its opening quote: the text, or none in its place if it has no value, and
what follows the closing quote. -/
def readText (cs : List Char) : Option (Option String × List Char) :=
  (readPieces cs).map fun (pieces, rest) => ((spell pieces).map String.ofList, rest)

end MotionTutor.Json
