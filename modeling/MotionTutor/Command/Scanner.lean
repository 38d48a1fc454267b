import MotionTutor.Command
import MotionTutor.Decimal.Digits
import MotionTutor.Limits

/-!
# Reading keystrokes as commands

`Token.scan` reads one token off the front of the keys and returns the keys it leaves;
`Token.ofKeys` reads until none are left. What is fixed here:

* a count is a digit other than zero and the digits after it, and stops growing at `maxCount`; a
  zero in front is the motion to the start of the line and takes no count;
* a command cut short by the end of the keys is one incomplete token that holds all of them;
* an operator followed by keys that name neither itself, an object nor a motion is one unknown
  token, and the keys after the operator are read anew;
* every token takes at least one key (`Token.scan_shorter`), so reading ends.
-/

namespace MotionTutor

/-! ## 1. Counts -/

/-- The largest count. -/
def maxCount : Nat := wordLimit - 1

/-- The count at the front of the keys and the keys after it. -/
def readCount : Keys → Option Nat × Keys
  | [] => (none, [])
  | c :: keys =>
    if '1' ≤ c ∧ c ≤ '9' then
      (some (min maxCount (Decimal.valueOf (c :: keys.takeWhile Char.isDigit))),
        keys.dropWhile Char.isDigit)
    else (none, c :: keys)

/-- The count of an operator and the count of its motion multiply. -/
def combineCounts : Option Nat → Option Nat → Option Nat
  | none, none => none
  | outer, inner => some (min maxCount (outer.getD 1 * inner.getD 1))

/-! ## 2. The keys of motions, operators and objects -/

/-- The motions of one key. -/
def Motion.ofKey? : Char → Option Motion
  | 'w' => some (.word .nextStart .small)
  | 'W' => some (.word .nextStart .big)
  | 'e' => some (.word .nextEnd .small)
  | 'E' => some (.word .nextEnd .big)
  | 'b' => some (.word .prevStart .small)
  | 'B' => some (.word .prevStart .big)
  | '0' => some .lineStart
  | '^' => some .firstNonBlank
  | '$' => some .lineEnd
  | 'h' => some .left
  | 'l' => some .right
  | 'j' => some .down
  | 'k' => some .up
  | 'G' => some .lastLine
  | '\x7b' => some .paragraphBackward
  | '\x7d' => some .paragraphForward
  | '+' => some .nextLine
  | '-' => some .prevLine
  | '_' => some .currentLine
  | ';' => some .repeatSearch
  | ',' => some .repeatSearchReversed
  | _ => none

/-- The motions of `g` and a second key. -/
def Motion.ofSecondKey? : Char → Option Motion
  | 'g' => some .firstLine
  | 'e' => some (.word .prevEnd .small)
  | 'E' => some (.word .prevEnd .big)
  | _ => none

/-- The searches, which wait for a target. -/
def Search.ofKey? : Char → Option (Char → Search)
  | 'f' => some (⟨.forward, .onTarget, ·⟩)
  | 'F' => some (⟨.backward, .onTarget, ·⟩)
  | 't' => some (⟨.forward, .besideTarget, ·⟩)
  | 'T' => some (⟨.backward, .besideTarget, ·⟩)
  | _ => none

/-- The operators of one key. -/
def Operator.ofKey? : Char → Option Operator
  | 'v' => some .visual
  | 'd' => some .delete
  | 'c' => some .change
  | 'y' => some .yank
  | _ => none

/-- The operator at the front of the keys, the key that doubles it, and the keys after it. -/
def Operator.read? : Keys → Option (Operator × Char × Keys)
  | 'g' :: 'u' :: keys => some (.lowercase, 'u', keys)
  | 'g' :: 'U' :: keys => some (.uppercase, 'U', keys)
  | c :: keys => (Operator.ofKey? c).map (·, c, keys)
  | [] => none

/-- The operators that reach to the end of the line by one key. -/
def Operator.toLineEnd? : Char → Option Operator
  | 'D' => some .delete
  | 'C' => some .change
  | _ => none

/-- The keys that begin an object: its inside, or the object with what is around it. -/
def TextObject.aroundOfKey? : Char → Option Bool
  | 'i' => some false
  | 'a' => some true
  | _ => none

def ObjectKind.ofKey? : Char → Option ObjectKind
  | 'w' => some (.word .small)
  | 'W' => some (.word .big)
  | 's' => some .sentence
  | 'p' => some .paragraph
  | 't' => some .tag
  | '"' => some (.quote '"')
  | '\'' => some (.quote '\'')
  | '\x60' => some (.quote '\x60')
  | '(' | ')' | 'b' => some (.pair '(' ')')
  | '[' | ']' => some (.pair '[' ']')
  | '\x7b' | '\x7d' | 'B' => some (.pair '\x7b' '\x7d')
  | '<' | '>' => some (.pair '<' '>')
  | _ => none

/-! ## 3. One token -/

/-- What reading a part of a command comes to. -/
inductive Reading (α : Type)
  | done (value : α) (rest : Keys)
  /-- The keys ended too early. -/
  | unfinished
  /-- The keys name nothing; `rest` is what follows the keys to skip. -/
  | unrecognized (rest : Keys)
deriving DecidableEq, Repr

/-- Reads a motion without its count. -/
def Motion.read : Keys → Reading Motion
  | [] => .unfinished
  | c :: keys =>
    match Motion.ofKey? c with
    | some m => .done m keys
    | none =>
      match Search.ofKey? c, keys with
      | some _, [] => .unfinished
      | some aim, target :: keys => .done (.search (aim target)) keys
      | none, keys =>
        if c = 'g' then
          match keys with
          | [] => .unfinished
          | second :: keys =>
            match Motion.ofSecondKey? second with
            | some m => .done m keys
            | none => .unrecognized keys
        else .unrecognized keys

/-- Reads an object after the key that says whether to take what is around it. -/
def TextObject.read (around : Bool) : Keys → Reading TextObject
  | [] => .unfinished
  | c :: keys =>
    match ObjectKind.ofKey? c with
    | some kind => .done ⟨around, kind⟩ keys
    | none => .unrecognized (c :: keys)

namespace Token

/-- A command cut short: it takes all the keys. -/
def cutShort (keys : Keys) (count : Option Nat) : Token × Keys := (⟨count, .incomplete keys⟩, [])

/-- Keys that name nothing: those before `rest`, the count among them. -/
def skipped (keys rest : Keys) : Token × Keys :=
  (⟨none, .unknown (keys.take (keys.length - rest.length))⟩, rest)

/-- Reads what follows an operator: the key that doubles it, an object, or a counted motion. `keys`
is the whole token from its count on, `body` what follows the operator. -/
def scanOperand (keys : Keys) (count : Option Nat) (operator : Operator) (double : Char)
    (body : Keys) : Token × Keys :=
  match body with
  | [] => cutShort keys count
  | c :: rest =>
    if c = double then (⟨count, .wholeLines operator⟩, rest)
    else
      match TextObject.aroundOfKey? c with
      | some around =>
        match TextObject.read around rest with
        | .done object rest => (⟨count, .object (some operator) object⟩, rest)
        | .unfinished => cutShort keys count
        | .unrecognized _ => skipped keys body
      | none =>
        match Motion.read (readCount body).2 with
        | .done m rest => (⟨combineCounts count (readCount body).1, .operate operator m⟩, rest)
        | .unfinished => cutShort keys count
        | .unrecognized _ => skipped keys body

/-- Reads the command after a count. -/
def scanCommand (keys : Keys) (count : Option Nat) (body : Keys) : Token × Keys :=
  match Operator.read? body with
  | some (operator, double, rest) => scanOperand keys count operator double rest
  | none =>
    match body with
    | [] => cutShort keys count
    | c :: rest =>
      match Operator.toLineEnd? c with
      | some operator => (⟨count, .toLineEnd operator⟩, rest)
      | none =>
        match TextObject.aroundOfKey? c with
        | some around =>
          match TextObject.read around rest with
          | .done object rest => (⟨count, .object none object⟩, rest)
          | .unfinished => cutShort keys count
          | .unrecognized _ => skipped keys rest
        | none =>
          match Motion.read body with
          | .done m rest => (⟨count, .motion m⟩, rest)
          | .unfinished => cutShort keys count
          | .unrecognized rest => skipped keys rest

/-- Reads one token and returns the keys it leaves; there is none if there are no keys. -/
def scan : Keys → Option (Token × Keys)
  | [] => none
  | '0' :: keys => some (⟨none, .motion .lineStart⟩, keys)
  | keys => some (scanCommand keys (readCount keys).1 (readCount keys).2)

end Token

/-! ## 4. All tokens -/

theorem length_readCount_le (keys : Keys) : (readCount keys).2.length ≤ keys.length := by
  unfold readCount
  split
  · simp
  · split
    · exact Nat.le_succ_of_le (List.dropWhile_sublist _).length_le
    · exact Nat.le_refl _

theorem Operator.length_read?_lt {keys rest : Keys} {operator : Operator} {double : Char}
    (h : Operator.read? keys = some (operator, double, rest)) : rest.length < keys.length := by
  unfold Operator.read? at h
  split at h <;> grind [Option.map_eq_some_iff]

theorem Motion.length_read_lt {keys rest : Keys} :
    (∀ m, Motion.read keys = .done m rest → rest.length < keys.length) ∧
      (Motion.read keys = .unrecognized rest → rest.length < keys.length) := by
  unfold Motion.read
  constructor <;> intros <;> grind

theorem TextObject.length_read_lt {around : Bool} {keys rest : Keys} {o : TextObject}
    (h : TextObject.read around keys = .done o rest) : rest.length < keys.length := by
  unfold TextObject.read at h
  grind

namespace Token

theorem length_scanOperand_lt {keys body : Keys} (count : Option Nat) (operator : Operator)
    (double : Char) (h : body.length < keys.length) :
    (scanOperand keys count operator double body).2.length < keys.length := by
  unfold scanOperand
  split
  · simp only [cutShort, List.length_nil]; omega
  · rename_i c rest
    simp only [List.length_cons] at h
    split
    · exact Nat.lt_of_succ_lt h
    · split
      · split
        · rename_i hread
          have := TextObject.length_read_lt hread
          dsimp only; omega
        · simp only [cutShort, List.length_nil]; omega
        · simpa [skipped] using h
      · split
        · rename_i m rest' hread
          have := Motion.length_read_lt.1 m hread
          have := length_readCount_le (c :: rest)
          simp only [List.length_cons] at this
          dsimp only; omega
        · simp only [cutShort, List.length_nil]; omega
        · simpa [skipped] using h

theorem length_scanCommand_lt {keys body : Keys} (count : Option Nat)
    (hk : 0 < keys.length) (h : body.length ≤ keys.length) :
    (scanCommand keys count body).2.length < keys.length := by
  unfold scanCommand
  split
  · rename_i hread
    have := Operator.length_read?_lt hread
    exact length_scanOperand_lt _ _ _ (by omega)
  · split
    · simpa [cutShort] using hk
    · rename_i c rest
      simp only [List.length_cons] at h
      split
      · dsimp only; omega
      · split
        · split
          · rename_i hread
            have := TextObject.length_read_lt hread
            dsimp only; omega
          · simpa [cutShort] using hk
          · simp only [skipped]; omega
        · split
          · rename_i hread
            have := Motion.length_read_lt.1 _ hread
            simp only [List.length_cons] at this
            dsimp only; omega
          · simpa [cutShort] using hk
          · rename_i hread
            have := Motion.length_read_lt.2 hread
            simp only [List.length_cons] at this
            simp only [skipped]; omega

/-- **A token takes at least one key.** -/
theorem scan_shorter {keys rest : Keys} {t : Token} (h : scan keys = some (t, rest)) :
    rest.length < keys.length := by
  unfold scan at h
  split at h
  · simp at h
  · simp only [Option.some.injEq, Prod.mk.injEq] at h
    simp [h.2]
  · rename_i hne _
    simp only [Option.some.injEq] at h
    have hlt := length_scanCommand_lt (readCount keys).1
      (List.length_pos_iff.2 hne) (length_readCount_le keys)
    rwa [h] at hlt

/-- The tokens of a sequence of keys. -/
def ofKeys (keys : Keys) : List Token :=
  match _scanned : scan keys with
  | none => []
  | some (t, rest) => t :: ofKeys rest
termination_by keys.length
decreasing_by exact scan_shorter _scanned

/-! ## 5. Keys that can still become a command -/

/-- The keys that begin a command. -/
def leadingKeys : Keys := "wWeEbB0^$fFtThljkgG\x7b\x7d+-_;,dcyvDCia".toList

/-- Whether the keys are digits only, or digits and a key that begins a command. -/
def isValidPrefix (keys : Keys) : Bool :=
  match keys.dropWhile Char.isDigit with
  | [] => true
  | c :: _ => leadingKeys.contains c

end Token

end MotionTutor
