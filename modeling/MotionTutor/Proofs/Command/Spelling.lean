import MotionTutor.Command.Scanner

/-!
# How a command is spelled

Every motion, operator, object and command has keys that spell it; where several keys name the same
object, one of them is chosen. The readers of the parts understand these keys, whatever follows
them (`Motion.read_keys`, `TextObject.read_key`, `Operator.read?_keys`, `readCount_counted`), and
a motion is read from no other keys (`Motion.eq_keys_append_of_read`). None of the parts can be
taken for another one by its first key (`Motion.Leading`).
-/

namespace MotionTutor

/-! ## 1. The keys of the parts -/

/-- The key of a search; its target is the key after it. -/
def Search.key (s : Search) : Char :=
  match s.landing, s.direction with
  | .onTarget, .forward => 'f'
  | .onTarget, .backward => 'F'
  | .besideTarget, .forward => 't'
  | .besideTarget, .backward => 'T'

def Motion.keys : Motion → Keys
  | word .nextStart .small => ['w']
  | word .nextStart .big => ['W']
  | word .nextEnd .small => ['e']
  | word .nextEnd .big => ['E']
  | word .prevStart .small => ['b']
  | word .prevStart .big => ['B']
  | word .prevEnd .small => ['g', 'e']
  | word .prevEnd .big => ['g', 'E']
  | lineStart => ['0']
  | firstNonBlank => ['^']
  | lineEnd => ['$']
  | left => ['h']
  | right => ['l']
  | down => ['j']
  | up => ['k']
  | firstLine => ['g', 'g']
  | lastLine => ['G']
  | paragraphBackward => ['\x7b']
  | paragraphForward => ['\x7d']
  | nextLine => ['+']
  | prevLine => ['-']
  | currentLine => ['_']
  | search s => [s.key, s.target]
  | repeatSearch => [';']
  | repeatSearchReversed => [',']

/-- The key that doubles an operator: its only key, or the one after `g`. -/
def Operator.doublingKey : Operator → Char
  | visual => 'v'
  | delete => 'd'
  | change => 'c'
  | yank => 'y'
  | lowercase => 'u'
  | uppercase => 'U'

def Operator.keys : Operator → Keys
  | lowercase => ['g', 'u']
  | uppercase => ['g', 'U']
  | o => [o.doublingKey]

/-- The key of an object; a bracketed one is named by its opening bracket. -/
def ObjectKind.key : ObjectKind → Char
  | word .small => 'w'
  | word .big => 'W'
  | sentence => 's'
  | paragraph => 'p'
  | tag => 't'
  | quote mark => mark
  | pair opening _ => opening

/-- The key in front of an object. -/
def TextObject.leadingKey (around : Bool) : Char := if around then 'a' else 'i'

def TextObject.keys (o : TextObject) : Keys := [TextObject.leadingKey o.around, o.kind.key]

/-! ## 2. The keys of a token -/

/-- The keys of a command that is understood. -/
def Command.keys : Command → Keys
  | motion m => m.keys
  | object operator o => operator.elim [] Operator.keys ++ o.keys
  | operate operator m => operator.keys ++ m.keys
  | wholeLines operator => operator.keys ++ [operator.doublingKey]
  | toLineEnd operator => [operator.doublingKey.toUpper]
  | incomplete _ | unknown _ => []

/-- The count in decimal, then the command. -/
def Token.keys (t : Token) : Keys := t.count.elim [] Decimal.digits ++ t.command.keys

/-! ## 3. Counts -/

theorem not_count_of_isDigit_eq_false {c : Char} (h : c.isDigit = false) :
    ¬ ('1' ≤ c ∧ c ≤ '9') := by
  rintro ⟨h1, h9⟩
  have hc : c.isDigit = true := by
    rw [Char.isDigit, Bool.and_eq_true]
    exact ⟨decide_eq_true (Char.le_trans (by decide : '0' ≤ '1') h1), decide_eq_true h9⟩
  rw [h] at hc
  cases hc

/-- A count is a number from 1 to `maxCount`. -/
def IsCount (count : Option Nat) : Prop := ∀ n ∈ count, 1 ≤ n ∧ n ≤ maxCount

theorem isCount_none : IsCount none := nofun

theorem isCount_readCount (keys : Keys) : IsCount (readCount keys).1 := by
  unfold readCount
  split
  · exact isCount_none
  · rename_i c keys
    split
    · rename_i hc
      intro n hn
      cases hn
      refine ⟨Nat.le_min.mpr ⟨by decide, ?_⟩, Nat.min_le_left _ _⟩
      have h1 : 1 ≤ c.toNat - '0'.toNat := by
        have : '1'.toNat ≤ c.toNat := hc.1
        have e1 : '1'.toNat = 49 := rfl
        have e0 : '0'.toNat = 48 := rfl
        omega
      rw [Decimal.valueOf, Nat.ofDigitChars_cons, Nat.ofDigitChars_eq_ofDigitChars_zero,
        Nat.mul_zero, Nat.zero_add]
      have hpow : 1 ≤ 10 ^ (keys.takeWhile Char.isDigit).length := Nat.one_le_pow _ _ (by decide)
      have hmul := Nat.mul_le_mul hpow h1
      omega
    · exact isCount_none

/-- Counts that multiply make a count, and a count alone stays as it is. -/
theorem isCount_combineCounts {outer inner : Option Nat} (ho : IsCount outer) (hi : IsCount inner) :
    IsCount (combineCounts outer inner) := by
  have hone : ∀ {count : Option Nat}, IsCount count → 1 ≤ count.getD 1 := by
    intro count hc
    cases count with
    | none => exact Nat.le_refl 1
    | some n => exact (hc n rfl).1
  unfold combineCounts
  split
  · exact isCount_none
  · intro n hn
    cases hn
    have hmul := Nat.mul_le_mul (hone ho) (hone hi)
    exact ⟨Nat.le_min.mpr ⟨by decide, hmul⟩, Nat.min_le_left _ _⟩

theorem combineCounts_none {count : Option Nat} (h : IsCount count) :
    combineCounts count none = count := by
  cases count with
  | none => rfl
  | some n =>
    have hn : min maxCount (n * 1) = n := by
      rw [Nat.mul_one, Nat.min_eq_right (h n rfl).2]
    exact congrArg some hn

theorem combineCounts_none_left {count : Option Nat} (h : IsCount count) :
    combineCounts none count = count := by
  cases count with
  | none => rfl
  | some n =>
    have hn : min maxCount (1 * n) = n := by
      rw [Nat.one_mul, Nat.min_eq_right (h n rfl).2]
    exact congrArg some hn

theorem one_le_of_mem_some {n : Nat} (hn : 1 ≤ n) : ∀ k ∈ some n, 1 ≤ k := by
  intro k hk
  cases hk
  exact hn

/-- A number from 1 on makes a count, a larger one than the largest count makes this one. -/
theorem isCount_map_min {count : Option Nat} (h : ∀ n ∈ count, 1 ≤ n) :
    IsCount (count.map (min maxCount)) := by
  intro k hk
  obtain ⟨n, hn, rfl⟩ := Option.map_eq_some_iff.mp hk
  exact ⟨Nat.le_min.mpr ⟨by decide, h n hn⟩, Nat.min_le_left _ _⟩

theorem IsCount.map_min {count : Option Nat} (h : IsCount count) :
    count.map (min maxCount) = count := by
  cases count with
  | none => rfl
  | some n => exact congrArg some (Nat.min_eq_right (h n rfl).2)

/-- The keys do not go on with a digit. -/
def NoDigitAhead (keys : Keys) : Prop := ∀ c ∈ keys.head?, c.isDigit = false

theorem noDigitAhead_cons {c : Char} (hc : c.isDigit = false) (keys : Keys) :
    NoDigitAhead (c :: keys) := by
  intro d hd
  cases hd
  exact hc

theorem takeWhile_append_of_noDigitAhead {ds keys : Keys} (hds : ∀ c ∈ ds, c.isDigit = true)
    (h : NoDigitAhead keys) :
    (ds ++ keys).takeWhile Char.isDigit = ds ∧ (ds ++ keys).dropWhile Char.isDigit = keys := by
  have htake : keys.takeWhile Char.isDigit = [] ∧ keys.dropWhile Char.isDigit = keys := by
    cases keys with
    | nil => exact ⟨rfl, rfl⟩
    | cons c keys =>
      have hc : ¬ c.isDigit = true := by rw [h c rfl]; decide
      exact ⟨List.takeWhile_cons_of_neg hc, List.dropWhile_cons_of_neg hc⟩
  rw [List.takeWhile_append_of_pos hds, List.dropWhile_append_of_pos hds, htake.1, htake.2,
    List.append_nil]
  exact ⟨rfl, rfl⟩

/-- A count in decimal is read up to the largest one, if the keys after it do not go on with a
digit. -/
theorem readCount_digits {n : Nat} {keys : Keys} (hn : 1 ≤ n) (h : NoDigitAhead keys) :
    readCount (Decimal.digits n ++ keys) = (some (min maxCount n), keys) := by
  obtain ⟨c, ds, hds, hc⟩ := Decimal.digits_eq_cons hn
  have hmem : ∀ d ∈ ds, d.isDigit = true := fun d hd =>
    Decimal.isDigit_of_mem_digits (n := n) (by rw [hds]; exact List.mem_cons_of_mem c hd)
  have hval := Decimal.valueOf_digits n
  obtain ⟨htake, hdrop⟩ := takeWhile_append_of_noDigitAhead hmem h
  rw [hds] at hval ⊢
  rw [List.cons_append, readCount, if_pos hc, htake, hdrop, hval]

/-- Keys that do not go on with a digit have no count in front. -/
theorem readCount_of_not_count {c : Char} (keys : Keys) (hc : ¬ ('1' ≤ c ∧ c ≤ '9')) :
    readCount (c :: keys) = (none, c :: keys) := by
  rw [readCount, if_neg hc]

/-- **A count in decimal is read off the keys in front of which it stands**, if there is one. -/
theorem readCount_counted {count : Option Nat} {keys : Keys} (hcount : ∀ n ∈ count, 1 ≤ n)
    (h : NoDigitAhead keys) :
    readCount (count.elim [] Decimal.digits ++ keys) = (count.map (min maxCount), keys) := by
  cases count with
  | some n => exact readCount_digits (hcount n rfl) h
  | none =>
    cases keys with
    | nil => rfl
    | cons c keys => exact readCount_of_not_count keys (not_count_of_isDigit_eq_false (h c rfl))

/-- A count does not begin with a zero. -/
theorem head?_counted_ne_zero {count : Option Nat} {keys : Keys} (hcount : ∀ n ∈ count, 1 ≤ n)
    (h : NoDigitAhead keys) : (count.elim [] Decimal.digits ++ keys).head? ≠ some '0' := by
  intro hzero
  cases count with
  | none => exact absurd (h '0' hzero) (by decide)
  | some n =>
    obtain ⟨c, ds, hds, h1, -⟩ := Decimal.digits_eq_cons (hcount n rfl)
    rw [Option.elim, hds, List.cons_append, List.head?_cons] at hzero
    cases hzero
    exact absurd h1 (by decide)

/-! ## 4. Motions, operators and objects -/

/-- **A motion is read back from its keys**, whatever follows them. -/
theorem Motion.read_keys (m : Motion) (rest : Keys) :
    Motion.read (m.keys ++ rest) = .done m rest := by
  cases m with
  | word travel size => cases travel <;> cases size <;> rfl
  | search s =>
    obtain ⟨direction, landing, target⟩ := s
    cases direction <;> cases landing <;> rfl
  | _ => rfl

theorem Operator.doublingKey_mem (operator : Operator) :
    operator.doublingKey ∈ ['v', 'd', 'c', 'y', 'u', 'U'] := by
  cases operator <;> decide

/-- What the first key of a motion is not: a digit of a count, the key that doubles an operator, the
key that begins an object, or a command to the end of the line. -/
structure Motion.Leading (c : Char) : Prop where
  not_count : ¬ ('1' ≤ c ∧ c ≤ '9')
  not_doubling : c ∉ ['v', 'd', 'c', 'y', 'u', 'U']
  not_object : TextObject.aroundOfKey? c = none
  not_toLineEnd : Operator.toLineEnd? c = none

theorem Search.leading_key (s : Search) : Motion.Leading s.key := by
  obtain ⟨direction, landing, target⟩ := s
  cases direction with
  | forward =>
    cases landing with
    | onTarget => exact (⟨by decide, by decide, rfl, rfl⟩ : Motion.Leading 'f')
    | besideTarget => exact (⟨by decide, by decide, rfl, rfl⟩ : Motion.Leading 't')
  | backward =>
    cases landing with
    | onTarget => exact (⟨by decide, by decide, rfl, rfl⟩ : Motion.Leading 'F')
    | besideTarget => exact (⟨by decide, by decide, rfl, rfl⟩ : Motion.Leading 'T')

theorem Motion.keys_eq_cons (m : Motion) : ∃ c keys, m.keys = c :: keys ∧ Motion.Leading c := by
  cases m with
  | word travel size =>
    cases travel <;> cases size <;> exact ⟨_, _, rfl, by decide, by decide, rfl, rfl⟩
  | search s => exact ⟨_, _, rfl, s.leading_key⟩
  | _ => exact ⟨_, _, rfl, by decide, by decide, rfl, rfl⟩

/-- No operator stands in front of a motion. -/
theorem Operator.read?_motion_keys (m : Motion) (rest : Keys) :
    Operator.read? (m.keys ++ rest) = none := by
  cases m with
  | word travel size => cases travel <;> cases size <;> rfl
  | search s =>
    obtain ⟨direction, landing, target⟩ := s
    cases direction <;> cases landing <;> rfl
  | _ => rfl

/-- Only the motion to the start of the line begins with a digit. -/
theorem Motion.noDigitAhead_keys {m : Motion} (hm : m ≠ .lineStart) (rest : Keys) :
    NoDigitAhead (m.keys ++ rest) := by
  intro c hc
  cases m with
  | word travel size => cases travel <;> cases size <;> (cases hc; rfl)
  | search s =>
    obtain ⟨direction, landing, target⟩ := s
    cases direction <;> cases landing <;> (cases hc; rfl)
  | lineStart => exact absurd rfl hm
  | _ => cases hc; rfl

/-- **An operator is read back from its keys**, with the key that doubles it. -/
theorem Operator.read?_keys (operator : Operator) (rest : Keys) :
    Operator.read? (operator.keys ++ rest) = some (operator, operator.doublingKey, rest) := by
  cases operator <;> rfl

theorem Operator.noDigitAhead_keys (operator : Operator) (rest : Keys) :
    NoDigitAhead (operator.keys ++ rest) := by
  intro c hc
  cases operator <;> (cases hc; rfl)

/-- The quotes and the brackets of the command language. -/
def ObjectKind.IsListed : ObjectKind → Prop
  | quote mark => mark = '"' ∨ mark = '\'' ∨ mark = '\x60'
  | pair opening closing =>
    (opening, closing) = ('(', ')') ∨ (opening, closing) = ('[', ']') ∨
      (opening, closing) = ('\x7b', '\x7d') ∨ (opening, closing) = ('<', '>')
  | _ => True

theorem ObjectKind.ofKey?_key {kind : ObjectKind} (h : kind.IsListed) :
    ObjectKind.ofKey? kind.key = some kind := by
  cases kind with
  | word size => cases size <;> rfl
  | quote mark => rcases h with rfl | rfl | rfl <;> rfl
  | pair opening closing => rcases h with h | h | h | h <;> cases h <;> rfl
  | _ => rfl

theorem ObjectKind.isListed_of_ofKey? {c : Char} {kind : ObjectKind}
    (h : ObjectKind.ofKey? c = some kind) : kind.IsListed := by
  unfold ObjectKind.ofKey? at h
  split at h <;> cases h <;> simp [ObjectKind.IsListed]

theorem Operator.eq_of_toLineEnd? {c : Char} {operator : Operator}
    (h : Operator.toLineEnd? c = some operator) : operator = .delete ∨ operator = .change := by
  unfold Operator.toLineEnd? at h
  split at h <;> cases h
  · exact Or.inl rfl
  · exact Or.inr rfl

theorem Motion.keys_of_ofKey? {c : Char} {m : Motion} (h : Motion.ofKey? c = some m) :
    m.keys = [c] := by
  unfold Motion.ofKey? at h
  split at h <;> cases h <;> rfl

theorem Motion.keys_of_ofSecondKey? {c : Char} {m : Motion} (h : Motion.ofSecondKey? c = some m) :
    m.keys = ['g', c] := by
  unfold Motion.ofSecondKey? at h
  split at h <;> cases h <;> rfl

theorem Search.keys_of_ofKey? {c : Char} {aim : Char → Search} (h : Search.ofKey? c = some aim)
    (target : Char) : (Motion.search (aim target)).keys = [c, target] := by
  unfold Search.ofKey? at h
  split at h <;> cases h <;> rfl

/-- **A motion is read from its keys only.** -/
theorem Motion.eq_keys_append_of_read {m : Motion} {keys rest : Keys}
    (h : Motion.read keys = .done m rest) : keys = m.keys ++ rest := by
  cases keys with
  | nil => cases h
  | cons c keys =>
    simp only [Motion.read] at h
    cases hm : Motion.ofKey? c with
    | some m' =>
      simp only [hm] at h
      cases h
      rw [Motion.keys_of_ofKey? hm]
      rfl
    | none =>
      simp only [hm] at h
      split at h
      · cases h
      · rename_i aim target keys hs
        cases h
        rw [Search.keys_of_ofKey? hs]
        rfl
      · split at h
        · rename_i hg
          split at h
          · cases h
          · rename_i second keys
            cases hs : Motion.ofSecondKey? second with
            | some m' =>
              simp only [hs] at h
              cases h
              rw [Motion.keys_of_ofSecondKey? hs, hg]
              rfl
            | none =>
              simp only [hs] at h
              cases h
        · cases h

theorem Motion.eq_zero_of_read_lineStart {c : Char} {keys rest : Keys}
    (h : Motion.read (c :: keys) = .done .lineStart rest) : c = '0' :=
  (List.cons.inj (Motion.eq_keys_append_of_read h)).1

/-- **An object is read back from its key.** -/
theorem TextObject.read_key {o : TextObject} (h : o.kind.IsListed) (rest : Keys) :
    TextObject.read o.around (o.kind.key :: rest) = .done o rest := by
  rw [TextObject.read, ObjectKind.ofKey?_key h]

theorem TextObject.aroundOfKey?_leadingKey (around : Bool) :
    TextObject.aroundOfKey? (TextObject.leadingKey around) = some around := by
  cases around <;> rfl

theorem Operator.read?_leadingKey (around : Bool) (rest : Keys) :
    Operator.read? (TextObject.leadingKey around :: rest) = none := by
  cases around <;> rfl

theorem Operator.toLineEnd?_leadingKey (around : Bool) :
    Operator.toLineEnd? (TextObject.leadingKey around) = none := by
  cases around <;> rfl

theorem TextObject.noDigitAhead_leadingKey (around : Bool) (rest : Keys) :
    NoDigitAhead (leadingKey around :: rest) := by
  cases around with
  | false => exact noDigitAhead_cons (by decide) rest
  | true => exact noDigitAhead_cons (by decide) rest

theorem TextObject.leadingKey_ne_doublingKey (around : Bool) (operator : Operator) :
    TextObject.leadingKey around ≠ operator.doublingKey := by
  cases around <;> cases operator <;> decide

end MotionTutor
