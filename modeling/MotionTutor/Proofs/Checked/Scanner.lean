import MotionTutor.Proofs.Checked.Basic
import MotionTutor.Proofs.Command.Extension

/-!
# Reading keystrokes by places

The keys are read by a place that moves through them, and the text of a token is cut out between
two places. Looking ahead never faults, a cut may: its ends have to be in order and on the keys.
They always are, and the tokens are the ones that are read from the keys that are left
(`tokensFrom_eq`): the keys left at a place are `keys.drop place`, and a token that leaves `rest`
leaves the place `keys.length - rest.length`.
-/

namespace MotionTutor.Checked

/-! ## 1. Parts of a command -/

/-- What reading a part of a command at a place comes to. -/
inductive Step (α : Type)
  | done (value : α) (next : Nat)
  | unfinished
  /-- The keys name nothing; `width` is how many of them to skip. -/
  | unknown (width : Nat)

/-- The count at a place, and the place behind it. -/
def countAt (keys : Keys) (place : Nat) : Option Nat × Nat :=
  match (readCount (keys.drop place)).1 with
  | some n => (some n, place + runFrom Char.isDigit keys place)
  | none => (none, place)

/-- The motion at a place, without its count. -/
def motionAt (keys : Keys) (place : Nat) : Step Motion :=
  match keys[place]? with
  | none => .unfinished
  | some c =>
    match Motion.ofKey? c with
    | some m => .done m (place + 1)
    | none =>
      match Search.ofKey? c with
      | some aim =>
        match keys[place + 1]? with
        | none => .unfinished
        | some target => .done (.search (aim target)) (place + 2)
      | none =>
        if c = 'g' then
          match keys[place + 1]? with
          | none => .unfinished
          | some second =>
            match Motion.ofSecondKey? second with
            | some m => .done m (place + 2)
            | none => .unknown 2
        else .unknown 1

/-- The object whose key is at a place. -/
def objectAt (keys : Keys) (around : Bool) (place : Nat) : Step TextObject :=
  match keys[place]? with
  | none => .unfinished
  | some c =>
    match ObjectKind.ofKey? c with
    | some kind => .done ⟨around, kind⟩ (place + 1)
    | none => .unknown 0

/-! ## 2. One token -/

/-- A command cut short takes the keys from `start` to the end. -/
def cutShortAt (keys : Keys) (start : Nat) (count : Option Nat) : Checked (Token × Nat) := do
  let held ← slice keys start keys.length
  return (⟨count, .incomplete held⟩, keys.length)

/-- Keys that name nothing are skipped from `start` to `stop`. -/
def skipAt (keys : Keys) (start stop : Nat) : Checked (Token × Nat) := do
  let skipped ← slice keys start stop
  return (⟨none, .unknown skipped⟩, stop)

/-- What a command comes to when a part of it has been read; keys that name nothing are skipped up
to the place that `left` tells. -/
def ofStep {α : Type} (keys : Keys) (start : Nat) (count : Option Nat) (complete : α → Token)
    (left : Nat → Nat) : Step α → Checked (Token × Nat)
  | .done value next => return (complete value, next)
  | .unfinished => cutShortAt keys start count
  | .unknown width => skipAt keys start (left width)

/-- Reads what follows an operator; `place` is the place behind its keys. -/
def operandAt (keys : Keys) (start place : Nat) (operator : Operator) (double : Char)
    (count : Option Nat) : Checked (Token × Nat) :=
  match keys[place]? with
  | none => cutShortAt keys start count
  | some c =>
    if c = double then return (⟨count, .wholeLines operator⟩, place + 1)
    else
      match TextObject.aroundOfKey? c with
      | some around =>
        ofStep keys start count (fun o => ⟨count, .object (some operator) o⟩) (fun _ => place)
          (objectAt keys around (place + 1))
      | none =>
        ofStep keys start count
          (fun m => ⟨combineCounts count (countAt keys place).1, .operate operator m⟩)
          (fun _ => place) (motionAt keys (countAt keys place).2)

/-- Reads the command at `place`; `start` is the place of its count. -/
def commandAt (keys : Keys) (start place : Nat) (count : Option Nat) : Checked (Token × Nat) :=
  match keys[place]? with
  | none => cutShortAt keys start count
  | some c =>
    if c = 'g' ∧ keys[place + 1]? = some 'u' then
      operandAt keys start (place + 2) .lowercase 'u' count
    else if c = 'g' ∧ keys[place + 1]? = some 'U' then
      operandAt keys start (place + 2) .uppercase 'U' count
    else
      match Operator.ofKey? c with
      | some operator => operandAt keys start (place + 1) operator c count
      | none =>
        match Operator.toLineEnd? c with
        | some operator => return (⟨count, .toLineEnd operator⟩, place + 1)
        | none =>
          match TextObject.aroundOfKey? c with
          | some around =>
            ofStep keys start count (fun o => ⟨count, .object none o⟩) (fun _ => place + 1)
              (objectAt keys around (place + 1))
          | none =>
            ofStep keys start count (fun m => ⟨count, .motion m⟩)
              (fun width => min (place + width) keys.length) (motionAt keys place)

/-- Reads the token at a place, and the place behind it; there is none at the end of the keys. -/
def scanAt (keys : Keys) (start : Nat) : Checked (Option (Token × Nat)) :=
  match keys[start]? with
  | none => return none
  | some c =>
    if c = '0' then return some (⟨none, .motion .lineStart⟩, start + 1)
    else return some (← commandAt keys start (countAt keys start).2 (countAt keys start).1)

/-! ## 3. Places and the keys that are left -/

variable {keys : Keys} {start place : Nat}

/-- The step at a place is the reading of the keys that are left there. -/
inductive Step.Reads {α : Type} (keys : Keys) (place : Nat) : Step α → Reading α → Prop
  | done (value : α) {next : Nat} (h : next ≤ keys.length) :
    Reads keys place (.done value next) (.done value (keys.drop next))
  | unfinished : Reads keys place .unfinished .unfinished
  | unknown {width : Nat} (h : place + width ≤ keys.length) :
    Reads keys place (.unknown width) (.unrecognized (keys.drop (place + width)))

/-- A token is read without a fault, and leaves the keys that it should leave. -/
def ReadsAs (keys : Keys) (result : Checked (Token × Nat)) (scanned : Token × Keys) : Prop :=
  ∃ next ≤ keys.length, result = .ok (scanned.1, next) ∧ scanned.2 = keys.drop next

/-- At the end no keys are left, before it a key and the keys behind it. -/
theorem drop_eq_of_getElem? {c : Char} (h : keys[place]? = some c) :
    place < keys.length ∧ keys.drop place = c :: keys.drop (place + 1) := by
  obtain ⟨hlt, rfl⟩ := List.getElem?_eq_some_iff.mp h
  exact ⟨hlt, List.drop_eq_getElem_cons hlt⟩

theorem drop_eq_nil_of_getElem? (h : keys[place]? = none) : keys.drop place = [] :=
  List.drop_eq_nil_of_le (List.getElem?_eq_none_iff.mp h)

theorem countAt_reads (h : place ≤ keys.length) :
    (countAt keys place).1 = (readCount (keys.drop place)).1 ∧
      place ≤ (countAt keys place).2 ∧ (countAt keys place).2 ≤ keys.length ∧
      (readCount (keys.drop place)).2 = keys.drop (countAt keys place).2 := by
  cases hk : keys[place]? with
  | none =>
    have hdrop := drop_eq_nil_of_getElem? hk
    rw [countAt, hdrop]
    exact ⟨rfl, Nat.le_refl _, h, hdrop.symm⟩
  | some c =>
    obtain ⟨hlt, hdrop⟩ := drop_eq_of_getElem? hk
    by_cases hc : '1' ≤ c ∧ c ≤ '9'
    · have hd : c.isDigit = true := by
        rw [Char.isDigit, Bool.and_eq_true]
        exact ⟨decide_eq_true (Char.le_trans (by decide : '0' ≤ '1') hc.1), decide_eq_true hc.2⟩
      have hle := add_runFrom_le Char.isDigit h
      have hrun : keys.drop (place + runFrom Char.isDigit keys place) =
          (keys.drop (place + 1)).dropWhile Char.isDigit := by
        have hsplit := List.takeWhile_append_dropWhile (p := Char.isDigit) (l := keys.drop place)
        have hleft := congrArg (List.drop (runFrom Char.isDigit keys place)) hsplit
        rw [runFrom, List.drop_left, List.drop_drop] at hleft
        rw [runFrom, ← hleft, hdrop, List.dropWhile_cons_of_pos hd]
      rw [countAt, hdrop, readCount, if_pos hc]
      exact ⟨rfl, Nat.le_add_right _ _, hle, hrun.symm⟩
    · rw [countAt, hdrop, readCount, if_neg hc]
      exact ⟨rfl, Nat.le_refl _, h, hdrop.symm⟩

theorem motionAt_reads (keys : Keys) (place : Nat) :
    (motionAt keys place).Reads keys place (Motion.read (keys.drop place)) := by
  cases hk : keys[place]? with
  | none =>
    rw [motionAt, hk, drop_eq_nil_of_getElem? hk]
    exact .unfinished
  | some c =>
    obtain ⟨hlt, hdrop⟩ := drop_eq_of_getElem? hk
    simp only [motionAt, hk, hdrop, Motion.read]
    cases Motion.ofKey? c with
    | some m => exact .done m hlt
    | none =>
      cases hsecond : keys[place + 1]? with
      | none =>
        have hend := drop_eq_nil_of_getElem? hsecond
        rw [hend]
        cases Search.ofKey? c with
        | some aim => exact .unfinished
        | none =>
          by_cases hc : c = 'g'
          · simp only [if_pos hc]
            exact .unfinished
          · simp only [if_neg hc]
            rw [← hend]
            exact .unknown hlt
      | some second =>
        obtain ⟨hlt2, hdrop2⟩ := drop_eq_of_getElem? hsecond
        rw [hdrop2]
        cases Search.ofKey? c with
        | some aim => exact .done _ hlt2
        | none =>
          by_cases hc : c = 'g'
          · simp only [if_pos hc]
            cases Motion.ofSecondKey? second with
            | some m => exact .done m hlt2
            | none => exact .unknown hlt2
          · simp only [if_neg hc]
            rw [← hdrop2]
            exact .unknown hlt

theorem objectAt_reads (around : Bool) (h : place ≤ keys.length) :
    (objectAt keys around place).Reads keys place (TextObject.read around (keys.drop place)) := by
  cases hk : keys[place]? with
  | none =>
    rw [objectAt, hk, drop_eq_nil_of_getElem? hk]
    exact .unfinished
  | some c =>
    obtain ⟨hlt, hdrop⟩ := drop_eq_of_getElem? hk
    simp only [objectAt, hk, hdrop, TextObject.read]
    cases ObjectKind.ofKey? c with
    | some kind => exact .done _ hlt
    | none =>
      rw [← hdrop]
      exact .unknown h

/-! ## 4. Tokens -/

theorem cutShortAt_reads (count : Option Nat) (h : start ≤ keys.length) :
    ReadsAs keys (cutShortAt keys start count) (Token.cutShort (keys.drop start) count) := by
  refine ⟨keys.length, Nat.le_refl _, ?_, (List.drop_length).symm⟩
  rw [cutShortAt, slice_of_le h (Nat.le_refl _), List.take_length]
  rfl

theorem skipAt_reads {stop : Nat} (h : start ≤ stop) (hstop : stop ≤ keys.length) :
    ReadsAs keys (skipAt keys start stop) (Token.skipped (keys.drop start) (keys.drop stop)) := by
  refine ⟨stop, hstop, ?_, rfl⟩
  have hlen : (keys.drop start).length - (keys.drop stop).length = stop - start := by
    rw [List.length_drop, List.length_drop]
    omega
  rw [skipAt, slice_of_le h hstop, List.drop_take, Token.skipped, hlen]
  rfl

theorem ofStep_reads {α : Type} {count : Option Nat} {complete : α → Token} {left : Nat → Nat}
    {left' : Keys → Keys} {step : Step α} {reading : Reading α} (h : start ≤ keys.length)
    (hread : step.Reads keys place reading)
    (hleft : ∀ width, place + width ≤ keys.length → start ≤ left width ∧ left width ≤ keys.length ∧
      left' (keys.drop (place + width)) = keys.drop (left width)) :
    ReadsAs keys (ofStep keys start count complete left step)
      (Token.ofReading (keys.drop start) count complete left' reading) := by
  cases hread with
  | done value hnext => exact ⟨_, hnext, rfl, rfl⟩
  | unfinished => exact cutShortAt_reads count h
  | unknown hwidth =>
    obtain ⟨hstart, hstop, heq⟩ := hleft _ hwidth
    rw [ofStep, Token.ofReading, heq]
    exact skipAt_reads hstart hstop

theorem operandAt_reads (operator : Operator) (double : Char) (count : Option Nat)
    (h : start ≤ place) (hplace : place ≤ keys.length) :
    ReadsAs keys (operandAt keys start place operator double count)
      (Token.scanOperand (keys.drop start) count operator double (keys.drop place)) := by
  have hstart := Nat.le_trans h hplace
  cases hk : keys[place]? with
  | none =>
    rw [operandAt, hk, drop_eq_nil_of_getElem? hk]
    exact cutShortAt_reads count hstart
  | some c =>
    obtain ⟨hlt, hdrop⟩ := drop_eq_of_getElem? hk
    rw [operandAt, hk, hdrop, Token.scanOperand_cons, ← hdrop]
    dsimp only
    split
    · exact ⟨place + 1, hlt, rfl, rfl⟩
    · cases TextObject.aroundOfKey? c with
      | some around =>
        exact ofStep_reads hstart (objectAt_reads around hlt) fun _ _ => ⟨h, hplace, rfl⟩
      | none =>
        obtain ⟨hcount, -, -, hleft⟩ := countAt_reads hplace
        dsimp only
        rw [hcount, hleft]
        exact ofStep_reads hstart (motionAt_reads keys _) fun _ _ => ⟨h, hplace, rfl⟩

/-- The operator in front of the keys that are left, by the one or two keys that name it. -/
theorem read?_drop {c : Char} (h : keys[place]? = some c) :
    Operator.read? (keys.drop place) =
      if c = 'g' ∧ keys[place + 1]? = some 'u' then some (.lowercase, 'u', keys.drop (place + 2))
      else if c = 'g' ∧ keys[place + 1]? = some 'U' then
        some (.uppercase, 'U', keys.drop (place + 2))
      else (Operator.ofKey? c).map (·, c, keys.drop (place + 1)) := by
  obtain ⟨-, hdrop⟩ := drop_eq_of_getElem? h
  rw [hdrop]
  by_cases hc : c = 'g'
  · subst hc
    cases hsecond : keys[place + 1]? with
    | none =>
      rw [drop_eq_nil_of_getElem? hsecond, if_neg (by rintro ⟨-, ⟨⟩⟩), if_neg (by rintro ⟨-, ⟨⟩⟩)]
      rfl
    | some d =>
      obtain ⟨-, hdrop2⟩ := drop_eq_of_getElem? hsecond
      rw [hdrop2, Operator.read?_g_cons]
      simp only [true_and, Option.some.injEq]
      rfl
  · rw [Operator.read?_cons hc, if_neg (fun h => hc h.1), if_neg (fun h => hc h.1)]

theorem commandAt_reads (count : Option Nat) (h : start ≤ place) (hplace : place ≤ keys.length) :
    ReadsAs keys (commandAt keys start place count)
      (Token.scanCommand (keys.drop start) count (keys.drop place)) := by
  have hstart := Nat.le_trans h hplace
  cases hk : keys[place]? with
  | none =>
    rw [commandAt, hk, drop_eq_nil_of_getElem? hk]
    exact cutShortAt_reads count hstart
  | some c =>
    obtain ⟨hlt, hdrop⟩ := drop_eq_of_getElem? hk
    have hsecond : ∀ {d : Char}, c = 'g' ∧ keys[place + 1]? = some d → place + 2 ≤ keys.length :=
      fun hd => (drop_eq_of_getElem? hd.2).1
    have hoperator := read?_drop hk
    rw [commandAt, hk]
    dsimp only
    by_cases hu : c = 'g' ∧ keys[place + 1]? = some 'u'
    · rw [if_pos hu] at hoperator ⊢
      rw [Token.scanCommand_of_operator _ _ hoperator]
      exact operandAt_reads _ _ count (by omega) (hsecond hu)
    · by_cases hU : c = 'g' ∧ keys[place + 1]? = some 'U'
      · rw [if_neg hu, if_pos hU] at hoperator ⊢
        rw [Token.scanCommand_of_operator _ _ hoperator]
        exact operandAt_reads _ _ count (by omega) (hsecond hU)
      · rw [if_neg hu, if_neg hU] at hoperator ⊢
        cases ho : Operator.ofKey? c with
        | some operator =>
          rw [ho, Option.map_some] at hoperator
          rw [Token.scanCommand_of_operator _ _ hoperator]
          exact operandAt_reads _ _ count (by omega) hlt
        | none =>
          rw [ho, Option.map_none, hdrop] at hoperator
          rw [hdrop, Token.scanCommand_cons _ _ hoperator, ← hdrop]
          dsimp only
          cases Operator.toLineEnd? c with
          | some operator => exact ⟨place + 1, hlt, rfl, rfl⟩
          | none =>
            cases TextObject.aroundOfKey? c with
            | some around =>
              exact ofStep_reads hstart (objectAt_reads around hlt)
                fun _ _ => ⟨Nat.le_succ_of_le h, hlt, rfl⟩
            | none =>
              refine ofStep_reads hstart (motionAt_reads keys place) fun width hwidth => ?_
              rw [Nat.min_eq_left hwidth]
              exact ⟨by omega, hwidth, rfl⟩

/-- **Every cut of the keys is in range**: the token at a place is read without a fault, it is the
one that is read from the keys left there, and the place behind it is on the keys. -/
theorem scanAt_reads (h : place ≤ keys.length) :
    (Token.scan (keys.drop place) = none ∧ scanAt keys place = .ok none) ∨
      ∃ t next, next ≤ keys.length ∧ Token.scan (keys.drop place) = some (t, keys.drop next) ∧
        scanAt keys place = .ok (some (t, next)) := by
  cases hk : keys[place]? with
  | none =>
    rw [scanAt, hk, drop_eq_nil_of_getElem? hk]
    exact Or.inl ⟨rfl, rfl⟩
  | some c =>
    obtain ⟨hlt, hdrop⟩ := drop_eq_of_getElem? hk
    right
    by_cases hc : c = '0'
    · rw [scanAt, hk, hdrop, hc]
      exact ⟨_, place + 1, hlt, rfl, rfl⟩
    · obtain ⟨hcount, hge, hle, hleft⟩ := countAt_reads h
      obtain ⟨next, hnext, hcommand, hrest⟩ :=
        commandAt_reads (countAt keys place).1 hge hle
      rw [hcount, ← hleft] at hcommand hrest
      refine ⟨(Token.scanCommand (keys.drop place) (readCount (keys.drop place)).1
        (readCount (keys.drop place)).2).1, next, hnext, ?_, ?_⟩
      · rw [hdrop, Token.scan_cons hc, ← hdrop, ← hrest]
      · simp only [scanAt, hk, if_neg hc, hcount, hcommand]
        rfl

/-! ## 5. All tokens -/

/-- The place behind a token is further on. -/
theorem lt_of_scanAt {next : Nat} {t : Token} (h : scanAt keys place = .ok (some (t, next))) :
    keys.length - next < keys.length - place := by
  have hlt : place < keys.length := by
    cases hk : keys[place]? with
    | none =>
      rw [scanAt, hk] at h
      cases h
    | some c => exact (drop_eq_of_getElem? hk).1
  rcases scanAt_reads (Nat.le_of_lt hlt) with ⟨-, hnone⟩ | ⟨t', next', -, hscan, hsome⟩
  · rw [hnone] at h
    cases h
  · rw [hsome] at h
    cases h
    have hshorter := Token.scan_shorter hscan
    rwa [List.length_drop, List.length_drop] at hshorter

/-- Reads the tokens from a place on. -/
def tokensFrom (keys : Keys) (place : Nat) : Checked (List Token) :=
  match _scanned : scanAt keys place with
  | .error fault => .error fault
  | .ok none => return []
  | .ok (some (t, next)) => return t :: (← tokensFrom keys next)
termination_by keys.length - place
decreasing_by exact lt_of_scanAt _scanned

theorem tokensFrom_of_none (h : scanAt keys place = .ok none) : tokensFrom keys place = .ok [] := by
  rw [tokensFrom]
  split
  · rename_i hs
    rw [h] at hs
    cases hs
  · rfl
  · rename_i hs
    rw [h] at hs
    cases hs

theorem tokensFrom_of_some {t : Token} {next : Nat} (h : scanAt keys place = .ok (some (t, next))) :
    tokensFrom keys place = (t :: ·) <$> tokensFrom keys next := by
  rw [tokensFrom]
  split
  · rename_i hs
    rw [h] at hs
    cases hs
  · rename_i hs
    rw [h] at hs
    cases hs
  · rename_i hs
    rw [h] at hs
    cases hs
    rfl

/-- **Reading the keys never faults**, and comes to the tokens of the keys. -/
theorem tokensFrom_eq (h : place ≤ keys.length) :
    tokensFrom keys place = .ok (Token.ofKeys (keys.drop place)) := by
  induction hn : keys.length - place using Nat.strongRecOn generalizing place with
  | ind n ih =>
    rcases scanAt_reads h with ⟨hscan, hread⟩ | ⟨t, next, hnext, hscan, hread⟩
    · have hnil : keys.drop place = [] := Decidable.byContradiction fun hne => by
        obtain ⟨t, rest, hsome⟩ := Token.scan_isSome hne
        rw [hscan] at hsome
        cases hsome
      rw [tokensFrom_of_none hread, hnil, Token.ofKeys_nil]
    · have hrest := ih (keys.length - next) (hn ▸ lt_of_scanAt hread) hnext rfl
      rw [tokensFrom_of_some hread, Token.ofKeys_of_scan hscan, hrest]
      rfl

end MotionTutor.Checked
