import MotionTutor.Proofs.Command.Extension
import MotionTutor.Proofs.Command.Spelling

/-!
# The command language

The tokens that can be understood are the well-formed ones (`Token.WellFormed`), and the keys that
spell them are read back as exactly these tokens (`Token.ofKeys_grammar`):

* a well-formed token in front of any keys is read off them unchanged (`scan_keys`), so nothing of
  it is taken for a part of its neighbours;
* the reader makes only well-formed tokens (`wellFormed_of_scan`).

Counts need not be well formed for that: a larger one is read as the largest, in front of a command
(`Token.ofKeys_counted_command`) and on both sides of an operator (`Token.ofKeys_operated`). An
object is named by any of its keys (`Token.ofKeys_object`).
-/

namespace MotionTutor

/-- The commands that ask nothing of their count, their operator or an object. -/
def Command.isPlain : Command → Bool
  | motion m => m ≠ .lineStart
  | object .. | toLineEnd _ => false
  | operate .. | wholeLines _ | incomplete _ | unknown _ => true

namespace Token

/-- What a token that is understood looks like: its count is a number from 1 to `maxCount`, the
motion to the start of the line has none, only delete and change reach to the end of the line by
one key, and an object is one of the command language. -/
structure WellFormed (t : Token) : Prop where
  count : IsCount t.count
  lineStart : t.command = .motion .lineStart → t.count = none
  toLineEnd : ∀ operator, t.command = .toLineEnd operator → operator = .delete ∨ operator = .change
  object : ∀ operator o, t.command = .object operator o → o.kind.IsListed

/-! ## 1. Spelled tokens are read back -/

theorem scanOperand_wholeLines (keys rest : Keys) (count : Option Nat) (operator : Operator) :
    scanOperand keys count operator operator.doublingKey (operator.doublingKey :: rest) =
      (⟨count, .wholeLines operator⟩, rest) := by
  rw [scanOperand, if_pos rfl]

theorem scanOperand_object (keys rest : Keys) (count : Option Nat) (operator : Operator)
    {o : TextObject} (ho : o.kind.IsListed) :
    scanOperand keys count operator operator.doublingKey (o.keys ++ rest) =
      (⟨count, .object (some operator) o⟩, rest) := by
  rw [TextObject.keys, List.cons_append, List.cons_append, List.nil_append, scanOperand,
    if_neg (TextObject.leadingKey_ne_doublingKey o.around operator),
    TextObject.aroundOfKey?_leadingKey]
  simp only [TextObject.read_key ho]

/-- A digit of a count is neither the key that doubles an operator nor one that begins an object. -/
theorem not_operand_of_count {c : Char} (hc : '1' ≤ c ∧ c ≤ '9') (operator : Operator) :
    c ≠ operator.doublingKey ∧ TextObject.aroundOfKey? c = none := by
  constructor
  · rintro rfl
    cases operator <;> exact absurd hc.2 (by decide)
  · unfold TextObject.aroundOfKey?
    split
    · exact absurd hc.2 (by decide)
    · exact absurd hc.2 (by decide)
    · rfl

/-- A motion behind an operator is read with its own count, if it has one. -/
theorem scanOperand_motion (keys rest : Keys) (outer inner : Option Nat) (operator : Operator)
    {m : Motion} (hinner : ∀ n ∈ inner, 1 ≤ n) (hline : m = .lineStart → inner = none) :
    scanOperand keys outer operator operator.doublingKey
        (inner.elim [] Decimal.digits ++ (m.keys ++ rest)) =
      (⟨combineCounts outer (inner.map (min maxCount)), .operate operator m⟩, rest) := by
  have hhead : ∃ c ks, inner.elim [] Decimal.digits ++ (m.keys ++ rest) = c :: ks ∧
      c ≠ operator.doublingKey ∧ TextObject.aroundOfKey? c = none := by
    cases inner with
    | none =>
      obtain ⟨c, ks, hm, hc⟩ := m.keys_eq_cons
      refine ⟨c, ks ++ rest, by rw [hm]; rfl, ?_, hc.not_object⟩
      rintro rfl
      exact hc.not_doubling operator.doublingKey_mem
    | some n =>
      obtain ⟨c, ds, hds, hc⟩ := Decimal.digits_eq_cons (hinner n rfl)
      exact ⟨c, ds ++ (m.keys ++ rest), by rw [Option.elim, hds]; rfl,
        not_operand_of_count hc operator⟩
  have hcount : readCount (inner.elim [] Decimal.digits ++ (m.keys ++ rest)) =
      (inner.map (min maxCount), m.keys ++ rest) := by
    by_cases hm : m = .lineStart
    · cases hline hm
      subst hm
      exact readCount_of_not_count rest (by decide)
    · exact readCount_counted hinner (Motion.noDigitAhead_keys hm rest)
  obtain ⟨c, ks, hkeys, hdouble, hobject⟩ := hhead
  rw [hkeys] at hcount ⊢
  rw [scanOperand, if_neg hdouble, hobject]
  simp only [hcount, m.read_keys rest]

/-- The command of a well-formed token is read off its keys. -/
theorem scanCommand_keys {t : Token} (ht : t.WellFormed) (hr : t.isRecognized = true)
    (keys rest : Keys) : scanCommand keys t.count (t.command.keys ++ rest) = (t, rest) := by
  obtain ⟨count, command⟩ := t
  cases command with
  | motion m =>
    obtain ⟨c, ks, hm, hc⟩ := m.keys_eq_cons
    have hop := Operator.read?_motion_keys m rest
    have hread := m.read_keys rest
    simp only [Command.keys, hm, List.cons_append] at hop hread ⊢
    simp only [scanCommand, hop, hc.not_toLineEnd, hc.not_object, hread]
  | object operator o =>
    have ho := ht.object operator o rfl
    cases operator with
    | none =>
      simp only [Command.keys, Option.elim, TextObject.keys, List.nil_append, List.cons_append]
      simp only [scanCommand, Operator.read?_leadingKey, Operator.toLineEnd?_leadingKey,
        TextObject.aroundOfKey?_leadingKey, TextObject.read_key ho]
    | some operator =>
      simp only [Command.keys, Option.elim, List.append_assoc, scanCommand, Operator.read?_keys]
      exact scanOperand_object keys rest count operator ho
  | operate operator m =>
    simp only [Command.keys, List.append_assoc, scanCommand, Operator.read?_keys]
    have hscan := scanOperand_motion keys rest count none operator (m := m) nofun fun _ => rfl
    rwa [Option.map_none, combineCounts_none ht.count] at hscan
  | wholeLines operator =>
    simp only [Command.keys, List.append_assoc, scanCommand, Operator.read?_keys]
    exact scanOperand_wholeLines keys rest count operator
  | toLineEnd operator =>
    rcases ht.toLineEnd operator rfl with rfl | rfl <;> rfl
  | incomplete keys => cases hr
  | unknown keys => cases hr

/-- A command that takes a count does not begin with a digit. -/
theorem noDigitAhead_command_keys {t : Token} (ht : t.WellFormed) (hr : t.isRecognized = true)
    (hline : t.command ≠ .motion .lineStart) (rest : Keys) :
    NoDigitAhead (t.command.keys ++ rest) := by
  obtain ⟨count, command⟩ := t
  cases command with
  | motion m => exact Motion.noDigitAhead_keys (fun hm => hline (hm ▸ rfl)) rest
  | object operator o =>
    cases operator with
    | none =>
      exact TextObject.noDigitAhead_leadingKey o.around _
    | some operator =>
      simp only [Command.keys, Option.elim, List.append_assoc]
      exact operator.noDigitAhead_keys _
  | operate operator m =>
    simp only [Command.keys, List.append_assoc]
    exact operator.noDigitAhead_keys _
  | wholeLines operator =>
    simp only [Command.keys, List.append_assoc]
    exact operator.noDigitAhead_keys _
  | toLineEnd operator =>
    intro c hc
    rcases ht.toLineEnd operator rfl with rfl | rfl <;> (cases hc; rfl)
  | incomplete keys => cases hr
  | unknown keys => cases hr

theorem command_keys_ne_nil {t : Token} (hr : t.isRecognized = true) : t.command.keys ≠ [] := by
  obtain ⟨count, command⟩ := t
  cases command with
  | motion m =>
    obtain ⟨c, ks, hm, -⟩ := m.keys_eq_cons
    rw [Command.keys, hm]
    exact List.cons_ne_nil c ks
  | object operator o => exact List.append_ne_nil_of_right_ne_nil _ (List.cons_ne_nil _ _)
  | operate operator m =>
    obtain ⟨c, ks, hm, -⟩ := m.keys_eq_cons
    rw [Command.keys, hm]
    exact List.append_ne_nil_of_right_ne_nil _ (List.cons_ne_nil c ks)
  | wholeLines operator => exact List.append_ne_nil_of_right_ne_nil _ (List.cons_ne_nil _ _)
  | toLineEnd operator => exact List.cons_ne_nil _ _
  | incomplete keys => cases hr
  | unknown keys => cases hr

/-- An optional count in decimal is read in front of a command. -/
theorem scan_counted {count : Option Nat} {keys : Keys} (hcount : ∀ n ∈ count, 1 ≤ n)
    (hne : keys ≠ []) (h : NoDigitAhead keys) :
    scan (count.elim [] Decimal.digits ++ keys) =
      some (scanCommand (count.elim [] Decimal.digits ++ keys)
        (count.map (min maxCount)) keys) := by
  have hread := readCount_counted hcount h
  have hzero := head?_counted_ne_zero hcount h
  have hall : count.elim [] Decimal.digits ++ keys ≠ [] := List.append_ne_nil_of_right_ne_nil _ hne
  generalize count.elim [] Decimal.digits ++ keys = all at hread hzero hall ⊢
  cases all with
  | nil => exact absurd rfl hall
  | cons c ks => rw [scan_cons fun hc => hzero (congrArg some hc), hread]

/-- **A well-formed token in front of any keys is read off them unchanged.** -/
theorem scan_keys {t : Token} (ht : t.WellFormed) (hr : t.isRecognized = true) (rest : Keys) :
    scan (t.keys ++ rest) = some (t, rest) := by
  by_cases hline : t.command = .motion .lineStart
  · obtain ⟨count, command⟩ := t
    cases hline
    cases ht.lineStart rfl
    rfl
  · have hahead := noDigitAhead_command_keys ht hr hline rest
    have hne := List.append_ne_nil_of_left_ne_nil (command_keys_ne_nil hr) rest
    have hscan := scan_counted (fun n hn => (ht.count n hn).1) hne hahead
    rw [ht.count.map_min, scanCommand_keys ht hr] at hscan
    rw [Token.keys, List.append_assoc]
    exact hscan

/-- **Spelled tokens in front of any keys are read off them as they are.** -/
theorem ofKeys_keys_append {ts : List Token} (h : ∀ t ∈ ts, t.isRecognized = true ∧ t.WellFormed)
    (rest : Keys) : ofKeys (ts.flatMap Token.keys ++ rest) = ts ++ ofKeys rest := by
  induction ts with
  | nil => rfl
  | cons t ts ih =>
    obtain ⟨hr, ht⟩ := h t List.mem_cons_self
    rw [List.flatMap_cons, List.append_assoc, ofKeys_of_scan (scan_keys ht hr _),
      ih fun u hu => h u (List.mem_cons_of_mem t hu), List.cons_append]

theorem ofKeys_keys {ts : List Token} (h : ∀ t ∈ ts, t.isRecognized = true ∧ t.WellFormed) :
    ofKeys (ts.flatMap Token.keys) = ts := by
  have happend := ofKeys_keys_append h []
  rwa [List.append_nil, ofKeys_nil, List.append_nil] at happend

/-! ## 2. Tokens that are read are well formed -/

theorem wellFormed_of_isPlain {t : Token} (h : IsCount t.count) (hp : t.command.isPlain = true) :
    t.WellFormed where
  count := h
  lineStart he := by rw [he] at hp; cases hp
  toLineEnd operator he := by rw [he] at hp; cases hp
  object operator o he := by rw [he] at hp; cases hp

theorem wellFormed_cutShort {keys : Keys} {count : Option Nat} (h : IsCount count) :
    (cutShort keys count).1.WellFormed := wellFormed_of_isPlain h rfl

theorem wellFormed_skipped (keys rest : Keys) : (skipped keys rest).1.WellFormed :=
  wellFormed_of_isPlain isCount_none rfl

theorem wellFormed_listed {count : Option Nat} {operator : Option Operator} {o : TextObject}
    (h : IsCount count) (ho : o.kind.IsListed) : WellFormed ⟨count, .object operator o⟩ where
  count := h
  lineStart he := by cases he
  toLineEnd operator' he := by cases he
  object operator' o' he := by cases he; exact ho

theorem wellFormed_toLineEnd {count : Option Nat} {operator : Operator} (h : IsCount count)
    (ho : operator = .delete ∨ operator = .change) : WellFormed ⟨count, .toLineEnd operator⟩ where
  count := h
  lineStart he := by cases he
  toLineEnd operator' he := by cases he; exact ho
  object operator' o he := by cases he

theorem wellFormed_lineStart : WellFormed ⟨none, .motion .lineStart⟩ where
  count := isCount_none
  lineStart _ := rfl
  toLineEnd operator he := by cases he
  object operator o he := by cases he

theorem wellFormed_object {count : Option Nat} {operator : Option Operator} {around : Bool}
    {o : TextObject} {keys rest : Keys} (h : IsCount count)
    (ho : TextObject.read around keys = .done o rest) :
    WellFormed ⟨count, .object operator o⟩ := by
  cases keys with
  | nil => cases ho
  | cons c keys =>
    rw [TextObject.read] at ho
    cases hk : ObjectKind.ofKey? c with
    | some kind =>
      rw [hk] at ho
      cases ho
      exact wellFormed_listed h (ObjectKind.isListed_of_ofKey? hk)
    | none =>
      rw [hk] at ho
      cases ho

theorem wellFormed_ofReading {α : Type} {count : Option Nat} {complete : α → Token}
    {reading : Reading α} (keys : Keys) (left : Keys → Keys) (h : IsCount count)
    (hdone : ∀ value rest, reading = .done value rest → (complete value).WellFormed) :
    (ofReading keys count complete left reading).1.WellFormed := by
  cases reading with
  | done value rest => exact hdone value rest rfl
  | unfinished => exact wellFormed_cutShort h
  | unrecognized rest => exact wellFormed_skipped keys (left rest)

theorem wellFormed_scanOperand {count : Option Nat} (keys : Keys) (operator : Operator)
    (double : Char) (body : Keys) (h : IsCount count) :
    (scanOperand keys count operator double body).1.WellFormed := by
  cases body with
  | nil => exact wellFormed_cutShort h
  | cons c rest =>
    have hboth := isCount_combineCounts h (isCount_readCount (c :: rest))
    rw [scanOperand_cons]
    split
    · exact wellFormed_of_isPlain h rfl
    · split
      · exact wellFormed_ofReading keys _ h fun _ _ hread => wellFormed_object h hread
      · exact wellFormed_ofReading keys _ h fun _ _ _ => wellFormed_of_isPlain hboth rfl

theorem wellFormed_scanCommand {count : Option Nat} (keys : Keys) {body : Keys} (h : IsCount count)
    (hbody : body.head? ≠ some '0') : (scanCommand keys count body).1.WellFormed := by
  cases ho : Operator.read? body with
  | some found =>
    obtain ⟨operator, double, rest⟩ := found
    rw [scanCommand_of_operator _ _ ho]
    exact wellFormed_scanOperand keys operator double rest h
  | none =>
    cases body with
    | nil => exact wellFormed_cutShort h
    | cons c rest =>
      rw [scanCommand_cons _ _ ho]
      split
      · rename_i operator hline
        exact wellFormed_toLineEnd h (Operator.eq_of_toLineEnd? hline)
      · split
        · exact wellFormed_ofReading keys _ h fun _ _ hread => wellFormed_object h hread
        · refine wellFormed_ofReading keys _ h fun m behind hread => ?_
          have hm : m ≠ .lineStart := by
            rintro rfl
            exact hbody (congrArg some (Motion.eq_zero_of_read_lineStart hread))
          exact wellFormed_of_isPlain h (decide_eq_true hm)

/-- The keys after a count do not begin with a zero, if the keys before it do not. -/
theorem head?_readCount_ne_zero {c : Char} (keys : Keys) (hc : c ≠ '0') :
    (readCount (c :: keys)).2.head? ≠ some '0' := by
  rw [readCount]
  split
  · intro h
    have hd := List.head?_dropWhile_not Char.isDigit keys
    rw [h] at hd
    cases hd
  · exact fun h => hc (Option.some.inj h)

theorem wellFormed_of_scan {keys rest : Keys} {t : Token} (h : scan keys = some (t, rest)) :
    t.WellFormed := by
  cases keys with
  | nil => cases h
  | cons c keys =>
    by_cases hc : c = '0'
    · subst hc
      cases h
      exact wellFormed_lineStart
    · rw [scan_cons hc] at h
      have hs := Option.some.inj h
      have hwf := wellFormed_scanCommand (c :: keys) (isCount_readCount (c :: keys))
        (head?_readCount_ne_zero keys hc)
      rw [hs] at hwf
      exact hwf

/-- **Every token that is read is well formed.** -/
theorem wellFormed_of_mem_ofKeys {keys : Keys} : ∀ t ∈ ofKeys keys, t.WellFormed := by
  induction keys using reading_induction with
  | nil =>
    intro t ht
    rw [ofKeys_nil] at ht
    cases ht
  | pending keys u h hu =>
    intro t ht
    rw [ofKeys_of_scan h, ofKeys_nil, List.mem_singleton] at ht
    exact ht ▸ wellFormed_of_scan h
  | settled keys u rest h hu ih =>
    intro t ht
    rw [ofKeys_of_scan h] at ht
    rcases List.mem_cons.mp ht with rfl | ht
    · exact wellFormed_of_scan h
    · exact ih t ht

/-- The keys of a command, behind a count of any size if there is one, are read as the command with
a count that is at most the largest one. -/
theorem ofKeys_counted_command {count : Option Nat} {c : Command} (hcount : ∀ n ∈ count, 1 ≤ n)
    (hwf : WellFormed ⟨count.map (min maxCount), c⟩) (hr : (⟨none, c⟩ : Token).isRecognized = true)
    (hline : c ≠ .motion .lineStart) (rest : Keys) :
    ofKeys (count.elim [] Decimal.digits ++ c.keys ++ rest) =
      ⟨count.map (min maxCount), c⟩ :: ofKeys rest := by
  have hne := List.append_ne_nil_of_left_ne_nil (command_keys_ne_nil hr) rest
  have hscan := scan_counted hcount hne (noDigitAhead_command_keys hwf hr hline rest)
  have hcommand := scanCommand_keys hwf hr (count.elim [] Decimal.digits ++ (c.keys ++ rest)) rest
  rw [List.append_assoc]
  exact ofKeys_of_scan (hscan.trans (congrArg some hcommand))

/-- The keys of a motion, behind a count if there is one, are one command, whose count is at most
the largest one. -/
theorem ofKeys_motion (count : Option Nat) {m : Motion} (hcount : ∀ n ∈ count, 1 ≤ n)
    (hline : m = .lineStart → count = none) (rest : Keys) :
    ofKeys (count.elim [] Decimal.digits ++ m.keys ++ rest) =
      ⟨count.map (min maxCount), .motion m⟩ :: ofKeys rest := by
  by_cases hm : m = .lineStart
  · cases hline hm
    subst hm
    exact ofKeys_of_scan (scan_keys wellFormed_lineStart rfl rest)
  · have hwf : WellFormed ⟨count.map (min maxCount), .motion m⟩ :=
      wellFormed_of_isPlain (isCount_map_min hcount) (decide_eq_true hm)
    exact ofKeys_counted_command hcount hwf rfl (fun h => hm (Command.motion.inj h)) rest

theorem ofKeys_counted {m : Motion} (hm : m ≠ .lineStart) {n : Nat} (hn : 1 ≤ n) (rest : Keys) :
    ofKeys (Decimal.digits n ++ m.keys ++ rest) =
      ⟨some (min maxCount n), .motion m⟩ :: ofKeys rest :=
  ofKeys_motion (some n) (one_le_of_mem_some hn) (fun h => absurd h hm) rest

/-- **An operator and its motion are one command**, the counts before and after the operator make
one count. -/
theorem ofKeys_operated (outer inner : Option Nat) (operator : Operator) {m : Motion}
    (houter : ∀ n ∈ outer, 1 ≤ n) (hinner : ∀ n ∈ inner, 1 ≤ n)
    (hline : m = .lineStart → inner = none) (rest : Keys) :
    ofKeys (outer.elim [] Decimal.digits ++ operator.keys ++
        (inner.elim [] Decimal.digits ++ m.keys) ++ rest) =
      ⟨combineCounts (outer.map (min maxCount)) (inner.map (min maxCount)),
        .operate operator m⟩ :: ofKeys rest := by
  have hne : operator.keys ++ (inner.elim [] Decimal.digits ++ (m.keys ++ rest)) ≠ [] := by
    cases operator <;> exact List.cons_ne_nil _ _
  have hscan := scan_counted houter hne (operator.noDigitAhead_keys _)
  rw [scanCommand_of_operator _ _ (operator.read?_keys _),
    scanOperand_motion _ rest _ inner operator hinner hline] at hscan
  simp only [List.append_assoc]
  exact ofKeys_of_scan hscan

/-- The keys of an object, behind an operator if there is one, are one command; any of the keys that
name its kind will do. -/
theorem ofKeys_object {key : Char} {kind : ObjectKind} (operator : Option Operator)
    (around : Bool) (hkey : ObjectKind.ofKey? key = some kind) (rest : Keys) :
    ofKeys (operator.elim [] Operator.keys ++ [TextObject.leadingKey around, key] ++ rest) =
      ⟨none, .object operator ⟨around, kind⟩⟩ :: ofKeys rest := by
  have hread : TextObject.read around (key :: rest) = .done ⟨around, kind⟩ rest := by
    rw [TextObject.read, hkey]
  have hcount : ∀ n ∈ (none : Option Nat), 1 ≤ n := fun n hn => absurd hn (Option.not_mem_none n)
  rw [List.append_assoc]
  cases operator with
  | none =>
    have hahead := TextObject.noDigitAhead_leadingKey around (key :: rest)
    have hscan := scan_counted hcount (List.cons_ne_nil _ _) hahead
    refine ofKeys_of_scan (hscan.trans ?_)
    simp only [scanCommand, Operator.read?_leadingKey, Operator.toLineEnd?_leadingKey,
      TextObject.aroundOfKey?_leadingKey, hread]
    rfl
  | some operator =>
    have hne : operator.keys ++ TextObject.leadingKey around :: key :: rest ≠ [] :=
      List.append_ne_nil_of_right_ne_nil _ (List.cons_ne_nil _ _)
    have hscan := scan_counted hcount hne (operator.noDigitAhead_keys _)
    refine ofKeys_of_scan (hscan.trans ?_)
    rw [scanCommand_of_operator _ _ (operator.read?_keys _), scanOperand,
      if_neg (TextObject.leadingKey_ne_doublingKey around operator)]
    simp only [TextObject.aroundOfKey?_leadingKey, hread]
    rfl

/-- **The reader understands exactly the command language**: the keys of well-formed tokens that
are understood are read back as these tokens, and every token that is understood is well formed. -/
theorem ofKeys_grammar :
    (∀ ts : List Token, (∀ t ∈ ts, t.isRecognized = true ∧ t.WellFormed) →
      ofKeys (ts.flatMap Token.keys) = ts) ∧
    (∀ keys : Keys, ∀ t ∈ ofKeys keys, t.isRecognized = true → t.WellFormed) :=
  ⟨fun _ h => ofKeys_keys h, fun _ t ht _ => wellFormed_of_mem_ofKeys t ht⟩

/-- Neighbours that could run into each other: a digit as a target, a zero after it, and counts. -/
theorem ofKeys_grammar_close_neighbours :
    let ts : List Token :=
      [⟨some 20, .operate .delete (.search ⟨.forward, .onTarget, '3'⟩)⟩, ⟨none, .motion .lineStart⟩,
        ⟨some 3, .object none ⟨false, .quote '"'⟩⟩, ⟨none, .wholeLines .lowercase⟩]
    (∀ t ∈ ts, t.isRecognized = true ∧ t.WellFormed) ∧ ofKeys (ts.flatMap Token.keys) = ts := by
  intro ts
  have h : ∀ t ∈ ts, t.isRecognized = true ∧ t.WellFormed := by
    have count : ∀ n ∈ [3, 20], IsCount (some n) := by
      intro n hn m hm
      cases hm
      exact (by decide : ∀ n ∈ [3, 20], 1 ≤ n ∧ n ≤ maxCount) n hn
    intro t ht
    simp only [ts, List.mem_cons, List.not_mem_nil, or_false] at ht
    rcases ht with rfl | rfl | rfl | rfl
    · exact ⟨rfl, wellFormed_of_isPlain (count 20 (by decide)) rfl⟩
    · exact ⟨rfl, wellFormed_lineStart⟩
    · exact ⟨rfl, wellFormed_listed (count 3 (by decide)) (Or.inl rfl)⟩
    · exact ⟨rfl, wellFormed_of_isPlain isCount_none rfl⟩
  exact ⟨h, ofKeys_grammar.1 ts h⟩

end Token

end MotionTutor
