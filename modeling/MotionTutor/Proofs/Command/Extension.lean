import MotionTutor.Command.Scanner

/-!
# More keys behind

What has been read stays read when more keys follow:

* a part of a command that was read to its end, or refused, is read the same way with `more` keys
  behind it (`Reading.extend`); only a part that ended too early may turn into something else;
* hence a token that was not cut short is the same token with more keys behind it (`scan_append`);
* a token that was not understood tells what it took (`Token.Outcome`): one that was cut short holds
  all the keys (`scan_of_pending`), any other the keys before those it leaves (`scan_of_unknown`);
* **reading is incremental** (`ofKeys_incremental`): the tokens of `a ++ b` are the settled tokens
  of `a`, followed by the tokens of the keys that `a` left pending with `b` behind them.
-/

namespace MotionTutor

/-! ## 1. Parts of a command -/

/-- The same reading with `more` keys behind the ones read. -/
def Reading.extend {α : Type} (more : Keys) : Reading α → Reading α
  | done value rest => done value (rest ++ more)
  | unfinished => unfinished
  | unrecognized rest => unrecognized (rest ++ more)

/-- A count is over once a key follows it. -/
theorem readCount_append {keys : Keys} (more : Keys) (h : (readCount keys).2 ≠ []) :
    readCount (keys ++ more) = ((readCount keys).1, (readCount keys).2 ++ more) := by
  cases keys with
  | nil => exact absurd rfl h
  | cons c keys =>
    simp only [readCount, List.cons_append] at h ⊢
    split
    · rename_i hc
      rw [if_pos hc] at h
      have hdrop : (keys.dropWhile Char.isDigit).isEmpty = false := by simpa using h
      -- a digit run that stops inside `keys` is not all of `keys`
      have htake : (keys.takeWhile Char.isDigit).length ≠ keys.length := by
        have hsplit := List.takeWhile_append_dropWhile (p := Char.isDigit) (l := keys)
        have hsum := congrArg List.length hsplit
        have hpos : 0 < (keys.dropWhile Char.isDigit).length := List.length_pos_iff.mpr h
        rw [List.length_append] at hsum
        omega
      rw [List.takeWhile_append, if_neg htake, List.dropWhile_append, hdrop]
      rfl
    · rfl

theorem Operator.read?_cons {c : Char} (hg : c ≠ 'g') (keys : Keys) :
    Operator.read? (c :: keys) = (Operator.ofKey? c).map (·, c, keys) := by
  unfold Operator.read?
  split
  · rename_i h; cases h; exact absurd rfl hg
  · rename_i h; cases h; exact absurd rfl hg
  · rename_i h; cases h; rfl
  · rename_i h; cases h

/-- After `g` the second key decides. -/
theorem Operator.read?_g_cons (c : Char) (keys : Keys) :
    Operator.read? ('g' :: c :: keys) =
      if c = 'u' then some (.lowercase, 'u', keys)
      else if c = 'U' then some (.uppercase, 'U', keys) else none := by
  unfold Operator.read?
  split
  · rename_i h; cases h; rfl
  · rename_i h; cases h; rfl
  · rename_i hu hU h
    cases h
    have hu : c ≠ 'u' := by rintro rfl; exact hu _ rfl rfl
    have hU : c ≠ 'U' := by rintro rfl; exact hU _ rfl rfl
    rw [if_neg hu, if_neg hU]
    rfl
  · rename_i h; cases h

theorem Operator.read?_append {c : Char} {keys : Keys} (more : Keys) (hg : c = 'g' → keys ≠ []) :
    Operator.read? (c :: keys ++ more) =
      (Operator.read? (c :: keys)).map fun (o, double, rest) => (o, double, rest ++ more) := by
  by_cases hc : c = 'g'
  · subst hc
    cases keys with
    | nil => exact absurd rfl (hg rfl)
    | cons d keys =>
      rw [List.cons_append, List.cons_append, read?_g_cons, read?_g_cons]
      split
      · rfl
      · split <;> rfl
  · rw [List.cons_append, read?_cons hc, read?_cons hc, Option.map_map]
    rfl

theorem Motion.read_append {keys : Keys} (more : Keys) (h : Motion.read keys ≠ .unfinished) :
    Motion.read (keys ++ more) = (Motion.read keys).extend more := by
  cases keys with
  | nil => exact absurd rfl h
  | cons c keys =>
    simp only [Motion.read, List.cons_append] at h ⊢
    cases hm : Motion.ofKey? c with
    | some m => rfl
    | none =>
      simp only [hm] at h
      cases hs : Search.ofKey? c with
      | some aim =>
        cases keys with
        | nil => simp only [hs] at h; exact absurd rfl h
        | cons target keys => rfl
      | none =>
        simp only [hs] at h ⊢
        by_cases hc : c = 'g'
        · simp only [if_pos hc] at h ⊢
          cases keys with
          | nil => exact absurd rfl h
          | cons second keys =>
            simp only [List.cons_append]
            cases Motion.ofSecondKey? second with
            | some m => rfl
            | none => rfl
        · simp only [if_neg hc]
          rfl

theorem TextObject.read_append {around : Bool} {keys : Keys} (more : Keys)
    (h : TextObject.read around keys ≠ .unfinished) :
    TextObject.read around (keys ++ more) = (TextObject.read around keys).extend more := by
  cases keys with
  | nil => exact absurd rfl h
  | cons c keys =>
    simp only [TextObject.read, List.cons_append]
    cases ObjectKind.ofKey? c with
    | some kind => rfl
    | none => rfl

/-! ## 2. One token -/

namespace Token

/-- The keys of a command cut short. -/
def pending? (t : Token) : Option Keys :=
  match t.command with
  | .incomplete keys => some keys
  | _ => none

/-- A token and the keys it leaves, with `more` keys behind those. -/
def leaving (more : Keys) (scanned : Token × Keys) : Token × Keys := (scanned.1, scanned.2 ++ more)

theorem skipped_append {keys rest : Keys} (more : Keys) (h : rest.length ≤ keys.length) :
    skipped (keys ++ more) (rest ++ more) = leaving more (skipped keys rest) := by
  have hlen : (keys ++ more).length - (rest ++ more).length = keys.length - rest.length := by
    simp only [List.length_append]; omega
  simp only [skipped, leaving]
  rw [hlen, List.take_append_of_le_length (Nat.sub_le _ _)]

/-- What a command comes to when a part of it has been read: the part completes the token, or the
command is cut short, or its keys are skipped up to those that `left` tells. -/
def ofReading {α : Type} (keys : Keys) (count : Option Nat) (complete : α → Token)
    (left : Keys → Keys) : Reading α → Token × Keys
  | .done value rest => (complete value, rest)
  | .unfinished => cutShort keys count
  | .unrecognized rest => skipped keys (left rest)

section Parts

variable (keys : Keys) (count : Option Nat) {operator : Operator} {double : Char}

theorem scanOperand_cons (operator : Operator) (double c : Char) (rest : Keys) :
    scanOperand keys count operator double (c :: rest) =
      if c = double then (⟨count, .wholeLines operator⟩, rest)
      else
        match TextObject.aroundOfKey? c with
        | some around =>
          ofReading keys count (fun o => ⟨count, .object (some operator) o⟩) (fun _ => c :: rest)
            (TextObject.read around rest)
        | none =>
          ofReading keys count
            (fun m => ⟨combineCounts count (readCount (c :: rest)).1, .operate operator m⟩)
            (fun _ => c :: rest) (Motion.read (readCount (c :: rest)).2) := by
  rw [scanOperand]
  split
  · rfl
  · cases TextObject.aroundOfKey? c with
    | some around =>
      simp only
      cases TextObject.read around rest <;> rfl
    | none =>
      simp only
      cases Motion.read (readCount (c :: rest)).2 <;> rfl

theorem scanCommand_of_operator {body rest : Keys}
    (ho : Operator.read? body = some (operator, double, rest)) :
    scanCommand keys count body = scanOperand keys count operator double rest := by
  unfold scanCommand
  rw [ho]

theorem scanCommand_cons {c : Char} {rest : Keys} (ho : Operator.read? (c :: rest) = none) :
    scanCommand keys count (c :: rest) =
      match Operator.toLineEnd? c with
      | some operator => (⟨count, .toLineEnd operator⟩, rest)
      | none =>
        match TextObject.aroundOfKey? c with
        | some around =>
          ofReading keys count (fun o => ⟨count, .object none o⟩) (fun _ => rest)
            (TextObject.read around rest)
        | none =>
          ofReading keys count (fun m => ⟨count, .motion m⟩) id (Motion.read (c :: rest)) := by
  unfold scanCommand
  rw [ho]
  dsimp only
  cases Operator.toLineEnd? c with
  | some operator => rfl
  | none =>
    cases TextObject.aroundOfKey? c with
    | some around =>
      simp only
      cases TextObject.read around rest <;> rfl
    | none =>
      simp only
      cases Motion.read (c :: rest) <;> rfl

end Parts

section Append

variable {α : Type} {keys : Keys} {count : Option Nat} {complete : α → Token}
variable {left left' : Keys → Keys} {reading : Reading α}

/-- What was not cut short was read to its end, or refused. -/
theorem ne_unfinished (h : (ofReading keys count complete left reading).1.pending? = none) :
    reading ≠ .unfinished := by
  rintro rfl
  cases h

theorem ofReading_append (more : Keys)
    (hleft : ∀ rest, reading = .unrecognized rest →
      (left rest).length ≤ keys.length ∧ left' (rest ++ more) = left rest ++ more)
    (h : reading ≠ .unfinished) :
    ofReading (keys ++ more) count complete left' (reading.extend more) =
      leaving more (ofReading keys count complete left reading) := by
  cases reading with
  | done value rest => rfl
  | unfinished => exact absurd rfl h
  | unrecognized rest =>
    obtain ⟨hle, heq⟩ := hleft rest rfl
    rw [Reading.extend, ofReading, ofReading, heq]
    exact skipped_append more hle

/-- What follows an operator is read the same way with more keys behind, unless it was cut short. -/
theorem scanOperand_append {body : Keys} (more : Keys) (count : Option Nat)
    (operator : Operator) (double : Char) (hle : body.length ≤ keys.length)
    (h : (scanOperand keys count operator double body).1.pending? = none) :
    scanOperand (keys ++ more) count operator double (body ++ more) =
      leaving more (scanOperand keys count operator double body) := by
  cases body with
  | nil => cases h
  | cons c rest =>
    rw [scanOperand_cons] at h
    rw [List.cons_append, scanOperand_cons, scanOperand_cons]
    by_cases hc : c = double
    · rw [if_pos hc, if_pos hc]
      rfl
    · rw [if_neg hc] at h
      rw [if_neg hc, if_neg hc]
      cases ha : TextObject.aroundOfKey? c with
      | some around =>
        simp only [ha] at h
        have hread := ne_unfinished h
        simp only [TextObject.read_append more hread]
        exact ofReading_append more (fun _ _ => ⟨hle, rfl⟩) hread
      | none =>
        simp only [ha] at h
        have hread := ne_unfinished h
        have hbody : (readCount (c :: rest)).2 ≠ [] := by
          intro he
          rw [he] at hread
          exact hread rfl
        have hcount := readCount_append more hbody
        rw [List.cons_append] at hcount
        simp only [hcount, Motion.read_append more hread]
        exact ofReading_append more (fun _ _ => ⟨hle, rfl⟩) hread

/-- A command is read the same way with more keys behind, unless it was cut short. -/
theorem scanCommand_append {body : Keys} (more : Keys) (count : Option Nat)
    (hle : body.length ≤ keys.length)
    (h : (scanCommand keys count body).1.pending? = none) :
    scanCommand (keys ++ more) count (body ++ more) =
      leaving more (scanCommand keys count body) := by
  cases body with
  | nil => cases h
  | cons c rest =>
    -- a lone `g` is cut short, so a second key is there to decide what it begins
    have hg : c = 'g' → rest ≠ [] := by
      rintro rfl rfl
      cases h
    have happend := Operator.read?_append more hg
    cases ho : Operator.read? (c :: rest) with
    | some found =>
      obtain ⟨operator, double, behind⟩ := found
      have hlt := Operator.length_read?_lt ho
      rw [ho] at happend
      rw [scanCommand_of_operator _ _ ho] at h
      rw [scanCommand_of_operator _ _ ho, scanCommand_of_operator _ _ happend]
      exact scanOperand_append more count operator double (by omega) h
    | none =>
      rw [ho, List.cons_append] at happend
      rw [scanCommand_cons _ _ ho] at h
      rw [scanCommand_cons _ _ ho, List.cons_append, scanCommand_cons _ _ happend]
      rw [List.length_cons] at hle
      cases hl : Operator.toLineEnd? c with
      | some operator => rfl
      | none =>
        simp only [hl] at h
        cases ha : TextObject.aroundOfKey? c with
        | some around =>
          simp only [ha] at h
          have hread := ne_unfinished h
          simp only [TextObject.read_append more hread]
          exact ofReading_append more (fun _ _ => ⟨by omega, rfl⟩) hread
        | none =>
          simp only [ha] at h
          have hread := ne_unfinished h
          have hmotion := Motion.read_append more hread
          rw [List.cons_append] at hmotion
          simp only [hmotion]
          refine ofReading_append more (fun behind hr => ⟨?_, rfl⟩) hread
          have hlt := Motion.length_read_lt.2 hr
          rw [List.length_cons] at hlt
          rw [id]
          omega

end Append

/-- The keys that do not begin with a zero are read as a command after a count. -/
theorem scan_cons {c : Char} (hc : c ≠ '0') (keys : Keys) :
    scan (c :: keys) =
      some (scanCommand (c :: keys) (readCount (c :: keys)).1 (readCount (c :: keys)).2) := by
  unfold scan
  split
  · rename_i h; cases h
  · rename_i h; cases h; exact absurd rfl hc
  · rfl

/-- **A token that was not cut short is read again with more keys behind it.** -/
theorem scan_append {keys rest : Keys} {t : Token} (more : Keys) (h : scan keys = some (t, rest))
    (ht : t.pending? = none) : scan (keys ++ more) = some (t, rest ++ more) := by
  cases keys with
  | nil => cases h
  | cons c keys =>
    by_cases hc : c = '0'
    · subst hc
      cases h
      rfl
    · rw [scan_cons hc] at h
      have hs := Option.some.inj h
      have hbody : (readCount (c :: keys)).2 ≠ [] := by
        intro he
        rw [he] at hs
        cases hs
        cases ht
      have hcount := readCount_append more hbody
      rw [List.cons_append] at hcount
      rw [List.cons_append, scan_cons hc, hcount, ← List.cons_append,
        scanCommand_append more _ (length_readCount_le _) (by rw [hs]; exact ht), hs]
      rfl

end Token

/-! ## 3. Outcomes -/

theorem Operator.length_le_read? {keys rest : Keys} {operator : Operator} {double : Char}
    (h : Operator.read? keys = some (operator, double, rest)) :
    keys.length ≤ rest.length + 2 := by
  unfold Operator.read? at h
  split at h <;> grind [Option.map_eq_some_iff]

theorem Motion.length_le_read {keys rest : Keys} (h : Motion.read keys = .unrecognized rest) :
    keys.length ≤ rest.length + 2 := by
  unfold Motion.read at h
  grind

namespace Token

/-- What a scan of `keys` can come to, with the command at `body`: it is understood, or cut short,
or keys are skipped, of the command not more than two. -/
inductive Outcome (keys body : Keys) : Token × Keys → Prop
  | understood {scanned : Token × Keys} (h : scanned.1.isRecognized = true) :
    Outcome keys body scanned
  | cutShort (count : Option Nat) : Outcome keys body (cutShort keys count)
  | skipped (rest : Keys) (h : body.length ≤ rest.length + 2) :
    Outcome keys body (skipped keys rest)

section Outcomes

variable {keys body : Keys} {count : Option Nat}

theorem outcome_ofReading {α : Type} {complete : α → Token} {left : Keys → Keys}
    {reading : Reading α} (h : ∀ value, (complete value).isRecognized = true)
    (hleft : ∀ rest, reading = .unrecognized rest → body.length ≤ (left rest).length + 2) :
    Outcome keys body (ofReading keys count complete left reading) := by
  cases reading with
  | done value rest => exact .understood (h value)
  | unfinished => exact .cutShort count
  | unrecognized rest => exact .skipped (left rest) (hleft rest rfl)

/-- Behind an operator, what names nothing is left to be read again. -/
theorem outcome_scanOperand {behind : Keys} (operator : Operator) (double : Char)
    (h : body.length ≤ behind.length + 2) :
    Outcome keys body (scanOperand keys count operator double behind) := by
  cases behind with
  | nil => exact .cutShort count
  | cons c rest =>
    rw [scanOperand_cons]
    split
    · exact .understood rfl
    · split
      · exact outcome_ofReading (fun _ => rfl) fun _ _ => h
      · exact outcome_ofReading (fun _ => rfl) fun _ _ => h

theorem outcome_scanCommand (keys : Keys) (count : Option Nat) (body : Keys) :
    Outcome keys body (scanCommand keys count body) := by
  cases ho : Operator.read? body with
  | some found =>
    obtain ⟨operator, double, rest⟩ := found
    rw [scanCommand_of_operator _ _ ho]
    exact outcome_scanOperand operator double (Operator.length_le_read? ho)
  | none =>
    cases body with
    | nil => exact .cutShort count
    | cons c rest =>
      rw [scanCommand_cons _ _ ho]
      split
      · exact .understood rfl
      · split
        · exact outcome_ofReading (fun _ => rfl) fun _ _ => Nat.le_succ _
        · exact outcome_ofReading (fun _ => rfl) fun _ hr => Motion.length_le_read hr

/-- **Every scan has one of the outcomes.** -/
theorem outcome_of_scan {scanned : Token × Keys} (h : scan keys = some scanned) :
    Outcome keys (readCount keys).2 scanned := by
  cases keys with
  | nil => cases h
  | cons c keys =>
    by_cases hc : c = '0'
    · subst hc
      cases h
      exact .understood rfl
    · rw [scan_cons hc] at h
      cases h
      exact outcome_scanCommand _ _ _

theorem not_isRecognized_of_pending {t : Token} {held : Keys} (ht : t.pending? = some held) :
    ¬ t.isRecognized = true := by
  obtain ⟨count, command⟩ := t
  cases command with
  | incomplete => exact Bool.false_ne_true
  | _ => cases ht

/-- **A token that was cut short holds all the keys, and leaves none.** -/
theorem scan_of_pending {rest held : Keys} {t : Token} (h : scan keys = some (t, rest))
    (ht : t.pending? = some held) : held = keys ∧ rest = [] := by
  cases outcome_of_scan h with
  | understood hr => exact absurd hr (not_isRecognized_of_pending ht)
  | cutShort count => exact ⟨(Option.some.inj ht).symm, rfl⟩
  | skipped rest => cases ht

/-- **A token that was not understood holds the keys it takes**, and takes two of the command at
most. -/
theorem scan_of_unknown {rest text : Keys} {t : Token} (h : scan keys = some (t, rest))
    (ht : t.command = .unknown text) :
    text = keys.take (keys.length - rest.length) ∧ (readCount keys).2.length ≤ rest.length + 2 := by
  cases outcome_of_scan h with
  | understood hr =>
    rw [isRecognized, ht] at hr
    cases hr
  | cutShort count => cases ht
  | skipped rest hle =>
    cases ht
    exact ⟨rfl, hle⟩

end Outcomes

/-! ## 4. All tokens -/

theorem ofKeys_nil : ofKeys [] = [] := by
  unfold ofKeys
  rfl

/-- The tokens of keys are the first one and the tokens of the keys it leaves. -/
theorem ofKeys_of_scan {keys rest : Keys} {t : Token} (h : scan keys = some (t, rest)) :
    ofKeys keys = t :: ofKeys rest := by
  rw [ofKeys]
  split
  · rename_i hn
    rw [h] at hn
    cases hn
  · rename_i hs
    rw [h] at hs
    cases hs
    rfl

theorem scan_isSome {keys : Keys} (h : keys ≠ []) : ∃ t rest, scan keys = some (t, rest) := by
  cases keys with
  | nil => exact absurd rfl h
  | cons c keys =>
    by_cases hc : c = '0'
    · subst hc
      exact ⟨_, _, rfl⟩
    · exact ⟨_, _, scan_cons hc keys⟩

/-- The keys that a sequence of tokens leaves pending: those of a last token that was cut short. -/
def pendingKeys (ts : List Token) : Keys := (ts.getLast?.bind pending?).getD []

/-- The tokens without a last one that was cut short. -/
def settled (ts : List Token) : List Token :=
  if (ts.getLast?.bind pending?).isSome then ts.dropLast else ts

theorem pendingKeys_of_pending {t : Token} {held : Keys} (ht : t.pending? = some held) :
    pendingKeys [t] = held := by
  simp [pendingKeys, ht]

theorem settled_of_pending {t : Token} {held : Keys} (ht : t.pending? = some held) :
    settled [t] = [] := by
  simp [settled, ht]

/-- A settled token in front changes neither what is pending nor what is settled. -/
theorem getLast?_cons_bind_pending? {t : Token} (ts : List Token) (ht : t.pending? = none) :
    (t :: ts).getLast?.bind pending? = ts.getLast?.bind pending? := by
  cases ts with
  | nil => exact ht
  | cons u us => rw [List.getLast?_cons_cons]

theorem pendingKeys_cons {t : Token} (ts : List Token) (ht : t.pending? = none) :
    pendingKeys (t :: ts) = pendingKeys ts := by
  rw [pendingKeys, getLast?_cons_bind_pending? ts ht, pendingKeys]

theorem settled_cons {t : Token} (ts : List Token) (ht : t.pending? = none) :
    settled (t :: ts) = t :: settled ts := by
  rw [settled, settled, getLast?_cons_bind_pending? ts ht]
  split
  · rename_i hs
    have hne : ts ≠ [] := by
      rintro rfl
      cases hs
    rw [List.dropLast_cons_of_ne_nil hne]
  · rfl

theorem settled_of_forall {ts : List Token} (h : ∀ t ∈ ts, t.pending? = none) :
    settled ts = ts ∧ pendingKeys ts = [] := by
  induction ts with
  | nil => exact ⟨rfl, rfl⟩
  | cons t ts ih =>
    have ht := h t List.mem_cons_self
    obtain ⟨hs, hp⟩ := ih fun u hu => h u (List.mem_cons_of_mem t hu)
    rw [settled_cons ts ht, pendingKeys_cons ts ht, hs, hp]
    exact ⟨rfl, rfl⟩

/-- **Reading, token by token**: no keys are left, or what is left is cut short, or one settled
token is read and reading goes on behind it. -/
@[elab_as_elim]
theorem reading_induction {motive : Keys → Prop} (nil : motive [])
    (pending : ∀ keys t, scan keys = some (t, []) → t.pending? = some keys → motive keys)
    (settled : ∀ keys t rest, scan keys = some (t, rest) → t.pending? = none → motive rest →
      motive keys)
    (keys : Keys) : motive keys := by
  induction keys using ofKeys.induct with
  | case1 keys h =>
    have hk : keys = [] := by
      refine Classical.byContradiction fun hne => ?_
      obtain ⟨t, rest, hs⟩ := scan_isSome hne
      rw [h] at hs
      cases hs
    rw [hk]
    exact nil
  | case2 keys t rest h ih =>
    cases ht : t.pending? with
    | none => exact settled keys t rest h ht ih
    | some held =>
      obtain ⟨rfl, rfl⟩ := scan_of_pending h ht
      exact pending held t h ht

/-- Only the last token can be one that was cut short. -/
theorem pending?_of_mem_dropLast (keys : Keys) :
    ∀ t ∈ (ofKeys keys).dropLast, t.pending? = none := by
  induction keys using reading_induction with
  | nil =>
    intro t ht
    rw [ofKeys_nil] at ht
    cases ht
  | pending keys u h hu =>
    intro t ht
    rw [ofKeys_of_scan h, ofKeys_nil] at ht
    cases ht
  | settled keys u rest h hu ih =>
    intro t ht
    rw [ofKeys_of_scan h] at ht
    cases hr : ofKeys rest with
    | nil =>
      rw [hr] at ht
      cases ht
    | cons v vs =>
      rw [List.dropLast_cons_of_ne_nil (by rw [hr]; exact List.cons_ne_nil v vs)] at ht
      rcases List.mem_cons.mp ht with rfl | ht
      · exact hu
      · exact ih t ht

/-- **The settled tokens of `a` stay, and the keys that `a` left pending are read again with `b`
behind them.** -/
theorem ofKeys_append (a b : Keys) :
    ofKeys (a ++ b) = settled (ofKeys a) ++ ofKeys (pendingKeys (ofKeys a) ++ b) := by
  induction a using reading_induction with
  | nil =>
    rw [ofKeys_nil]
    rfl
  | pending keys t h ht =>
    rw [ofKeys_of_scan h, ofKeys_nil, settled_of_pending ht, pendingKeys_of_pending ht]
    rfl
  | settled keys t rest h ht ih =>
    rw [ofKeys_of_scan h, ofKeys_of_scan (scan_append b h ht), ih, settled_cons _ ht,
      pendingKeys_cons _ ht]
    rfl

/-- Keys of which none are pending are read the same way whatever follows. -/
theorem ofKeys_append_of_settled {a : Keys} (b : Keys)
    (h : ∀ t ∈ ofKeys a, t.pending? = none) : ofKeys (a ++ b) = ofKeys a ++ ofKeys b := by
  obtain ⟨hs, hp⟩ := settled_of_forall h
  rw [ofKeys_append, hs, hp]
  rfl

/-- **Reading is incremental.** At most one token is cut short, the last one; the tokens of
`a ++ b` are those of `a` without it, then the tokens of its keys with `b` behind them. If `a` has
no token cut short, the tokens of `a ++ b` are those of `a`, then those of `b`. -/
theorem ofKeys_incremental (a b : Keys) :
    (∀ t ∈ (ofKeys a).dropLast, t.pending? = none) ∧
      ofKeys (a ++ b) = settled (ofKeys a) ++ ofKeys (pendingKeys (ofKeys a) ++ b) ∧
      ((∀ t ∈ ofKeys a, t.pending? = none) → ofKeys (a ++ b) = ofKeys a ++ ofKeys b) :=
  ⟨pending?_of_mem_dropLast a, ofKeys_append a b, ofKeys_append_of_settled b⟩

/-- A refused operator leaves nothing pending, so the count behind it begins anew. -/
theorem ofKeys_incremental_refused :
    (∀ t ∈ ofKeys ['d', 'x', 'g', 'e'], t.pending? = none) ∧
      ofKeys (['d', 'x', 'g', 'e'] ++ ['3']) = ofKeys ['d', 'x', 'g', 'e'] ++ ofKeys ['3'] := by
  have h : ∀ t ∈ ofKeys ['d', 'x', 'g', 'e'], t.pending? = none := by decide +kernel
  exact ⟨h, (ofKeys_incremental _ _).2.2 h⟩

end Token

end MotionTutor
