import Mathlib.Data.List.TakeWhile
import MotionTutor.Proofs.Command.Grammar

/-!
# Keys that can still become a command

Keys that begin with digits and a key that begins a command can be completed, so that everything is
understood; with any other key behind the digits they cannot, whatever follows
(`isValidPrefix_iff_completable`).

* The keys that begin a command are those of the command language (`mem_leadingKeys_iff`): an
  operator, an object, a motion or a search begins with them, or `g` does.
* Digits in front are motions to the start of the line and then at most one count
  (`ofKeys_digits_append`), so the key behind them is where a command begins.
-/

namespace MotionTutor

/-! ## 1. The keys that begin a command -/

/-- How a key begins a command. -/
inductive BeginsCommand (c : Char) : Prop
  | operator {o : Operator} (h : Operator.ofKey? c = some o)
  | toLineEnd {o : Operator} (h : Operator.toLineEnd? c = some o)
  | object {around : Bool} (h : TextObject.aroundOfKey? c = some around)
  | motion {m : Motion} (h : Motion.ofKey? c = some m)
  | search {aim : Char → Search} (h : Search.ofKey? c = some aim)
  /-- The first of two keys, of a motion or of an operator. -/
  | twoKeys (h : c = 'g')

theorem Operator.keys_of_ofKey? {c : Char} {o : Operator} (h : Operator.ofKey? c = some o) :
    o.keys = [c] := by
  unfold Operator.ofKey? at h
  split at h <;> cases h <;> rfl

theorem Operator.keys_of_toLineEnd? {c : Char} {o : Operator}
    (h : Operator.toLineEnd? c = some o) : (Command.toLineEnd o).keys = [c] := by
  unfold Operator.toLineEnd? at h
  split at h <;> cases h <;> rfl

theorem TextObject.leadingKey_of_aroundOfKey? {c : Char} {around : Bool}
    (h : TextObject.aroundOfKey? c = some around) : TextObject.leadingKey around = c := by
  unfold TextObject.aroundOfKey? at h
  split at h <;> cases h <;> rfl

namespace Token

theorem leadingKeys_eq : leadingKeys =
    ['w', 'W', 'e', 'E', 'b', 'B', '0', '^', '$', 'f', 'F', 't', 'T', 'h', 'l', 'j', 'k', 'g', 'G',
      '\x7b', '\x7d', '+', '-', '_', ';', ',', 'd', 'c', 'y', 'v', 'D', 'C', 'i', 'a'] :=
  String.toList_ofList

theorem beginsCommand_of_mem_leadingKeys {c : Char} (h : c ∈ leadingKeys) : BeginsCommand c := by
  have hall : leadingKeys.all (fun c => (Operator.ofKey? c).isSome ||
      (Operator.toLineEnd? c).isSome || (TextObject.aroundOfKey? c).isSome ||
      (Motion.ofKey? c).isSome || (Search.ofKey? c).isSome || c == 'g') = true := by
    rw [leadingKeys_eq]
    decide +kernel
  have hc := List.all_eq_true.mp hall c h
  simp only [Bool.or_eq_true, beq_iff_eq, or_assoc] at hc
  rcases hc with h | h | h | h | h | h
  · exact .operator (Option.eq_some_of_isSome h)
  · exact .toLineEnd (Option.eq_some_of_isSome h)
  · exact .object (Option.eq_some_of_isSome h)
  · exact .motion (Option.eq_some_of_isSome h)
  · exact .search (Option.eq_some_of_isSome h)
  · exact .twoKeys h

/-- **The leading keys are the keys that begin a command.** -/
theorem mem_leadingKeys_iff {c : Char} : c ∈ leadingKeys ↔ BeginsCommand c := by
  refine ⟨beginsCommand_of_mem_leadingKeys, fun h => ?_⟩
  rw [leadingKeys_eq]
  cases h with
  | operator h =>
    unfold Operator.ofKey? at h
    split at h <;> cases h <;> decide
  | toLineEnd h =>
    unfold Operator.toLineEnd? at h
    split at h <;> cases h <;> decide
  | object h =>
    unfold TextObject.aroundOfKey? at h
    split at h <;> cases h <;> decide
  | motion h =>
    unfold Motion.ofKey? at h
    split at h <;> cases h <;> decide
  | search h =>
    unfold Search.ofKey? at h
    split at h <;> cases h <;> decide
  | twoKeys h =>
    subst h
    decide

/-- A command that is understood begins with each of these keys. -/
theorem exists_command_of_beginsCommand {c : Char} (h : BeginsCommand c)
    (hc : c.isDigit = false) : ∃ command : Command, ∃ more, command.keys = c :: more ∧
      ∀ count, IsCount count → WellFormed ⟨count, command⟩ ∧
        isRecognized ⟨count, command⟩ = true := by
  cases h with
  | @operator o h =>
    refine ⟨.wholeLines o, [o.doublingKey], ?_, fun _ hn => ⟨wellFormed_of_isPlain hn rfl, rfl⟩⟩
    rw [Command.keys, Operator.keys_of_ofKey? h]
    rfl
  | @toLineEnd o h =>
    exact ⟨.toLineEnd o, [], Operator.keys_of_toLineEnd? h,
      fun _ hn => ⟨wellFormed_toLineEnd hn (Operator.eq_of_toLineEnd? h), rfl⟩⟩
  | @object around h =>
    refine ⟨.object none ⟨around, .word .small⟩, ['w'], ?_,
      fun _ hn => ⟨wellFormed_listed hn trivial, rfl⟩⟩
    rw [← TextObject.leadingKey_of_aroundOfKey? h]
    rfl
  | @motion m h =>
    have hkeys := Motion.keys_of_ofKey? h
    -- only a digit would be the motion that takes no count
    have hm : m ≠ .lineStart := by
      rintro rfl
      cases hkeys
      cases hc
    exact ⟨.motion m, [], hkeys,
      fun _ hn => ⟨wellFormed_of_isPlain hn (decide_eq_true hm), rfl⟩⟩
  | @search aim h =>
    exact ⟨.motion (.search (aim 'x')), ['x'], Search.keys_of_ofKey? h 'x',
      fun _ hn => ⟨wellFormed_of_isPlain hn rfl, rfl⟩⟩
  | twoKeys h =>
    subst h
    exact ⟨.motion .firstLine, ['g'], rfl, fun _ hn => ⟨wellFormed_of_isPlain hn rfl, rfl⟩⟩

/-- A key that begins no command is skipped with the count in front of it. -/
theorem scanCommand_of_not_beginsCommand {c : Char} (h : ¬ BeginsCommand c) (keys : Keys)
    (count : Option Nat) (rest : Keys) :
    scanCommand keys count (c :: rest) = skipped keys rest := by
  have hoperator : Operator.ofKey? c = none :=
    Option.eq_none_iff_forall_ne_some.mpr fun _ he => h (.operator he)
  have hline : Operator.toLineEnd? c = none :=
    Option.eq_none_iff_forall_ne_some.mpr fun _ he => h (.toLineEnd he)
  have hobject : TextObject.aroundOfKey? c = none :=
    Option.eq_none_iff_forall_ne_some.mpr fun _ he => h (.object he)
  have hmotion : Motion.ofKey? c = none :=
    Option.eq_none_iff_forall_ne_some.mpr fun _ he => h (.motion he)
  have hsearch : Search.ofKey? c = none :=
    Option.eq_none_iff_forall_ne_some.mpr fun _ he => h (.search he)
  have hg : c ≠ 'g' := fun he => h (.twoKeys he)
  have hread : Operator.read? (c :: rest) = none := by
    rw [Operator.read?_cons hg, hoperator]
    rfl
  rw [scanCommand_cons _ _ hread, hline, hobject]
  simp only [Motion.read, hmotion, hsearch, if_neg hg, ofReading, id]

/-! ## 2. Digits in front -/

/-- A digit other than zero begins a count. -/
theorem count_of_isDigit {d : Char} (hd : d.isDigit = true) (hzero : d ≠ '0') :
    '1' ≤ d ∧ d ≤ '9' := by
  rw [Char.isDigit, Bool.and_eq_true, decide_eq_true_eq, decide_eq_true_eq] at hd
  have hne : d.val.toNat ≠ '0'.val.toNat := fun he => hzero (Char.ext (UInt32.toNat_inj.mp he))
  have h0 : '0'.val.toNat ≤ d.val.toNat := hd.1
  have e0 : '0'.val.toNat = 48 := rfl
  have e1 : '1'.val.toNat = 49 := rfl
  exact ⟨show '1'.val.toNat ≤ d.val.toNat by omega, hd.2⟩

/-- A run of digits is a count, unless it begins with a zero. -/
theorem readCount_digits_append {d : Char} {ds keys : Keys} (hd : '1' ≤ d ∧ d ≤ '9')
    (hds : ∀ c ∈ ds, c.isDigit = true) (h : NoDigitAhead keys) :
    (readCount (d :: ds ++ keys)).2 = keys := by
  rw [List.cons_append, readCount, if_pos hd]
  exact (takeWhile_append_of_noDigitAhead hds h).2

/-- **Digits in front of keys are motions to the start of the line and then at most one count**,
which is the count of the command that the keys begin. -/
theorem ofKeys_digits_append {ds keys : Keys} (hds : ∀ c ∈ ds, c.isDigit = true)
    (h : NoDigitAhead keys) (hne : keys ≠ []) :
    ∃ zeros all count, IsCount count ∧
      ofKeys (ds ++ keys) = List.replicate zeros ⟨none, .motion .lineStart⟩ ++
        (scanCommand all count keys).1 :: ofKeys (scanCommand all count keys).2 := by
  induction ds with
  | nil =>
    obtain ⟨c, rest, rfl⟩ := List.exists_cons_of_ne_nil hne
    have hc : c.isDigit = false := h c rfl
    have hzero : c ≠ '0' := by
      rintro rfl
      cases hc
    have hcount := readCount_of_not_count rest (not_count_of_isDigit_eq_false hc)
    refine ⟨0, c :: rest, none, isCount_none, ?_⟩
    have hscan := scan_cons hzero rest
    rw [hcount] at hscan
    exact ofKeys_of_scan hscan
  | cons d ds ih =>
    by_cases hzero : d = '0'
    · subst hzero
      obtain ⟨zeros, all, count, hcount, hkeys⟩ := ih fun c hc => hds c (List.mem_cons_of_mem _ hc)
      refine ⟨zeros + 1, all, count, hcount, ?_⟩
      rw [List.cons_append, ofKeys_of_scan (t := ⟨none, .motion .lineStart⟩) rfl, hkeys]
      rfl
    · have hd := count_of_isDigit (hds d List.mem_cons_self) hzero
      have hrest := readCount_digits_append hd (fun c hc => hds c (List.mem_cons_of_mem _ hc)) h
      refine ⟨0, d :: ds ++ keys, _, isCount_readCount (d :: ds ++ keys), ?_⟩
      have hscan := scan_cons hzero (ds ++ keys)
      rw [← List.cons_append, hrest] at hscan
      exact ofKeys_of_scan hscan

/-! ## 3. Keys that can be completed -/

/-- The keys through the first one that is not a digit, all of them if there is none. -/
def throughCommandKey (keys : Keys) : Keys :=
  keys.takeWhile Char.isDigit ++ (keys.dropWhile Char.isDigit).take 1

/-- Some more keys make tokens of them that are all understood. -/
def Completable (keys : Keys) : Prop :=
  ∃ more, ∀ t ∈ ofKeys (keys ++ more), t.isRecognized = true

/-- Keys can be completed if they can with more keys behind them. -/
theorem Completable.of_append {keys more : Keys} (h : Completable (keys ++ more)) :
    Completable keys := by
  obtain ⟨others, ht⟩ := h
  exact ⟨more ++ others, by rwa [← List.append_assoc]⟩

/-- Digits and a key that begins a command can be completed. -/
theorem completable_of_beginsCommand {ds : Keys} {c : Char} (hds : ∀ d ∈ ds, d.isDigit = true)
    (hc : c.isDigit = false) (h : BeginsCommand c) : Completable (ds ++ [c]) := by
  obtain ⟨command, more, hkeys, hcommand⟩ := exists_command_of_beginsCommand h hc
  obtain ⟨zeros, all, count, hcount, htokens⟩ :=
    ofKeys_digits_append hds (noDigitAhead_cons hc more) (List.cons_ne_nil c more)
  obtain ⟨hwf, hrecognized⟩ := hcommand count hcount
  have hscan := scanCommand_keys hwf hrecognized all []
  rw [List.append_nil, hkeys] at hscan
  refine ⟨more, fun t ht => ?_⟩
  rw [List.append_assoc, List.singleton_append, htokens, hscan, ofKeys_nil] at ht
  rcases List.mem_append.mp ht with ht | ht
  · rw [List.eq_of_mem_replicate ht]
    rfl
  · rw [List.mem_singleton.mp ht]
    exact hrecognized

/-- Behind digits, a key that begins no command is not understood. -/
theorem exists_not_recognized {ds : Keys} {c : Char} (hds : ∀ d ∈ ds, d.isDigit = true)
    (hc : c.isDigit = false) (h : ¬ BeginsCommand c) (more : Keys) :
    ∃ t ∈ ofKeys (ds ++ c :: more), t.isRecognized = false := by
  obtain ⟨zeros, all, count, -, htokens⟩ :=
    ofKeys_digits_append hds (noDigitAhead_cons hc more) (List.cons_ne_nil c more)
  refine ⟨(skipped all more).1, ?_, rfl⟩
  rw [htokens, scanCommand_of_not_beginsCommand h]
  exact List.mem_append_right _ List.mem_cons_self

/-- **The keys that can still become a command are those that can be completed**: `isValidPrefix`
holds just if the keys through the first one that is not a digit can be completed with all tokens
understood. If it does not hold, a token is not understood whatever follows the keys. -/
theorem isValidPrefix_iff_completable (keys : Keys) :
    (isValidPrefix keys = true ↔ Completable (throughCommandKey keys)) ∧
      (isValidPrefix keys = false →
        ∀ more, ∃ t ∈ ofKeys (keys ++ more), t.isRecognized = false) := by
  have hds : ∀ d ∈ keys.takeWhile Char.isDigit, d.isDigit = true :=
    fun _ hd => List.mem_takeWhile_imp hd
  have hsplit := List.takeWhile_append_dropWhile (p := Char.isDigit) (l := keys)
  have hhead := List.head?_dropWhile_not Char.isDigit keys
  rw [isValidPrefix, throughCommandKey]
  generalize keys.takeWhile Char.isDigit = ds at hds hsplit
  generalize keys.dropWhile Char.isDigit = rest at hsplit hhead
  subst hsplit
  cases rest with
  | nil =>
    have hw : BeginsCommand 'w' := .motion rfl
    have hdone := (completable_of_beginsCommand hds rfl hw).of_append
    rw [List.take_nil, List.append_nil]
    exact ⟨iff_of_true rfl hdone, nofun⟩
  | cons c rest =>
    have hc : c.isDigit = false := by simpa using hhead
    have hbegins : leadingKeys.contains c = true ↔ BeginsCommand c :=
      List.contains_iff_mem.trans mem_leadingKeys_iff
    refine ⟨⟨fun h => completable_of_beginsCommand hds hc (hbegins.mp h), fun h => ?_⟩,
      fun h more => ?_⟩
    · obtain ⟨more, hall⟩ := h
      refine hbegins.mpr (Classical.byContradiction fun hn => ?_)
      obtain ⟨t, ht, hrefused⟩ := exists_not_recognized hds hc hn more
      rw [List.take_succ_cons, List.take_zero, List.append_assoc, List.singleton_append] at hall
      rw [hall t ht] at hrefused
      cases hrefused
    · have hn : ¬ BeginsCommand c := by
        intro hb
        exact Bool.false_ne_true (h.symm.trans (hbegins.mpr hb))
      rw [List.append_assoc, List.cons_append]
      exact exists_not_recognized hds hc hn (rest ++ more)

/-- Zeros and a count do not help a key that begins no command. -/
theorem isValidPrefix_iff_completable_refused :
    isValidPrefix ['0', '0', '2', '0', 'q'] = false ∧
      ∃ t ∈ ofKeys (['0', '0', '2', '0', 'q'] ++ ['w', 'd']), t.isRecognized = false := by
  have h : isValidPrefix ['0', '0', '2', '0', 'q'] = false := by decide +kernel
  exact ⟨h, (isValidPrefix_iff_completable _).2 h _⟩

end Token

end MotionTutor
