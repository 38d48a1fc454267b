import Mathlib.Data.List.Forall2
import MotionTutor.Json.Printer
import MotionTutor.Json.Reader
import MotionTutor.Proofs.Json.Numeral
import MotionTutor.Proofs.Json.Text

/-!
# Documents read back

A value is read back from its document if all its numbers read back (`Value.Readable`,
`Value.parse?_render`): the lines, the indentation, the quotes and the brackets of a written
document are no part of the value.

`Reads v w` says that the reader gets `w` out of the characters of `v` wherever these stand: at any
level of indentation, before any text that does not go on with a numeral, and within any limit that
is not below their number. The two differ where a number is read as another one. It is proved of a
value from its parts; the items of an array and the members of an object are read one after the
other (`readItems_chars`, `readMembers_chars`).
-/

namespace MotionTutor.Json

/-- All numbers in the value read back, and no part of it is unreadable. -/
inductive Value.Readable : Value → Prop
  | null : Readable null
  | bool (b : Bool) : Readable (bool b)
  | number {n : Number} (h : n.ReadsBack) : Readable (number n)
  | text (s : String) : Readable (text s)
  | array {items : List Value} (h : ∀ v ∈ items, Readable v) : Readable (array items)
  | object {members : List (String × Value)} (h : ∀ m ∈ members, Readable m.2) :
    Readable (object members)

variable {v : Value} {cs : List Char}

/-! ## 1. White space -/

theorem skipSpace_cons {c : Char} (h : isSpace c = false) (cs : List Char) :
    skipSpace (c :: cs) = c :: cs := List.dropWhile_cons_of_neg (by rw [h]; decide)

theorem skipSpace_newLine (level : Nat) (cs : List Char) :
    skipSpace (newLine level ++ cs) = skipSpace cs := by
  have hspace : ∀ c ∈ newLine level, isSpace c = true := by
    intro c hc
    rcases List.mem_cons.1 hc with rfl | hc
    · rfl
    · rw [List.eq_of_mem_replicate hc]
      rfl
  exact List.dropWhile_append_of_pos hspace

theorem readValue_newLine (limit level : Nat) (cs : List Char) :
    readValue limit (newLine level ++ cs) = readValue limit cs := by
  cases limit with
  | zero => rw [readValue, readValue]
  | succ limit => rw [readValue, readValue, skipSpace_newLine]

theorem readValue_blank (limit : Nat) (cs : List Char) :
    readValue limit (' ' :: cs) = readValue limit cs := by
  have hskip : skipSpace (' ' :: cs) = skipSpace cs := rfl
  cases limit with
  | zero => rw [readValue, readValue]
  | succ limit => rw [readValue, readValue, hskip]

theorem readItems_newLine (limit level : Nat) (cs : List Char) :
    readItems limit (newLine level ++ cs) = readItems limit cs := by
  cases limit with
  | zero => rw [readItems, readItems]
  | succ limit => rw [readItems, readItems, readValue_newLine]

theorem readMembers_newLine (limit level : Nat) (cs : List Char) :
    readMembers limit (newLine level ++ cs) = readMembers limit cs := by
  have hname : readName (newLine level ++ cs) = readName cs := by
    rw [readName, readName, skipSpace_newLine]
  cases limit with
  | zero => rw [readMembers, readMembers]
  | succ limit => rw [readMembers, readMembers, hname]

/-! ## 2. How a value is written -/

theorem chars_array (level : Nat) (v : Value) (items : List Value) :
    (Value.array (v :: items)).chars level = '[' :: (newLine (level + 1) ++
      (v.chars (level + 1) ++ (moreItems (level + 1) items ++ (newLine level ++ [']'])))) := by
  rw [Value.chars]
  simp only [List.cons_append, List.append_assoc]

theorem moreItems_cons (level : Nat) (v : Value) (items : List Value) :
    moreItems level (v :: items) =
      ',' :: (newLine level ++ (v.chars level ++ moreItems level items)) := by
  rw [moreItems]
  simp only [List.cons_append, List.append_assoc]

/-- The name of a member with the colon after it. -/
def nameChars (name : String) : List Char := encode name.toList ++ [':', ' ']

theorem chars_object (level : Nat) (name : String) (v : Value) (members : List (String × Value)) :
    (Value.object ((name, v) :: members)).chars level = '\x7b' :: (newLine (level + 1) ++
      (nameChars name ++ (v.chars (level + 1) ++ (moreMembers (level + 1) members ++
        (newLine level ++ ['\x7d']))))) := by
  rw [Value.chars, nameChars]
  simp only [List.cons_append, List.append_assoc]

theorem moreMembers_cons (level : Nat) (name : String) (v : Value)
    (members : List (String × Value)) :
    moreMembers level ((name, v) :: members) =
      ',' :: (newLine level ++
        (nameChars name ++ (v.chars level ++ moreMembers level members))) := by
  rw [moreMembers, nameChars]
  simp only [List.cons_append, List.append_assoc]

/-- The character neither stands between the parts of a document nor ends one. -/
def Opens (c : Char) : Prop := isSpace c = false ∧ c ≠ ']'

theorem opens_of_numeral {c : Char} (h : c = '-' ∨ c.isDigit = true) : Opens c := by
  rcases h with rfl | h
  · exact ⟨by decide, by decide⟩
  · refine ⟨?_, ?_⟩
    · rw [Bool.eq_false_iff]
      intro hspace
      simp only [isSpace, Bool.or_eq_true, beq_iff_eq] at hspace
      rcases hspace with ((rfl | rfl) | rfl) | rfl <;> cases h
    · rintro rfl
      cases h

/-! ## 3. How a value is read -/

/-- The characters of the value are read as `w`, wherever they stand. -/
structure Reads (v w : Value) : Prop where
  opens : ∀ level, ∃ c cs, v.chars level = c :: cs ∧ Opens c
  read : ∀ level limit rest, (v.chars level).length ≤ limit → Ends rest →
    readValue limit (v.chars level ++ rest) = some (w, rest)

/-- The members have one name, and the value of the first is read as that of the second. -/
def MemberReads (m m' : String × Value) : Prop := m.1 = m'.1 ∧ Reads m.2 m'.2

theorem readValue_numeral {c : Char} (h : c = '-' ∨ c.isDigit = true) (limit : Nat)
    (cs : List Char) : readValue (limit + 1) (c :: cs) =
      (Numeral.read (c :: cs)).map fun p => (p.1.value.elim .unreadable .number, p.2) := by
  rw [readValue, skipSpace_cons (opens_of_numeral h).1]
  split
  case h_7 => rfl
  -- a minus and a digit begin no other kind of value
  all_goals
    rename_i heq
    obtain ⟨rfl, -⟩ := List.cons.inj heq
    exact absurd h (by decide)

theorem readValue_text (limit : Nat) (s : String) (rest : List Char) :
    readValue (limit + 1) (encode s.toList ++ rest) = some (.text s, rest) := by
  rw [encode, List.cons_append, List.cons_append, List.append_assoc, readValue,
    skipSpace_cons (by decide)]
  show (readText (s.toList.flatMap escape ++ '"' :: rest)).map _ = _
  rw [readText_encode]
  rfl

/-- What the reader makes of the text after an opening bracket. -/
def readArray (limit : Nat) : List Char → Option (Value × List Char)
  | ']' :: cs => some (.array [], cs)
  | cs => (readItems limit cs).map fun p => (.array p.1, p.2)

/-- What the reader makes of the text after an opening brace. -/
def readObject (limit : Nat) : List Char → Option (Value × List Char)
  | '\x7d' :: cs => some (.object [], cs)
  | cs => (readMembers limit cs).map fun p => (.ofMembers p.1, p.2)

theorem readValue_bracket (limit : Nat) (cs : List Char) :
    readValue (limit + 1) ('[' :: cs) = readArray limit (skipSpace cs) := by
  rw [readValue, skipSpace_cons (by decide)]
  rfl

theorem readValue_brace (limit : Nat) (cs : List Char) :
    readValue (limit + 1) ('\x7b' :: cs) = readObject limit (skipSpace cs) := by
  rw [readValue, skipSpace_cons (by decide)]
  rfl

theorem readArray_of_opens {c : Char} (h : Opens c) (limit : Nat) (cs : List Char) :
    readArray limit (c :: cs) = (readItems limit (c :: cs)).map fun p => (.array p.1, p.2) := by
  rw [readArray]
  exact fun cs' heq => h.2 (List.cons.inj heq).1

theorem readName_nameChars (name : String) (cs : List Char) :
    readName (nameChars name ++ cs) = some (some name, ' ' :: cs) := by
  have hchars : nameChars name ++ cs =
      '"' :: (name.toList.flatMap escape ++ '"' :: ':' :: ' ' :: cs) := by
    simp only [nameChars, encode, List.cons_append, List.append_assoc, List.nil_append]
  rw [hchars, readName, skipSpace_cons (by decide)]
  split
  · rename_i heq
    rw [← (List.cons.inj heq).2, readText_encode]
    rfl
  · rename_i hne
    exact absurd rfl (hne _)

theorem readItems_chars {w : Value} {items items' : List Value} (hv : Reads v w)
    (hitems : List.Forall₂ Reads items items') (level limit outer : Nat) (rest : List Char)
    (hlimit : (v.chars level).length + (moreItems level items).length < limit) :
    readItems limit (v.chars level ++ (moreItems level items ++ (newLine outer ++ ']' :: rest))) =
      some (w :: items', rest) := by
  induction hitems generalizing v w limit with
  | nil =>
    obtain _ | limit := limit
    · cases hlimit
    have hread := hv.read level limit (newLine outer ++ ']' :: rest) (by omega)
      (ends_cons (by decide))
    rw [moreItems, List.nil_append, readItems, hread]
    dsimp only
    rw [skipSpace_newLine, skipSpace_cons (by decide)]
    rfl
  | @cons u _ items items' hu _ ih =>
    obtain _ | limit := limit
    · cases hlimit
    rw [moreItems_cons] at hlimit ⊢
    simp only [List.length_cons, List.length_append] at hlimit
    simp only [List.cons_append, List.append_assoc]
    have hread := hv.read level limit
      (',' :: (newLine level ++
        (u.chars level ++ (moreItems level items ++ (newLine outer ++ ']' :: rest)))))
      (by omega) (ends_cons (by decide))
    have hmore := ih hu limit (by omega)
    rw [readItems, hread]
    dsimp only
    rw [skipSpace_cons (by decide)]
    show (readItems limit (newLine level ++ _)).map _ = _
    rw [readItems_newLine, hmore]
    rfl

theorem readMembers_chars {name : String} {w : Value} {members members' : List (String × Value)}
    (hv : Reads v w) (hmembers : List.Forall₂ MemberReads members members')
    (level limit outer : Nat) (rest : List Char)
    (hlimit : (v.chars level).length + (moreMembers level members).length < limit) :
    readMembers limit (nameChars name ++ (v.chars level ++ (moreMembers level members ++
        (newLine outer ++ '\x7d' :: rest)))) =
      some (((name, w) :: members').map fun m => (some m.1, m.2), rest) := by
  induction hmembers generalizing name v w limit with
  | nil =>
    obtain _ | limit := limit
    · cases hlimit
    have hread := hv.read level limit (newLine outer ++ '\x7d' :: rest) (by omega)
      (ends_cons (by decide))
    rw [moreMembers, List.nil_append, readMembers, readName_nameChars]
    dsimp only
    rw [readValue_blank, hread]
    dsimp only
    rw [skipSpace_newLine, skipSpace_cons (by decide)]
    rfl
  | @cons m m' members members' hm _ ih =>
    obtain ⟨name', u⟩ := m
    obtain ⟨_, u'⟩ := m'
    obtain ⟨rfl, hu⟩ := hm
    obtain _ | limit := limit
    · cases hlimit
    rw [moreMembers_cons] at hlimit ⊢
    simp only [List.length_cons, List.length_append] at hlimit
    simp only [List.cons_append, List.append_assoc]
    have hread := hv.read level limit
      (',' :: (newLine level ++ (nameChars name' ++
        (u.chars level ++ (moreMembers level members ++ (newLine outer ++ '\x7d' :: rest))))))
      (by omega) (ends_cons (by decide))
    have hmore := @ih u name' u' hu limit (by omega)
    rw [readMembers, readName_nameChars]
    dsimp only
    rw [readValue_blank, hread]
    dsimp only
    rw [skipSpace_cons (by decide)]
    show (readMembers limit (newLine level ++ _)).map _ = _
    rw [readMembers_newLine, hmore]
    rfl

theorem ofMembers_named (members : List (String × Value)) :
    Value.ofMembers (members.map fun m => (some m.1, m.2)) = .object members := by
  have hmap : (members.map fun m : String × Value => (some m.1, m.2)).mapM
      (fun m => m.1.map (·, m.2)) = some members := by
    induction members with
    | nil => rfl
    | cons m members ih =>
      rw [List.map_cons, List.mapM_cons, ih]
      rfl
  unfold Value.ofMembers
  split
  · rename_i members' heq
    cases hmap.symm.trans heq
    rfl
  · rename_i heq
    cases hmap.symm.trans heq

/-! ## 4. Documents

Each kind of value, from its parts. -/

/-- A value has at least one character, so the limit is not zero. -/
theorem reads_of_succ {w : Value} (hopens : ∀ level, ∃ c cs, v.chars level = c :: cs ∧ Opens c)
    (hread : ∀ level limit rest, (v.chars level).length ≤ limit + 1 → Ends rest →
      readValue (limit + 1) (v.chars level ++ rest) = some (w, rest)) : Reads v w := by
  refine ⟨hopens, fun level limit rest hlimit hends => ?_⟩
  obtain ⟨c, cs, hchars, -⟩ := hopens level
  cases limit with
  | zero =>
    rw [hchars] at hlimit
    cases hlimit
  | succ limit => exact hread level limit rest hlimit hends

theorem reads_null : Reads .null .null := by
  refine reads_of_succ (fun level => ?_) fun level limit rest _ _ => ?_
  · exact ⟨'n', _, by rw [Value.chars], by decide, by decide⟩
  · rw [Value.chars]
    rfl

theorem reads_bool (b : Bool) : Reads (.bool b) (.bool b) := by
  refine reads_of_succ (fun level => ?_) fun level limit rest _ _ => ?_
  · cases b with
    | true => exact ⟨'t', _, by rw [Value.chars], by decide, by decide⟩
    | false => exact ⟨'f', _, by rw [Value.chars], by decide, by decide⟩
  · cases b <;> rw [Value.chars] <;> rfl

theorem reads_number {n n' : Number} (h : n.ReadAs n') : Reads (.number n) (.number n') := by
  have hopens : ∀ level, ∃ c cs, (Value.number n).chars level = c :: cs ∧ Opens c := by
    intro level
    obtain ⟨_, hread, -⟩ := h
    obtain ⟨c, cs, hchars, hc⟩ := Numeral.head_of_read hread
    exact ⟨c, cs, by rw [Value.chars, hchars], opens_of_numeral hc⟩
  refine reads_of_succ hopens fun level limit rest _ hends => ?_
  obtain ⟨numeral, hread, hvalue⟩ := h.read_append hends
  obtain ⟨c, cs, hchars, hc⟩ := Numeral.head_of_read hread
  rw [Value.chars, hchars, readValue_numeral hc, ← hchars, hread, Option.map_some, hvalue]
  rfl

theorem reads_text (s : String) : Reads (.text s) (.text s) := by
  refine reads_of_succ (fun level => ?_) fun level limit rest _ _ => ?_
  · exact ⟨'"', _, by rw [Value.chars, encode, List.cons_append], by decide, by decide⟩
  · rw [Value.chars]
    exact readValue_text limit s rest

theorem reads_array {items items' : List Value} (hitems : List.Forall₂ Reads items items') :
    Reads (.array items) (.array items') := by
  refine reads_of_succ (fun level => ?_) fun level limit rest hlimit _ => ?_
  · cases hitems with
    | nil => exact ⟨'[', _, by rw [Value.chars], by decide, by decide⟩
    | @cons v _ items _ _ _ => exact ⟨'[', _, chars_array level v items, by decide, by decide⟩
  · cases hitems with
    | nil =>
      rw [Value.chars]
      rfl
    | @cons v _ items _ hv hitems =>
      rw [chars_array] at hlimit ⊢
      simp only [List.length_cons, List.length_append] at hlimit
      simp only [List.cons_append, List.append_assoc, List.nil_append]
      have hread := readItems_chars hv hitems (level + 1) limit level rest (by omega)
      obtain ⟨c, cs, hchars, hc⟩ := hv.opens (level + 1)
      rw [hchars, List.cons_append] at hread ⊢
      rw [readValue_bracket, skipSpace_newLine, skipSpace_cons hc.1, readArray_of_opens hc, hread]
      rfl

theorem reads_object {members members' : List (String × Value)}
    (hmembers : List.Forall₂ MemberReads members members') :
    Reads (.object members) (.object members') := by
  refine reads_of_succ (fun level => ?_) fun level limit rest hlimit _ => ?_
  · cases hmembers with
    | nil => exact ⟨'\x7b', _, by rw [Value.chars], by decide, by decide⟩
    | @cons m _ members _ _ _ =>
      exact ⟨'\x7b', _, chars_object level m.1 m.2 members, by decide, by decide⟩
  · cases hmembers with
    | nil =>
      rw [Value.chars]
      rfl
    | @cons m m' members members' hm hmembers =>
      obtain ⟨name, v⟩ := m
      obtain ⟨_, w⟩ := m'
      obtain ⟨rfl, hv⟩ := hm
      rw [chars_object] at hlimit ⊢
      simp only [List.length_cons, List.length_append] at hlimit
      simp only [List.cons_append, List.append_assoc, List.nil_append]
      have hread := @readMembers_chars v name w members members' hv hmembers (level + 1) limit
        level rest (by omega)
      rw [readValue_brace, skipSpace_newLine]
      show (readMembers limit (nameChars name ++ _)).map _ = _
      rw [hread, Option.map_some, ofMembers_named]

theorem Value.Readable.reads (h : v.Readable) : Reads v v := by
  induction h with
  | null => exact reads_null
  | bool b => exact reads_bool b
  | number h => exact reads_number h
  | text s => exact reads_text s
  | array _ ih => exact reads_array (List.forall₂_same.2 ih)
  | object _ ih => exact reads_object (List.forall₂_same.2 fun m hm => ⟨rfl, ih m hm⟩)

/-- A document is read as the value that its characters are read as. -/
theorem Reads.parse?_render {w : Value} (h : Reads v w) : Value.parse? v.render = some w := by
  have hread := h.read 0 (2 * (v.chars 0).length + 2) [] (by omega) nofun
  rw [List.append_nil] at hread
  unfold Value.parse?
  rw [Value.render, String.toList_ofList]
  dsimp only
  rw [hread]
  rfl

/-- **A value is read back from its document.** -/
theorem Value.parse?_render (h : v.Readable) : Value.parse? v.render = some v :=
  h.reads.parse?_render

end MotionTutor.Json
