import MotionTutor.Proofs.Command.Extension
import MotionTutor.Proofs.Selection.WellFormed

/-!
# Keys in two parts

Running keys in two parts comes to the same as running them at once (`Buffer.simulate_append`): the
second part starts where the first one ends, and its last decision on what is selected counts. Two
things could get in the way, and both are excluded:

* the first part may end within a command, which the second part would complete;
* the search that `;` and `,` repeat is not handed from the first part to the second. It matters
  only if the second part repeats a search before it has made one (`Token.SearchesAnew`).

Two runs of the same commands from one cursor may then still begin with different last searches.
`Simulation.Alike` says that the commands to come do not ask for the difference; every command keeps
that (`alike_run`), so the runs reach one cursor and decide alike what is selected (`runAll_alike`).
-/

namespace MotionTutor

/-! ## 1. Making and repeating searches -/

namespace Motion

/-- The motion is a search of its own. -/
def isSearch : Motion → Bool
  | search _ => true
  | _ => false

/-- The motion repeats the last search. -/
def repeatsSearch : Motion → Bool
  | repeatSearch | repeatSearchReversed => true
  | _ => false

variable {m : Motion} {last last' : Option Search}

/-- A search of its own is remembered, whichever was the last one before. -/
theorem remembered_of_isSearch (h : m.isSearch = true) :
    m.remembered last = m.remembered last' := by
  cases m with
  | search s => rfl
  | _ => cases h

/-- Only a motion that repeats a search asks for the last one. -/
theorem searchOf?_congr (h : last = last' ∨ m.repeatsSearch = false) :
    m.searchOf? last = m.searchOf? last' := by
  rcases h with rfl | h
  · rfl
  · cases m with
    | repeatSearch => cases h
    | repeatSearchReversed => cases h
    | _ => rfl

theorem isInclusive_congr (h : last = last' ∨ m.repeatsSearch = false) :
    m.isInclusive last = m.isInclusive last' := by
  unfold isInclusive
  rw [searchOf?_congr h]

/-- An operator turns no motion into one that repeats a search, nor the other way. -/
theorem repeatsSearch_underOperator (operator : Operator) (underCursor : Option Char) :
    (m.underOperator operator underCursor).repeatsSearch = m.repeatsSearch := by
  unfold underOperator
  split
  · split
    · rfl
    · rfl
  · rfl

end Motion

namespace Buffer

variable {b : Buffer} {m : Motion} {last last' : Option Search}

theorem destination_congr (h : last = last' ∨ m.repeatsSearch = false) (count : Option Nat)
    (p : Position) : b.destination last m count p = b.destination last' m count p := by
  rcases h with rfl | h
  · rfl
  · cases m with
    | repeatSearch => cases h
    | repeatSearchReversed => cases h
    | _ => rfl

theorem selectMotion_congr (h : last = last' ∨ m.repeatsSearch = false) (operator : Operator)
    (count : Option Nat) (p : Position) :
    b.selectMotion last operator m count p = b.selectMotion last' operator m count p := by
  have hunder : last = last' ∨ (m.underOperator operator (b.charAt p)).repeatsSearch = false := by
    rw [Motion.repeatsSearch_underOperator]
    exact h
  unfold selectMotion
  dsimp only
  rw [destination_congr hunder, Motion.isInclusive_congr hunder]

end Buffer

namespace Command

/-- The motion of a command, plain or under an operator. -/
def motion? : Command → Option Motion
  | motion m | operate _ m => some m
  | _ => none

/-- The command makes a search of its own, plain or under an operator. -/
def searches (c : Command) : Bool := c.motion?.any Motion.isSearch

/-- The command repeats the last search, plain or under an operator. -/
def repeatsSearch (c : Command) : Bool := c.motion?.any Motion.repeatsSearch

theorem searches_of_motion? {c : Command} {m : Motion} (h : c.motion? = some m) :
    c.searches = m.isSearch := by
  rw [searches, h]
  rfl

theorem repeatsSearch_of_motion? {c : Command} {m : Motion} (h : c.motion? = some m) :
    c.repeatsSearch = m.repeatsSearch := by
  rw [repeatsSearch, h]
  rfl

/-- A command that makes a search repeats none. -/
theorem repeatsSearch_of_searches {c : Command} (h : c.searches = true) :
    c.repeatsSearch = false := by
  cases hm : c.motion? with
  | none =>
    rw [repeatsSearch, hm]
    rfl
  | some m =>
    rw [searches_of_motion? hm] at h
    rw [repeatsSearch_of_motion? hm]
    cases m with
    | search s => rfl
    | _ => cases h

end Command

namespace Token

/-- No search is repeated before one is made: none of the tokens in front of the first search, or of
all tokens if there is no search, repeats one. -/
def SearchesAnew (tokens : List Token) : Prop :=
  ∀ t ∈ tokens.takeWhile fun t => !t.command.searches, t.command.repeatsSearch = false

instance (tokens : List Token) : Decidable (SearchesAnew tokens) :=
  inferInstanceAs (Decidable (∀ t ∈ tokens.takeWhile fun t => !t.command.searches,
    t.command.repeatsSearch = false))

variable {t : Token} {tokens : List Token}

theorem SearchesAnew.head (h : SearchesAnew (t :: tokens)) : t.command.repeatsSearch = false := by
  cases hs : t.command.searches with
  | true => exact Command.repeatsSearch_of_searches hs
  | false =>
    refine h t ?_
    rw [List.takeWhile_cons_of_pos (by rw [hs]; rfl)]
    exact List.mem_cons_self

theorem SearchesAnew.tail (h : SearchesAnew (t :: tokens)) (ht : t.command.searches = false) :
    SearchesAnew tokens := by
  intro u hu
  refine h u ?_
  rw [List.takeWhile_cons_of_pos (by rw [ht]; rfl)]
  exact List.mem_cons_of_mem t hu

end Token

/-! ## 2. Runs that go on alike -/

namespace Simulation

variable {b : Buffer} {s u : Simulation} {t : Token} {tokens : List Token}

/-- Two states that the commands to come cannot tell apart: the cursors are the same, and so are the
last searches, unless no command asks for them. -/
structure Alike (tokens : List Token) (s u : Simulation) : Prop where
  cursor : s.cursor = u.cursor
  lastSearch : s.lastSearch = u.lastSearch ∨ Token.SearchesAnew tokens

/-- The next command does not ask for a last search in which the states differ. -/
theorem Alike.head (h : Alike (t :: tokens) s u) :
    s.lastSearch = u.lastSearch ∨ t.command.repeatsSearch = false :=
  h.lastSearch.imp_right Token.SearchesAnew.head

/-- A command remembers the search that its motion remembers. -/
theorem lastSearch_run (b : Buffer) (s : Simulation) (t : Token) :
    (run b s t).lastSearch =
      t.command.motion?.elim s.lastSearch fun m => m.remembered s.lastSearch := by
  unfold run
  cases t.command <;> rfl

theorem cursor_run_of_alike (h : Alike (t :: tokens) s u) :
    (run b s t).cursor = (run b u t).cursor := by
  have hlast := h.head
  unfold run
  cases hc : t.command with
  | motion m =>
    rw [hc, Command.repeatsSearch_of_motion? rfl] at hlast
    dsimp only
    rw [h.cursor, Buffer.destination_congr hlast]
  | _ => exact h.cursor

/-- **The states are alike after the next command as well.** A command that makes a search leaves
both states with this one. -/
theorem alike_run (h : Alike (t :: tokens) s u) : Alike tokens (run b s t) (run b u t) := by
  refine ⟨cursor_run_of_alike h, ?_⟩
  rw [lastSearch_run, lastSearch_run]
  rcases h.lastSearch with heq | hanew
  · exact Or.inl (by rw [heq])
  · cases hs : t.command.searches with
    | false => exact Or.inr (hanew.tail hs)
    | true =>
      left
      obtain ⟨m, hm, hsearch⟩ := (Option.any_eq_true _ _).mp hs
      rw [hm]
      exact Motion.remembered_of_isSearch hsearch

/-- A command decides alike from states that are alike what is selected. -/
theorem selection_run_of_alike (h : Alike (t :: tokens) s u) (ht : t.command.selects = true) :
    (run b s t).selection = (run b u t).selection := by
  have hlast := h.head
  unfold run
  cases hc : t.command with
  | object operator o =>
    dsimp only
    rw [h.cursor]
  | operate operator m =>
    rw [hc, Command.repeatsSearch_of_motion? rfl] at hlast
    dsimp only
    rw [h.cursor, Buffer.selectMotion_congr hlast]
  | wholeLines operator =>
    dsimp only
    rw [h.cursor]
  | toLineEnd operator =>
    dsimp only
    rw [h.cursor]
  | _ =>
    rw [hc] at ht
    cases ht

/-- A command that does not decide what is selected leaves the selection. -/
theorem selection_run_of_not_selects (ht : t.command.selects = false) :
    (run b s t).selection = s.selection := by
  have hall : ∀ u ∈ [t], u.command.selects = false := by simpa using ht
  exact selection_runAll_of_not_selects hall

/-- **Runs of the same commands go on alike**: they reach one cursor, and they select the same if
they did so before or a command decides on it. -/
theorem runAll_alike (h : Alike tokens s u) :
    (runAll b s tokens).cursor = (runAll b u tokens).cursor ∧
      (s.selection = u.selection ∨ tokens.any (·.command.selects) = true →
        (runAll b s tokens).selection = (runAll b u tokens).selection) := by
  induction tokens generalizing s u with
  | nil => exact ⟨h.cursor, fun hsel => hsel.resolve_right Bool.false_ne_true⟩
  | cons t tokens ih =>
    obtain ⟨hcursor, hselection⟩ := ih (alike_run (b := b) h)
    refine ⟨hcursor, fun hsel => hselection ?_⟩
    cases ht : t.command.selects with
    | true => exact Or.inl (selection_run_of_alike h ht)
    | false =>
      rw [List.any_cons, ht, Bool.false_or] at hsel
      rw [selection_run_of_not_selects ht, selection_run_of_not_selects ht]
      exact hsel

end Simulation

/-! ## 3. Two parts -/

namespace Token

/-- Keys that do not end within a command leave nothing pending. -/
theorem ofKeys_append_of_complete {a : Keys} (b : Keys)
    (h : ∀ t ∈ (ofKeys a).getLast?, t.pending? = none) : ofKeys (a ++ b) = ofKeys a ++ ofKeys b := by
  have hlast : (ofKeys a).getLast?.bind pending? = none := Option.bind_eq_none_iff.mpr h
  rw [ofKeys_append, settled, pendingKeys, hlast]
  rfl

end Token

/-- **Running keys composes.** If the first keys do not end within a command, and the others repeat
no search before they make one, then both together lead to where the others lead from the place that
the first reach; and what is selected is what the others select if one of their commands decides on
it, even if it selects nothing, and else what the first selected. -/
theorem Buffer.simulate_append (b : Buffer) (start : Position) (before after : Keys)
    (hbefore : ∀ t ∈ (Token.ofKeys before).getLast?, t.pending? = none)
    (hafter : Token.SearchesAnew (Token.ofKeys after)) :
    (b.simulate start (before ++ after)).position =
        (b.simulate (b.simulate start before).position after).position ∧
      (b.simulate start (before ++ after)).selection =
        if (Token.ofKeys after).any (·.command.selects) then
          (b.simulate (b.simulate start before).position after).selection
        else (b.simulate start before).selection := by
  have htokens := Token.ofKeys_append_of_complete after hbefore
  unfold simulate
  dsimp only
  rw [htokens, Simulation.runAll_append]
  generalize hs : Simulation.runAll b (.start b start) (Token.ofKeys before) = s
  -- the cursor after the first keys is a cell of the buffer, so a start from it is a start on it
  have hcursor : b.clamp (b.clamp s.cursor) = s.cursor := by
    have hin := Simulation.inBounds_runAll (Simulation.inBounds_start b start) (Token.ofKeys before)
    rw [hs] at hin
    rw [clamp_of_inBounds hin, clamp_of_inBounds hin]
  have halike : Simulation.Alike (Token.ofKeys after) s (.start b (b.clamp s.cursor)) :=
    ⟨hcursor.symm, Or.inr hafter⟩
  obtain ⟨hreached, hselected⟩ := Simulation.runAll_alike (b := b) halike
  refine ⟨congrArg b.clamp hreached, ?_⟩
  split
  · rename_i hany
    exact hselected (Or.inr hany)
  · rename_i hany
    refine Simulation.selection_runAll_of_not_selects fun t ht => ?_
    exact Bool.eq_false_iff.mpr fun hsel => hany (List.any_eq_true.mpr ⟨t, ht, hsel⟩)

/-- The first keys leave a search behind, and the others make their own, under an operator, before
they repeat it. -/
theorem Buffer.simulate_append_searches :
    let b := Buffer.ofLines [['a', '.', 'b', '.', 'c', '.', 'd']]
    let before : Keys := ['v', 'f', '.', 'w']
    let after : Keys := ['d', 't', 'c', ';', '2', ',']
    (∀ t ∈ (Token.ofKeys before).getLast?, t.pending? = none) ∧
      Token.SearchesAnew (Token.ofKeys after) ∧
      (b.simulate ⟨0, 0⟩ (before ++ after)).position =
        (b.simulate (b.simulate ⟨0, 0⟩ before).position after).position ∧
      (b.simulate ⟨0, 0⟩ (before ++ after)).selection =
        (b.simulate (b.simulate ⟨0, 0⟩ before).position after).selection := by
  intro b before after
  have hbefore : ∀ t ∈ (Token.ofKeys before).getLast?, t.pending? = none := by decide +kernel
  have hafter : Token.SearchesAnew (Token.ofKeys after) := by decide +kernel
  obtain ⟨hposition, hselection⟩ := Buffer.simulate_append b ⟨0, 0⟩ before after hbefore hafter
  rw [if_pos (by decide +kernel)] at hselection
  exact ⟨hbefore, hafter, hposition, hselection⟩

end MotionTutor
