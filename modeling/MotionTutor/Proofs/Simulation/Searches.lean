import MotionTutor.Proofs.Command.Grammar
import MotionTutor.Proofs.Simulation.Composition
import MotionTutor.Proofs.Travel.Occurrences

/-!
# Searches in a run of commands

A search lands by the occurrences of its target beyond the cursor (`Buffer.LandsOnOccurrences`), and
`;` and `,` do what the last search of the commands before would do, plain or under an operator,
found or not (`Simulation.RepeatsSearch`). Both are said of a run from any start in
`Simulation.run_searches`.

To repeat a search does not make it the last one anew, also not the other way. So `,` finds the
search that `;` repeated and leads back from it, if the cursor stood on an occurrence
(`Buffer.simulate_repeat_undone`).
-/

namespace MotionTutor

/-! ## 1. The last search -/

/-- The search that the command makes, plain or under an operator. -/
def Command.search? (c : Command) : Option Search :=
  match c.motion? with
  | some (.search s) => some s
  | _ => none

/-- The last search that the commands make. -/
def Token.lastSearch? (tokens : List Token) : Option Search :=
  tokens.reverse.findSome? (·.command.search?)

variable {b : Buffer} {s : Search} {m back : Motion} {p q : Position} {n : Nat}
  {count : Option Nat}

namespace Simulation

variable {u : Simulation}

theorem lastSearch_run_eq (b : Buffer) (u : Simulation) (t : Token) :
    (run b u t).lastSearch = t.command.search?.or u.lastSearch := by
  rw [lastSearch_run, Command.search?]
  cases t.command.motion? with
  | none => rfl
  | some m => cases m <;> rfl

/-- **A run remembers the last search of its commands.** -/
theorem lastSearch_runAll (b : Buffer) (u : Simulation) (tokens : List Token) :
    (runAll b u tokens).lastSearch = (Token.lastSearch? tokens).or u.lastSearch := by
  induction tokens generalizing u with
  | nil => rfl
  | cons t tokens ih =>
    have hcons : Token.lastSearch? (t :: tokens) =
        (Token.lastSearch? tokens).or t.command.search? := by
      rw [Token.lastSearch?, List.reverse_cons, List.findSome?_append, List.findSome?_singleton]
      rfl
    rw [hcons, Option.or_assoc, ← lastSearch_run_eq b]
    exact ih (run b u t)

theorem lastSearch_runAll_start (b : Buffer) (start : Position) (tokens : List Token) :
    (runAll b (.start b start) tokens).lastSearch = Token.lastSearch? tokens := by
  rw [lastSearch_runAll, Simulation.start, Option.or_none]

end Simulation

/-! ## 2. Motions that search -/

/-- A motion that searches goes where its search leads. -/
theorem Buffer.destination_of_searchOf? {last : Option Search} (hm : m.searchOf? last = some s)
    (count : Option Nat) (p : Position) :
    b.destination last m count p = b.searchTimes s (timesOf count) p := by
  cases m with
  | search s' =>
    cases hm
    rfl
  | repeatSearch =>
    rw [Motion.searchOf?] at hm
    rw [destination, hm, Option.bind_some]
  | repeatSearchReversed =>
    obtain ⟨s', rfl, rfl⟩ := Option.map_eq_some_iff.mp hm
    rfl
  | _ => cases hm

namespace Simulation

variable {u : Simulation}

/-- A search that fails leaves the cursor where it is. -/
theorem cursor_run_of_searchOf? (h : b.InBounds u.cursor)
    (hm : m.searchOf? u.lastSearch = some s) (count : Option Nat) :
    (run b u ⟨count, .motion m⟩).cursor =
      (b.searchTimes s (timesOf count) u.cursor).getD u.cursor := by
  simp only [run, Buffer.destination_of_searchOf? hm]
  cases hq : b.searchTimes s (timesOf count) u.cursor with
  | none => rfl
  | some q => exact Buffer.clamp_of_inBounds (Buffer.inBounds_searchTimes h hq)

/-! ## 3. Repeated searches -/

/-- In this state `;` does with a count what this search does, and `,` what its reverse does but for
what is remembered, plain and under every operator. -/
structure RepeatsSearch (b : Buffer) (u : Simulation) (s : Search) (count : Option Nat) : Prop where
  again : run b u ⟨count, .motion .repeatSearch⟩ = run b u ⟨count, .motion (.search s)⟩
  back : run b u ⟨count, .motion .repeatSearchReversed⟩ =
    { run b u ⟨count, .motion (.search s.reversed)⟩ with lastSearch := some s }
  operateAgain : ∀ operator, run b u ⟨count, .operate operator .repeatSearch⟩ =
    run b u ⟨count, .operate operator (.search s)⟩
  operateBack : ∀ operator, run b u ⟨count, .operate operator .repeatSearchReversed⟩ =
    { run b u ⟨count, .operate operator (.search s.reversed)⟩ with lastSearch := some s }

theorem repeatsSearch (hu : u.lastSearch = some s) (count : Option Nat) :
    RepeatsSearch b u s count := by
  obtain ⟨cursor, lastSearch, selection⟩ := u
  cases hu
  exact ⟨rfl, rfl, fun operator => rfl, fun operator => rfl⟩

/-- Without a search before, `;` and `,` do nothing. -/
theorem run_of_repeatsSearch_of_none (hu : u.lastSearch = none) (hm : m.repeatsSearch = true)
    (count : Option Nat) : run b u ⟨count, .motion m⟩ = u := by
  obtain ⟨cursor, lastSearch, selection⟩ := u
  cases hu
  cases m with
  | repeatSearch => rfl
  | repeatSearchReversed => rfl
  | _ => cases hm

/-- From any state, a search with a count lands on occurrences. -/
theorem landsOnOccurrences_run (h : b.InBounds u.cursor) (x : Char) (hn : 1 ≤ n) :
    b.LandsOnOccurrences u.cursor x n fun s =>
      (run b u ⟨some n, .motion (.search s)⟩).cursor := by
  have hgo : (fun s => (run b u ⟨some n, .motion (.search s)⟩).cursor) =
      fun s => (b.searchTimes s n u.cursor).getD u.cursor := by
    funext s
    rw [cursor_run_of_searchOf? h rfl, timesOf, Option.getD_some, Nat.max_eq_right hn]
  rw [hgo]
  exact Buffer.landsOnOccurrences h x hn

/-- So do its keys. -/
theorem landsOnOccurrences_simulate (h : b.InBounds p) (x : Char) (hn : 1 ≤ n)
    (hmax : n ≤ maxCount) :
    b.LandsOnOccurrences p x n fun s =>
      (b.simulate p (Decimal.digits n ++ (Motion.search s).keys)).position := by
  have hgo : (fun s => (b.simulate p (Decimal.digits n ++ (Motion.search s).keys)).position) =
      fun s => (run b (.start b p) ⟨some n, .motion (.search s)⟩).cursor := by
    funext s
    have hkeys := Token.ofKeys_counted (m := .search s) nofun hn []
    rw [List.append_nil, Nat.min_eq_right hmax, Token.ofKeys_nil] at hkeys
    rw [Buffer.position_simulate, hkeys]
    rfl
  have hstart : (Simulation.start b p).cursor = p := Buffer.clamp_of_inBounds h
  have hland := landsOnOccurrences_run (inBounds_start b p) x hn
  rw [hgo]
  rwa [hstart] at hland

/-- **Searches land exactly on the occurrence that they count, and `;` and `,` repeat the last
one.** The first holds in every state with its cursor in the buffer, and for the keys of a search
from every cell. The second holds after any commands from any start; without a search among them `;`
and `,` do nothing. -/
theorem run_searches (b : Buffer) :
    (∀ u : Simulation, b.InBounds u.cursor → ∀ x n, 1 ≤ n →
      b.LandsOnOccurrences u.cursor x n fun s =>
        (run b u ⟨some n, .motion (.search s)⟩).cursor) ∧
    (∀ p, b.InBounds p → ∀ x n, 1 ≤ n → n ≤ maxCount →
      b.LandsOnOccurrences p x n fun s =>
        (b.simulate p (Decimal.digits n ++ (Motion.search s).keys)).position) ∧
    ∀ start tokens count,
      match Token.lastSearch? tokens with
      | some s => RepeatsSearch b (runAll b (.start b start) tokens) s count
      | none => ∀ m ∈ [Motion.repeatSearch, .repeatSearchReversed],
        run b (runAll b (.start b start) tokens) ⟨count, .motion m⟩ =
          runAll b (.start b start) tokens := by
  refine ⟨fun u hu x n hn => landsOnOccurrences_run hu x hn,
    fun p hp x n hn hmax => landsOnOccurrences_simulate hp x hn hmax,
    fun start tokens count => ?_⟩
  have hlast := lastSearch_runAll_start b start tokens
  split
  · rename_i s hs
    exact repeatsSearch (hlast.trans hs) count
  · rename_i hnone
    intro m hm
    have hrepeats : m.repeatsSearch = true := by
      rcases List.mem_cons.mp hm with rfl | hm
      · rfl
      · rw [List.mem_singleton.mp hm]
        rfl
    exact run_of_repeatsSearch_of_none (hlast.trans hnone) hrepeats count

/-- Two dots lie beyond the first cell; and after a search that fails under an operator and a motion
behind it, this search is the one that is repeated. -/
theorem run_searches_failed_before :
    let b := Buffer.ofTexts ["a.b.c", ""]
    let tokens : List Token := [⟨none, .motion (.search ⟨.forward, .onTarget, '.'⟩)⟩,
      ⟨some 3, .operate .delete (.search ⟨.backward, .besideTarget, 'c'⟩)⟩, ⟨none, .motion .right⟩]
    b.InBounds ⟨0, 0⟩ ∧
      b.LandsOnOccurrences ⟨0, 0⟩ '.' 2 (fun s =>
        (b.simulate ⟨0, 0⟩ (Decimal.digits 2 ++ (Motion.search s).keys)).position) ∧
      b.occurrencesBeyond .forward '.' ⟨0, 0⟩ = [1, 3] ∧
      RepeatsSearch b (runAll b (.start b ⟨0, 0⟩) tokens) ⟨.backward, .besideTarget, 'c'⟩
        (some 2) := by
  intro b tokens
  have hin : b.InBounds ⟨0, 0⟩ := ⟨by decide, by decide⟩
  obtain ⟨-, hkeys, hrepeat⟩ := run_searches b
  exact ⟨hin, hkeys ⟨0, 0⟩ hin '.' 2 (by decide) (by decide), by decide,
    hrepeat ⟨0, 0⟩ tokens (some 2)⟩

/-- The other way from where a repeated search led, the cursor comes back to an occurrence. -/
theorem cursor_run_back (h : b.InBounds u.cursor) (hm : m.repeatsSearch = true)
    (hs : m.searchOf? u.lastSearch = some s) (hback : back.searchOf? u.lastSearch = some s.reversed)
    (hlanding : s.landing = .onTarget) (hx : b.charAt u.cursor = some s.target)
    (hmoves : (run b u ⟨count, .motion m⟩).cursor ≠ u.cursor) :
    (run b (run b u ⟨count, .motion m⟩) ⟨count, .motion back⟩).cursor = u.cursor := by
  have hlast : (run b u ⟨count, .motion m⟩).lastSearch = u.lastSearch := by
    cases m with
    | repeatSearch => rfl
    | repeatSearchReversed => rfl
    | _ => cases hm
  have hin := inBounds_run h ⟨count, .motion m⟩
  have hcursor := cursor_run_of_searchOf? h hs count
  rw [cursor_run_of_searchOf? hin (by rw [hlast]; exact hback)]
  cases hq : b.searchTimes s (timesOf count) u.cursor with
  | none =>
    rw [hq] at hcursor
    exact absurd hcursor hmoves
  | some q =>
    rw [hq, Option.getD_some] at hcursor
    rw [hcursor, Buffer.searchTimes_reversed hlanding h hx hq]
    rfl

/-- Behind keys that do not end within a command, a motion with its count is run as one command. -/
theorem runAll_ofKeys_motion {before : Keys}
    (hbefore : ∀ t ∈ (Token.ofKeys before).getLast?, t.pending? = none) (count : Option Nat)
    (hcount : ∀ n ∈ count, 1 ≤ n) (hline : m = .lineStart → count = none) (rest : Keys) :
    runAll b u (Token.ofKeys (before ++ (count.elim [] Decimal.digits ++ m.keys ++ rest))) =
      runAll b (run b (runAll b u (Token.ofKeys before)) ⟨count.map (min maxCount), .motion m⟩)
        (Token.ofKeys rest) := by
  rw [Token.ofKeys_append_of_complete _ hbefore, Token.ofKeys_motion count hcount hline,
    runAll_append]
  rfl

end Simulation

theorem Search.reversed_reversed (s : Search) : s.reversed.reversed = s := by
  obtain ⟨direction, landing, target⟩ := s
  cases direction with
  | forward => rfl
  | backward => rfl

/-! ## 4. Keys -/

/-- Two repeated searches, the second one the other way. -/
theorem Buffer.position_simulate_back (m back : Motion) {start : Position} {before : Keys}
    (hbefore : ∀ t ∈ (Token.ofKeys before).getLast?, t.pending? = none)
    (hm : m.repeatsSearch = true) (hback : back.repeatsSearch = true)
    (hs : m.searchOf? (Token.lastSearch? (Token.ofKeys before)) = some s)
    (hreversed : back.searchOf? (Token.lastSearch? (Token.ofKeys before)) = some s.reversed)
    (hlanding : s.landing = .onTarget)
    (hx : b.charAt (b.simulate start before).position = some s.target) (hn : 1 ≤ n)
    (hmoves : (b.simulate start (before ++ (Decimal.digits n ++ m.keys))).position ≠
      (b.simulate start before).position) :
    (b.simulate start (before ++ (Decimal.digits n ++ m.keys ++
      (Decimal.digits n ++ back.keys)))).position = (b.simulate start before).position := by
  have hne : ∀ m : Motion, m.repeatsSearch = true → m ≠ .lineStart := by
    rintro m hm rfl
    cases hm
  have hin := Simulation.inBounds_runAll (Simulation.inBounds_start b start) (Token.ofKeys before)
  have hlast := Simulation.lastSearch_runAll_start b start (Token.ofKeys before)
  have hfirst := Simulation.runAll_ofKeys_motion (b := b) (u := .start b start) hbefore (some n)
    (one_le_of_mem_some hn) fun h => absurd h (hne m hm)
  simp only [Option.elim_some, Option.map_some] at hfirst
  have hsecond := Token.ofKeys_counted (hne back hback) hn []
  rw [List.append_nil, Token.ofKeys_nil] at hsecond
  have honce := hfirst []
  rw [List.append_nil, Token.ofKeys_nil] at honce
  rw [position_simulate, position_simulate] at hmoves ⊢
  rw [position_simulate] at hx
  rw [honce] at hmoves
  rw [hfirst, hsecond]
  rw [← hlast] at hs hreversed
  exact Simulation.cursor_run_back hin hm hs hreversed hlanding hx hmoves

/-- **`,` undoes `;`.** -/
theorem Buffer.simulate_repeat_undone (b : Buffer) (start : Position) (before : Keys)
    (hbefore : ∀ t ∈ (Token.ofKeys before).getLast?, t.pending? = none)
    (hs : Token.lastSearch? (Token.ofKeys before) = some s) (hlanding : s.landing = .onTarget)
    (hx : b.charAt (b.simulate start before).position = some s.target) (hn : 1 ≤ n) :
    let here := (b.simulate start before).position
    let again := Decimal.digits n ++ [';']
    let back := Decimal.digits n ++ [',']
    ((b.simulate start (before ++ again)).position ≠ here →
        (b.simulate start (before ++ (again ++ back))).position = here) ∧
      ((b.simulate start (before ++ back)).position ≠ here →
        (b.simulate start (before ++ (back ++ again))).position = here) := by
  intro here again back
  have hagain : Motion.repeatSearch.searchOf? (Token.lastSearch? (Token.ofKeys before)) = some s :=
    hs
  have hback : Motion.repeatSearchReversed.searchOf? (Token.lastSearch? (Token.ofKeys before)) =
      some s.reversed := congrArg (Option.map _) hs
  constructor
  · exact position_simulate_back .repeatSearch .repeatSearchReversed hbefore rfl rfl hagain hback
      hlanding hx hn
  · rw [← s.reversed_reversed] at hagain
    exact position_simulate_back .repeatSearchReversed .repeatSearch hbefore rfl rfl hback hagain
      hlanding hx hn

/-- From the first of three dots to the last, and back. -/
theorem Buffer.simulate_repeat_undone_three :
    let b := Buffer.ofTexts ["x.y.z.w"]
    let before : Keys := ['f', '.']
    (∀ t ∈ (Token.ofKeys before).getLast?, t.pending? = none) ∧
      Token.lastSearch? (Token.ofKeys before) = some ⟨.forward, .onTarget, '.'⟩ ∧
      b.charAt (b.simulate ⟨0, 0⟩ before).position = some '.' ∧
      (b.simulate ⟨0, 0⟩ (before ++ (Decimal.digits 2 ++ [';']))).position = ⟨0, 5⟩ ∧
      (b.simulate ⟨0, 0⟩
        (before ++ (Decimal.digits 2 ++ [';'] ++ (Decimal.digits 2 ++ [','])))).position =
          (b.simulate ⟨0, 0⟩ before).position := by
  intro b before
  have hbefore : ∀ t ∈ (Token.ofKeys before).getLast?, t.pending? = none := by decide +kernel
  have hs : Token.lastSearch? (Token.ofKeys before) = some ⟨.forward, .onTarget, '.'⟩ := by
    decide +kernel
  have hx : b.charAt (b.simulate ⟨0, 0⟩ before).position = some '.' := by decide +kernel
  have hthree : (b.simulate ⟨0, 0⟩ (before ++ (Decimal.digits 2 ++ [';']))).position = ⟨0, 5⟩ := by
    decide +kernel
  have hundone := b.simulate_repeat_undone ⟨0, 0⟩ before hbefore hs rfl hx
    (show 1 ≤ 2 by decide)
  exact ⟨hbefore, hs, hx, hthree, hundone.1 (by decide +kernel)⟩

end MotionTutor
