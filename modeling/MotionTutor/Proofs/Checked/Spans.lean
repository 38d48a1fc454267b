import Mathlib.Logic.ExistsUnique
import MotionTutor.Proofs.Checked.Scanner

/-!
# Every key is read once

The scanner stands at a place and moves through the keys. While it reads a token it may look far
ahead and come back: behind a refused operator, a count and a motion that were read already are read
again. But **every call moves it on** (`scanAt_moves`), at a token that names nothing by two keys of
the command at most, and the calls from the first key on divide the keys into spans, one for each
token (`scan_consumes_once`).
-/

namespace MotionTutor.Checked

/-- A token, with the place where the scanner stood before it was read and the place behind it. -/
structure Span where
  token : Token
  start : Nat
  stop : Nat
deriving DecidableEq

namespace Span

/-- The keys between the two places. -/
def text (keys : Keys) (s : Span) : Keys := (keys.take s.stop).drop s.start

/-- A token that was not understood holds the keys of its span; cut short, it ends where they end,
and otherwise it takes no more of its command than two keys. -/
structure Tells (keys : Keys) (s : Span) : Prop where
  incomplete : ∀ held, s.token.command = .incomplete held →
    held = s.text keys ∧ s.stop = keys.length
  unknown : ∀ skipped, s.token.command = .unknown skipped →
    skipped = s.text keys ∧ s.stop ≤ (countAt keys s.start).2 + 2

end Span

/-! ## 1. One call -/

variable {keys : Keys} {place first stop : Nat} {spans : List Span}

/-- The keys that a token leaves say where its span ends. -/
theorem take_drop_eq_text {next : Nat} (t : Token) (h : next ≤ keys.length) :
    (keys.drop place).take ((keys.drop place).length - (keys.drop next).length) =
      Span.text keys ⟨t, place, next⟩ := by
  have hlen : (keys.drop place).length - (keys.drop next).length = next - place := by
    rw [List.length_drop, List.length_drop]
    omega
  rw [hlen, Span.text, List.drop_take]

/-- A token read at a place tells its span, if it was not understood. -/
theorem tells_of_scan {t : Token} {next : Nat} (h : place ≤ keys.length) (hnext : next ≤ keys.length)
    (hscan : Token.scan (keys.drop place) = some (t, keys.drop next)) :
    Span.Tells keys ⟨t, place, next⟩ where
  incomplete held ht := by
    have hpending : t.pending? = some held := by rw [Token.pending?, ht]
    obtain ⟨rfl, hrest⟩ := Token.scan_of_pending hscan hpending
    have hend : next = keys.length := Nat.le_antisymm hnext (List.drop_eq_nil_iff.mp hrest)
    rw [Span.text, hend, List.take_length]
    exact ⟨rfl, rfl⟩
  unknown skipped ht := by
    obtain ⟨htext, htwo⟩ := Token.scan_of_unknown hscan ht
    obtain ⟨-, -, hcount, hbody⟩ := countAt_reads h
    rw [hbody, List.length_drop, List.length_drop] at htwo
    have hstop : next ≤ (countAt keys place).2 + 2 := by omega
    rw [htext, take_drop_eq_text t hnext]
    exact ⟨rfl, hstop⟩

/-- **A call finds nothing at the end of the keys, and moves on anywhere before it.** -/
theorem scanAt_moves (keys : Keys) (place : Nat) :
    (keys.length ≤ place ∧ scanAt keys place = .ok none) ∨
      ∃ t next, scanAt keys place = .ok (some (t, next)) ∧ place < next ∧ next ≤ keys.length ∧
        Token.scan (keys.drop place) = some (t, keys.drop next) ∧
          Span.Tells keys ⟨t, place, next⟩ := by
  rcases Nat.lt_or_ge place keys.length with hlt | hge
  · right
    have hle := Nat.le_of_lt hlt
    rcases scanAt_reads hle with ⟨hnone, -⟩ | ⟨t, next, hnext, hscan, hread⟩
    · have hne : keys.drop place ≠ [] := mt List.drop_eq_nil_iff.mp (Nat.not_le.mpr hlt)
      obtain ⟨t, rest, hsome⟩ := Token.scan_isSome hne
      rw [hnone] at hsome
      cases hsome
    · have hshorter := lt_of_scanAt hread
      exact ⟨t, next, hread, by omega, hnext, hscan, tells_of_scan hle hnext hscan⟩
  · left
    rw [scanAt, List.getElem?_eq_none hge]
    exact ⟨hge, rfl⟩

theorem le_of_scanAt_none (h : scanAt keys place = .ok none) : keys.length ≤ place := by
  rcases scanAt_moves keys place with ⟨hend, -⟩ | ⟨t, next, hsome, -⟩
  · exact hend
  · rw [h] at hsome
    cases hsome

theorem moves_of_scanAt_some {t : Token} {next : Nat}
    (h : scanAt keys place = .ok (some (t, next))) :
    place < next ∧ next ≤ keys.length ∧ Span.Tells keys ⟨t, place, next⟩ := by
  rcases scanAt_moves keys place with ⟨-, hnone⟩ | ⟨t', next', hsome, hlt, hle, -, htells⟩
  · rw [h] at hnone
    cases hnone
  · rw [h] at hsome
    cases hsome
    exact ⟨hlt, hle, htells⟩

/-! ## 2. All calls -/

/-- The spans of the calls from a place on, up to the one that finds nothing. -/
inductive Scans (keys : Keys) : Nat → List Span → Prop
  | stop {place : Nat} (h : scanAt keys place = .ok none) : Scans keys place []
  | next {place next : Nat} {t : Token} {spans : List Span}
    (h : scanAt keys place = .ok (some (t, next))) (hrest : Scans keys next spans) :
    Scans keys place (⟨t, place, next⟩ :: spans)

/-- Spans that are not empty divide the places from `first` to `stop`. -/
def Tiles : Nat → List Span → Nat → Prop
  | first, [], stop => first = stop
  | first, s :: spans, stop => s.start = first ∧ s.start < s.stop ∧ Tiles s.stop spans stop

/-- **The calls come to an end**, and their tokens are those of the keys. -/
theorem exists_scans (h : place ≤ keys.length) :
    ∃ spans, Scans keys place spans ∧ spans.map (·.token) = Token.ofKeys (keys.drop place) := by
  induction hn : keys.length - place using Nat.strongRecOn generalizing place with
  | ind n ih =>
    rcases scanAt_moves keys place with ⟨hend, hnone⟩ | ⟨t, next, hsome, hlt, hle, hscan, -⟩
    · refine ⟨[], .stop hnone, ?_⟩
      rw [List.drop_eq_nil_of_le hend, Token.ofKeys_nil]
      rfl
    · obtain ⟨spans, hspans, htokens⟩ := ih (keys.length - next) (by omega) hle rfl
      refine ⟨⟨t, place, next⟩ :: spans, .next hsome hspans, ?_⟩
      rw [Token.ofKeys_of_scan hscan, List.map_cons, htokens]

theorem Scans.tiles (hs : Scans keys place spans) (h : place ≤ keys.length) :
    Tiles place spans keys.length := by
  induction hs with
  | stop hnone => exact Nat.le_antisymm h (le_of_scanAt_none hnone)
  | next hsome hrest ih =>
    obtain ⟨hlt, hle, -⟩ := moves_of_scanAt_some hsome
    exact ⟨rfl, hlt, ih hle⟩

theorem Scans.tells (hs : Scans keys place spans) : ∀ s ∈ spans, s.Tells keys := by
  induction hs with
  | stop _ => exact fun _ hs => absurd hs List.not_mem_nil
  | next hsome hrest ih =>
    obtain ⟨-, -, htells⟩ := moves_of_scanAt_some hsome
    exact List.forall_mem_cons.mpr ⟨htells, ih⟩

/-! ## 3. Spans that divide the keys -/

namespace Tiles

theorem first_le (ht : Tiles first spans stop) : first ≤ stop := by
  induction spans generalizing first with
  | nil => exact Nat.le_of_eq ht
  | cons s spans ih =>
    obtain ⟨rfl, hlt, hrest⟩ := ht
    exact Nat.le_of_lt (Nat.lt_of_lt_of_le hlt (ih hrest))

/-- There are no more spans than places. -/
theorem length_le (ht : Tiles first spans stop) : first + spans.length ≤ stop := by
  induction spans generalizing first with
  | nil => exact Nat.le_of_eq ht
  | cons s spans ih =>
    obtain ⟨rfl, hlt, hrest⟩ := ht
    have hle := ih hrest
    rw [List.length_cons]
    omega

/-- The texts of the spans, one behind the other, are the keys. -/
theorem flatMap_text (ht : Tiles first spans keys.length) :
    spans.flatMap (Span.text keys) = keys.drop first := by
  induction spans generalizing first with
  | nil =>
    obtain rfl : first = keys.length := ht
    exact List.drop_length.symm
  | cons s spans ih =>
    obtain ⟨rfl, hlt, hrest⟩ := ht
    have hsplit := List.take_append_drop (s.stop - s.start) (keys.drop s.start)
    rw [List.drop_drop, Nat.add_sub_cancel' (Nat.le_of_lt hlt)] at hsplit
    rw [List.flatMap_cons, ih hrest, Span.text, List.drop_take, hsplit]

theorem start_le_of_mem {s : Span} (ht : Tiles first spans stop) (hs : s ∈ spans) :
    first ≤ s.start := by
  induction spans generalizing first with
  | nil => cases hs
  | cons head spans ih =>
    obtain ⟨rfl, hlt, hrest⟩ := ht
    rcases List.mem_cons.mp hs with rfl | hs
    · exact Nat.le_refl _
    · exact Nat.le_trans (Nat.le_of_lt hlt) (ih hrest hs)

/-- **Every place lies in one span.** -/
theorem existsUnique_mem (ht : Tiles first spans stop) {i : Nat} (hi : first ≤ i)
    (hstop : i < stop) : ∃! s, s ∈ spans ∧ s.start ≤ i ∧ i < s.stop := by
  induction spans generalizing first with
  | nil =>
    obtain rfl : first = stop := ht
    exact absurd hstop (Nat.not_lt.mpr hi)
  | cons head spans ih =>
    obtain ⟨rfl, hlt, hrest⟩ := ht
    rcases Nat.lt_or_ge i head.stop with hhead | hbehind
    · refine ⟨head, ⟨List.mem_cons_self, hi, hhead⟩, fun s ⟨hs, hstart, _⟩ => ?_⟩
      rcases List.mem_cons.mp hs with rfl | hs
      · rfl
      · have hle := hrest.start_le_of_mem hs
        omega
    · obtain ⟨s, ⟨hs, hin⟩, hunique⟩ := ih hrest hbehind
      refine ⟨s, ⟨List.mem_cons_of_mem _ hs, hin⟩, fun s' ⟨hs', hin'⟩ => ?_⟩
      rcases List.mem_cons.mp hs' with rfl | hs'
      · exact absurd hin'.2 (Nat.not_lt.mpr hbehind)
      · exact hunique s' ⟨hs', hin'⟩

end Tiles

/-- The scanner reads every key once. -/
structure ConsumesOnce (keys : Keys) : Prop where
  /-- Wherever it stands, a call finds nothing at the end, or reads a token and moves on, not past
  the end; a token that was not understood holds the keys in between. -/
  moves : ∀ place, (keys.length ≤ place ∧ scanAt keys place = .ok none) ∨
    ∃ t next, scanAt keys place = .ok (some (t, next)) ∧ place < next ∧ next ≤ keys.length ∧
      Span.Tells keys ⟨t, place, next⟩
  /-- Calls from the first key on come to an end. Their tokens are those of the keys, and their
  spans divide the keys: one begins where the one before ends, together they are all the keys, each
  key lies in one span, and what is not understood holds its span. -/
  run : ∃ spans, Scans keys 0 spans ∧ spans.map (·.token) = Token.ofKeys keys ∧
    Tiles 0 spans keys.length ∧ spans.flatMap (Span.text keys) = keys ∧
      (∀ i < keys.length, ∃! s, s ∈ spans ∧ s.start ≤ i ∧ i < s.stop) ∧
        ∀ s ∈ spans, s.Tells keys
  /-- There are no more tokens than keys. -/
  length_le : (Token.ofKeys keys).length ≤ keys.length

/-- **Every key is read once**, though the scanner may go back. -/
theorem scan_consumes_once (keys : Keys) : ConsumesOnce keys := by
  obtain ⟨spans, hspans, htokens⟩ := exists_scans (Nat.zero_le keys.length)
  have htiles := hspans.tiles (Nat.zero_le _)
  rw [List.drop_zero] at htokens
  refine ⟨fun place => ?_, ⟨spans, hspans, htokens, htiles, htiles.flatMap_text, ?_, hspans.tells⟩,
    ?_⟩
  · rcases scanAt_moves keys place with hend | ⟨t, next, hsome, hlt, hle, -, htells⟩
    · exact Or.inl hend
    · exact Or.inr ⟨t, next, hsome, hlt, hle, htells⟩
  · exact fun i hi => htiles.existsUnique_mem (Nat.zero_le i) hi
  · have hlength := htiles.length_le
    rwa [Nat.zero_add, ← List.length_map (·.token), htokens] at hlength

/-- The count behind the operator was read, but only the operator is skipped. -/
example : countAt ['d', '1', '2', 'x'] 1 = (some 12, 3) ∧
    scanAt ['d', '1', '2', 'x'] 0 = .ok (some (⟨none, .unknown ['d']⟩, 1)) := ⟨rfl, rfl⟩

end MotionTutor.Checked
