import MotionTutor.Proofs.Text.Run

/-!
# Checked arithmetic

A computation by places and counters can fault in two ways: a difference falls below zero, or a
look-up goes past the end of a list. `Checked` computations make both visible: `sub`, `get` and
`slice` fault exactly then. The loops that the readers of lines are made of go from place to place
with these operations; each comes with the run or the search of the list that it finds, and with
the places from which it does not fault:

* `retreat` and `advance` go to the two ends of a run, `skipTo` to the end of one or to a limit;
* `findUp` and `findDown` look for the nearest place that passes a test.
-/

namespace MotionTutor

inductive Fault
  /-- A difference below zero. -/
  | belowZero
  /-- A place past the end. -/
  | pastEnd
deriving DecidableEq, Repr

/-- A computation that may fault. -/
abbrev Checked := Except Fault

namespace Checked

variable {α β : Type}

/-! ## 1. Operations -/

theorem ok_bind (a : α) (f : α → Checked β) : ((.ok a : Checked α) >>= f) = f a := rfl

theorem pure_eq (a : α) : (pure a : Checked α) = .ok a := rfl

/-- The difference of two numbers. -/
def sub (m n : Nat) : Checked Nat := if n ≤ m then .ok (m - n) else .error .belowZero

/-- The element at a place. -/
def get (xs : List α) (i : Nat) : Checked α :=
  match xs[i]? with
  | some x => .ok x
  | none => .error .pastEnd

/-- The elements from place `first` to before place `stop`. -/
def slice (xs : List α) (first stop : Nat) : Checked (List α) :=
  if first ≤ stop ∧ stop ≤ xs.length then .ok ((xs.take stop).drop first) else .error .pastEnd

theorem sub_of_le {m n : Nat} (h : n ≤ m) : sub m n = .ok (m - n) := if_pos h

theorem get_of_lt {xs : List α} {i : Nat} (h : i < xs.length) : get xs i = .ok xs[i] := by
  rw [get, List.getElem?_eq_getElem h]

theorem slice_of_le {xs : List α} {first stop : Nat} (h : first ≤ stop) (hs : stop ≤ xs.length) :
    slice xs first stop = .ok ((xs.take stop).drop first) := if_pos ⟨h, hs⟩

/-! ## 2. Runs -/

/-- Goes back while the element before passes the test. -/
def retreat (test : α → Bool) (xs : List α) : Nat → Checked Nat
  | 0 => return 0
  | i + 1 => do
    if test (← get xs i) then retreat test xs i else return i + 1

/-- Goes on while the element behind passes the test. -/
def advance (test : α → Bool) (xs : List α) (i : Nat) : Checked Nat :=
  if i + 1 < xs.length then do
    if test (← get xs (i + 1)) then advance test xs (i + 1) else return i
  else return i
termination_by xs.length - i

/-- Goes on while the element at hand passes the test, to `stop` at most. -/
def skipTo (test : α → Bool) (xs : List α) (stop i : Nat) : Checked Nat :=
  if i < stop then do
    if test (← get xs i) then skipTo test xs stop (i + 1) else return i
  else return i
termination_by stop - i

variable {test : α → Bool} {xs : List α} {i stop : Nat}

theorem retreat_eq (h : i ≤ xs.length) :
    retreat test xs i = .ok (i - runBefore test xs i) := by
  induction i with
  | zero => rfl
  | succ i ih =>
    have hi : i < xs.length := h
    rw [retreat, get_of_lt hi, ok_bind]
    cases ht : test xs[i] with
    | true =>
      have hle := runBefore_le test xs i
      rw [if_pos rfl, ih (Nat.le_of_lt hi), runBefore_succ_of_pos hi ht]
      congr 1
      omega
    | false =>
      rw [if_neg (by decide), runBefore_succ_of_neg hi ht]
      rfl

theorem advance_eq (test : α → Bool) (xs : List α) (i : Nat) :
    advance test xs i = .ok (i + runFrom test xs (i + 1)) := by
  induction i using advance.induct xs with
  | case1 i hi ih =>
    rw [advance, if_pos hi, get_of_lt hi, ok_bind]
    cases ht : test xs[i + 1] with
    | true =>
      rw [if_pos rfl, ih, runFrom_of_pos hi ht]
      congr 1
      omega
    | false =>
      rw [if_neg (by decide), runFrom_of_neg hi ht]
      rfl
  | case2 i hi =>
    rw [advance, if_neg hi, runFrom_of_length_le (Nat.le_of_not_lt hi)]
    rfl

theorem skipTo_eq (test : α → Bool) (hstop : stop ≤ xs.length) (h : i ≤ stop) :
    skipTo test xs stop i = .ok (min stop (i + runFrom test xs i)) := by
  induction i using skipTo.induct stop with
  | case1 i hi ih =>
    have hlen : i < xs.length := Nat.lt_of_lt_of_le hi hstop
    rw [skipTo, if_pos hi, get_of_lt hlen, ok_bind]
    cases ht : test xs[i] with
    | true =>
      rw [if_pos rfl, ih hi, runFrom_of_pos hlen ht]
      congr 1
      omega
    | false =>
      rw [if_neg (by decide), runFrom_of_neg hlen ht, pure_eq]
      congr 1
      omega
  | case2 i hi =>
    rw [skipTo, if_neg hi, pure_eq]
    congr 1
    omega

/-! ## 3. Searches -/

/-- The least place from `i` on and before `stop` that passes. -/
def findUp (passes : Nat → Checked Bool) (stop i : Nat) : Checked (Option Nat) :=
  if i < stop then do
    if ← passes i then return some i else findUp passes stop (i + 1)
  else return none
termination_by stop - i

/-- The greatest place before place `i` that passes. -/
def findDown (passes : Nat → Checked Bool) : Nat → Checked (Option Nat)
  | 0 => return none
  | i + 1 => do
    if ← passes i then return some i else findDown passes i

variable {passes : Nat → Checked Bool}

/-- The first place from `i` on where `test` holds is behind the run where it does not. -/
def placeFrom? (test : α → Bool) (xs : List α) (i : Nat) : Option Nat :=
  if i + runFrom (!test ·) xs i < xs.length then some (i + runFrom (!test ·) xs i) else none

/-- The last place before `i` where `test` holds is in front of the run where it does not. -/
def placeBefore? (test : α → Bool) (xs : List α) (i : Nat) : Option Nat :=
  if runBefore (!test ·) xs i < i then some (i - runBefore (!test ·) xs i - 1) else none

theorem findUp_eq (test : α → Bool) (i : Nat)
    (h : ∀ j (hj : j < xs.length), passes j = .ok (test xs[j])) :
    findUp passes xs.length i = .ok (placeFrom? test xs i) := by
  induction i using findUp.induct xs.length with
  | case1 i hi ih =>
    rw [findUp, if_pos hi, h i hi, ok_bind]
    cases ht : test xs[i] with
    | true =>
      have hrun : runFrom (!test ·) xs i = 0 := runFrom_of_neg hi (by rw [ht]; rfl)
      rw [if_pos rfl, placeFrom?, hrun, Nat.add_zero, if_pos hi]
      rfl
    | false =>
      have hrun : runFrom (!test ·) xs i = runFrom (!test ·) xs (i + 1) + 1 :=
        runFrom_of_pos hi (by rw [ht]; rfl)
      rw [if_neg (by decide), ih, placeFrom?, placeFrom?, hrun, Nat.add_assoc, Nat.add_comm 1]
  | case2 i hi =>
    rw [findUp, if_neg hi, placeFrom?, runFrom_of_length_le (Nat.le_of_not_lt hi), Nat.add_zero,
      if_neg hi]
    rfl

theorem findDown_eq (test : α → Bool) (h : ∀ j (hj : j < xs.length), passes j = .ok (test xs[j]))
    (hi : i ≤ xs.length) : findDown passes i = .ok (placeBefore? test xs i) := by
  induction i with
  | zero => rfl
  | succ i ih =>
    have hlt : i < xs.length := hi
    rw [findDown, h i hlt, ok_bind]
    cases ht : test xs[i] with
    | true =>
      have hrun : runBefore (!test ·) xs (i + 1) = 0 :=
        runBefore_succ_of_neg hlt (by rw [ht]; rfl)
      rw [if_pos rfl, placeBefore?, hrun, if_pos (Nat.succ_pos i)]
      rfl
    | false =>
      have hrun : runBefore (!test ·) xs (i + 1) = runBefore (!test ·) xs i + 1 :=
        runBefore_succ_of_pos hlt (by rw [ht]; rfl)
      rw [if_neg (by decide), ih (Nat.le_of_lt hlt), placeBefore?, placeBefore?, hrun]
      simp only [Nat.add_lt_add_iff_right, Nat.add_sub_add_right]

end Checked

end MotionTutor
