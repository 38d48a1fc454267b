import MotionTutor.Text.Run

/-!
# Measuring runs

A run is measured one element at a time: an element that passes the test is in the run with the
ones beyond it (`runFrom_of_pos`, `runBefore_succ_of_pos`), and one that fails ends it. A run stays
on its list (`add_runFrom_le`, `runBefore_le`). Its elements pass the test, and the one beyond it
fails (`test_of_lt_runFrom`, `test_add_runFrom`, `test_of_sub_runBefore_le`, `test_sub_runBefore`).
-/

namespace MotionTutor

variable {α : Type} {test : α → Bool} {xs : List α} {i : Nat}

theorem runFrom_of_pos (hi : i < xs.length) (h : test xs[i] = true) :
    runFrom test xs i = runFrom test xs (i + 1) + 1 := by
  rw [runFrom, List.drop_eq_getElem_cons hi, List.takeWhile_cons_of_pos h, List.length_cons,
    runFrom]

theorem runFrom_of_neg (hi : i < xs.length) (h : test xs[i] = false) : runFrom test xs i = 0 := by
  rw [runFrom, List.drop_eq_getElem_cons hi, List.takeWhile_cons_of_neg (by rw [h]; decide)]
  rfl

theorem runFrom_of_length_le (h : xs.length ≤ i) : runFrom test xs i = 0 := by
  rw [runFrom, List.drop_eq_nil_of_le h]
  rfl

theorem add_runFrom_le (test : α → Bool) (h : i ≤ xs.length) :
    i + runFrom test xs i ≤ xs.length := by
  have hle := (List.takeWhile_sublist test (l := xs.drop i)).length_le
  rw [List.length_drop] at hle
  rw [runFrom]
  omega

/-- A run on the list is over at its end. -/
theorem runFrom_add_runFrom (test : α → Bool) (xs : List α) (i : Nat) :
    runFrom test xs (i + runFrom test xs i) = 0 := by
  induction hn : xs.length - i generalizing i with
  | zero =>
    have h : xs.length ≤ i := by omega
    rw [runFrom_of_length_le h, Nat.add_zero, runFrom_of_length_le h]
  | succ n ih =>
    have hi : i < xs.length := by omega
    cases ht : test xs[i] with
    | false => rw [runFrom_of_neg hi ht, Nat.add_zero, runFrom_of_neg hi ht]
    | true =>
      have hnext := ih (i + 1) (by omega)
      rw [runFrom_of_pos hi ht, show i + (runFrom test xs (i + 1) + 1)
        = i + 1 + runFrom test xs (i + 1) by omega]
      exact hnext

/-- The elements of a run pass the test. -/
theorem test_of_lt_runFrom {k : Nat} (hik : i ≤ k) (hk : k < i + runFrom test xs i) :
    ∃ hlt : k < xs.length, test xs[k] = true := by
  induction hn : k - i generalizing i with
  | zero =>
    obtain rfl : i = k := by omega
    rcases Nat.lt_or_ge i xs.length with hlt | hge
    · cases htest : test xs[i] with
      | false =>
        rw [runFrom_of_neg hlt htest] at hk
        omega
      | true => exact ⟨hlt, htest⟩
    · rw [runFrom_of_length_le hge] at hk
      omega
  | succ n ih =>
    rcases Nat.lt_or_ge i xs.length with hlt | hge
    · cases htest : test xs[i] with
      | false =>
        rw [runFrom_of_neg hlt htest] at hk
        omega
      | true =>
        rw [runFrom_of_pos hlt htest] at hk
        exact ih (i := i + 1) (by omega) (by omega) (by omega)
    · rw [runFrom_of_length_le hge] at hk
      omega

/-- The element behind a run fails the test. -/
theorem test_add_runFrom (hlt : i + runFrom test xs i < xs.length) :
    test xs[i + runFrom test xs i] = false := by
  cases htest : test xs[i + runFrom test xs i] with
  | false => rfl
  | true =>
    have hnext := runFrom_of_pos hlt htest
    rw [runFrom_add_runFrom] at hnext
    cases hnext

theorem runBefore_succ_of_pos (hi : i < xs.length) (h : test xs[i] = true) :
    runBefore test xs (i + 1) = runBefore test xs i + 1 := by
  rw [runBefore, List.take_succ_eq_append_getElem hi, List.reverse_append]
  rw [List.reverse_singleton, List.singleton_append, List.takeWhile_cons_of_pos h, List.length_cons,
    runBefore]

theorem runBefore_succ_of_neg (hi : i < xs.length) (h : test xs[i] = false) :
    runBefore test xs (i + 1) = 0 := by
  rw [runBefore, List.take_succ_eq_append_getElem hi, List.reverse_append]
  rw [List.reverse_singleton, List.singleton_append,
    List.takeWhile_cons_of_neg (by rw [h]; decide)]
  rfl

theorem runBefore_le (test : α → Bool) (xs : List α) (i : Nat) : runBefore test xs i ≤ i := by
  have hle := (List.takeWhile_sublist test (l := (xs.take i).reverse)).length_le
  rw [List.length_reverse, List.length_take] at hle
  rw [runBefore]
  omega

variable (test) in
/-- The elements of a run before a place pass the test. -/
theorem test_of_sub_runBefore_le {k : Nat} (hi : i ≤ xs.length)
    (hk : i - runBefore test xs i ≤ k) (hki : k < i) :
    ∃ hlt : k < xs.length, test xs[k] = true := by
  induction i with
  | zero => exact absurd hki (Nat.not_lt_zero k)
  | succ i ih =>
    have hlt : i < xs.length := hi
    cases htest : test xs[i] with
    | false =>
      rw [runBefore_succ_of_neg hlt htest] at hk
      omega
    | true =>
      rw [runBefore_succ_of_pos hlt htest] at hk
      rcases Nat.lt_succ_iff_lt_or_eq.mp hki with hbefore | rfl
      · exact ih (Nat.le_of_lt hlt) (by omega) hbefore
      · exact ⟨hlt, htest⟩

variable (test) in
/-- The element in front of a run before a place fails the test. -/
theorem test_sub_runBefore (hi : i ≤ xs.length) (h : runBefore test xs i < i) :
    ∃ hlt : i - runBefore test xs i - 1 < xs.length,
      test xs[i - runBefore test xs i - 1] = false := by
  induction i with
  | zero => exact absurd h (Nat.not_lt_zero _)
  | succ i ih =>
    have hlt : i < xs.length := hi
    cases htest : test xs[i] with
    | false =>
      simp only [runBefore_succ_of_neg hlt htest]
      exact ⟨hlt, htest⟩
    | true =>
      rw [runBefore_succ_of_pos hlt htest] at h
      simp only [runBefore_succ_of_pos hlt htest, Nat.add_sub_add_right]
      exact ih (Nat.le_of_lt hlt) (Nat.lt_of_succ_lt_succ h)

end MotionTutor
