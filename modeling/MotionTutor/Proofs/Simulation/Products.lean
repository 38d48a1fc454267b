import MotionTutor.Proofs.Command.Grammar
import MotionTutor.Proofs.Simulation.Composition

/-!
# Counts before and after an operator

A count may stand before an operator and another one between it and its motion; together they count
their product (`Buffer.simulate_counts_multiply`). Counts end at `maxCount`, and so does their
product. It makes no difference whether the counts end before they are multiplied or the product
after it (`combineCounts_mul`), so the product may as well be written as one count, on either side
of the operator.
-/

namespace MotionTutor

/-! ## 1. Products that end -/

theorem min_mul_min {limit n k : Nat} (hlimit : 1 ≤ limit) (hn : 1 ≤ n) (hk : 1 ≤ k) :
    min limit (min limit n * min limit k) = min limit (n * k) := by
  rcases Nat.le_total n limit with hnl | hnl
  · rcases Nat.le_total k limit with hkl | hkl
    · rw [Nat.min_eq_right hnl, Nat.min_eq_right hkl]
    · have hread : limit ≤ n * limit := Nat.le_mul_of_pos_left limit hn
      have hfull : limit ≤ n * k := Nat.le_trans hkl (Nat.le_mul_of_pos_left k hn)
      rw [Nat.min_eq_right hnl, Nat.min_eq_left hkl, Nat.min_eq_left hread, Nat.min_eq_left hfull]
  · have hread : limit ≤ limit * min limit k :=
      Nat.le_mul_of_pos_right limit (Nat.le_min.mpr ⟨hlimit, hk⟩)
    have hfull : limit ≤ n * k := Nat.le_trans hnl (Nat.le_mul_of_pos_right n hk)
    rw [Nat.min_eq_left hnl, Nat.min_eq_left hread, Nat.min_eq_left hfull]

/-- **Counts that were read multiply to the count that their product is read as.** -/
theorem combineCounts_mul {n k : Nat} (hn : 1 ≤ n) (hk : 1 ≤ k) :
    combineCounts (some (min maxCount n)) (some (min maxCount k)) =
      some (min maxCount (n * k)) :=
  congrArg some (min_mul_min (by decide) hn hk)

/-! ## 2. The three spellings -/

namespace Token

variable {m : Motion} {n k : Nat}

theorem ofKeys_counted_operated (operator : Operator) (hm : m ≠ .lineStart) (hn : 1 ≤ n)
    (rest : Keys) :
    ofKeys (Decimal.digits n ++ operator.keys ++ m.keys ++ rest) =
      ⟨some (min maxCount n), .operate operator m⟩ :: ofKeys rest := by
  have hcount := one_le_of_mem_some hn
  have hkeys := ofKeys_operated (some n) none operator hcount nofun (fun h => absurd h hm) rest
  rwa [Option.map_none, combineCounts_none (isCount_map_min hcount)] at hkeys

theorem ofKeys_operated_counted (operator : Operator) (hm : m ≠ .lineStart) (hn : 1 ≤ n)
    (rest : Keys) :
    ofKeys (operator.keys ++ (Decimal.digits n ++ m.keys) ++ rest) =
      ⟨some (min maxCount n), .operate operator m⟩ :: ofKeys rest := by
  have hcount := one_le_of_mem_some hn
  have hkeys := ofKeys_operated none (some n) operator nofun hcount (fun h => absurd h hm) rest
  rwa [Option.map_none, combineCounts_none_left (isCount_map_min hcount)] at hkeys

theorem ofKeys_counted_operated_counted (operator : Operator) (hm : m ≠ .lineStart) (hn : 1 ≤ n)
    (hk : 1 ≤ k) (rest : Keys) :
    ofKeys (Decimal.digits n ++ operator.keys ++ (Decimal.digits k ++ m.keys) ++ rest) =
      ⟨some (min maxCount (n * k)), .operate operator m⟩ :: ofKeys rest := by
  have hkeys := ofKeys_operated (some n) (some k) operator (one_le_of_mem_some hn)
    (one_le_of_mem_some hk) (fun h => absurd h hm) rest
  rwa [Option.map_some, Option.map_some, combineCounts_mul hn hk] at hkeys

end Token

/-! ## 3. Between other keys -/

namespace Buffer

/-- Behind keys that do not end within a command, keys that read alike do alike. -/
theorem simulate_congr (b : Buffer) (start : Position) {before keys keys' : Keys}
    (hbefore : ∀ t ∈ (Token.ofKeys before).getLast?, t.pending? = none)
    (h : Token.ofKeys keys = Token.ofKeys keys') :
    b.simulate start (before ++ keys) = b.simulate start (before ++ keys') := by
  unfold simulate
  rw [Token.ofKeys_append_of_complete _ hbefore, Token.ofKeys_append_of_complete _ hbefore, h]

/-- **Counts before and after an operator multiply.** An operator and a motion with a count each are
one command whose count is the product of the two, up to the largest count. Between keys that do
not end within a command and any others, they do what they do with the product as their only count,
before the operator or after it. The motion may be any but the one to the start of the line, whose
key would belong to the count. -/
theorem simulate_counts_multiply (b : Buffer) (start : Position) (before after : Keys)
    (hbefore : ∀ t ∈ (Token.ofKeys before).getLast?, t.pending? = none) (operator : Operator)
    {m : Motion} {motionKeys : Keys} (hread : Motion.read motionKeys = .done m [])
    (hzero : motionKeys ≠ ['0']) {n k : Nat} (hn : 1 ≤ n) (hk : 1 ≤ k) :
    let both := Decimal.digits n ++ operator.keys ++ (Decimal.digits k ++ motionKeys)
    let product := Decimal.digits (n * k)
    Token.ofKeys both = [⟨some (min maxCount (n * k)), .operate operator m⟩] ∧
      b.simulate start (before ++ (both ++ after)) =
        b.simulate start (before ++ (product ++ operator.keys ++ motionKeys ++ after)) ∧
      b.simulate start (before ++ (both ++ after)) =
        b.simulate start (before ++ (operator.keys ++ (product ++ motionKeys) ++ after)) := by
  intro both product
  have hkeys : motionKeys = m.keys := by
    rw [Motion.eq_keys_append_of_read hread, List.append_nil]
  have hm : m ≠ .lineStart := by
    rintro rfl
    exact hzero hkeys
  have hnk : 1 ≤ n * k := Nat.mul_pos hn hk
  have hboth := Token.ofKeys_counted_operated_counted operator hm hn hk
  rw [← hkeys] at hboth
  refine ⟨?_, simulate_congr b start hbefore ?_, simulate_congr b start hbefore ?_⟩
  · have halone := hboth []
    rwa [List.append_nil, Token.ofKeys_nil] at halone
  · rw [hboth, hkeys, Token.ofKeys_counted_operated operator hm hnk]
  · rw [hboth, hkeys, Token.ofKeys_operated_counted operator hm hnk]

/-- The product of the counts is too large for a count, and the target of the search is a digit. -/
theorem simulate_counts_multiply_too_large :
    let b := Buffer.ofTexts ["a3b3c3", "d"]
    let before : Keys := ['l']
    let motionKeys : Keys := ['t', '3']
    let both := Decimal.digits 20 ++ Operator.uppercase.keys ++
      (Decimal.digits (maxCount + 1) ++ motionKeys)
    (∀ t ∈ (Token.ofKeys before).getLast?, t.pending? = none) ∧
      Motion.read motionKeys = .done (.search ⟨.forward, .besideTarget, '3'⟩) [] ∧
      motionKeys ≠ ['0'] ∧
      Token.ofKeys both =
        [⟨some maxCount, .operate .uppercase (.search ⟨.forward, .besideTarget, '3'⟩)⟩] ∧
      b.simulate ⟨0, 1⟩ (before ++ (both ++ ['j'])) =
        b.simulate ⟨0, 1⟩ (before ++ (Decimal.digits (20 * (maxCount + 1)) ++
          Operator.uppercase.keys ++ motionKeys ++ ['j'])) ∧
      b.simulate ⟨0, 1⟩ (before ++ (both ++ ['j'])) =
        ⟨⟨1, 0⟩, some ⟨.uppercase, ⟨0, 2⟩, ⟨0, 2⟩, false⟩⟩ := by
  intro b before motionKeys both
  have hbefore : ∀ t ∈ (Token.ofKeys before).getLast?, t.pending? = none := by decide +kernel
  have hread : Motion.read motionKeys = .done (.search ⟨.forward, .besideTarget, '3'⟩) [] := rfl
  have hzero : motionKeys ≠ ['0'] := by decide
  obtain ⟨htoken, hfront, -⟩ := simulate_counts_multiply b ⟨0, 1⟩ before ['j'] hbefore .uppercase
    hread hzero (show 1 ≤ 20 by decide) (Nat.succ_pos maxCount)
  exact ⟨hbefore, hread, hzero, htoken, hfront, by decide +kernel⟩

end Buffer

end MotionTutor
