import Mathlib.Data.Nat.Count
import Mathlib.Order.Interval.Finset.Nat
import MotionTutor.Proofs.Practice.Draw

/-!
# The shares of a draw

Of the numbers below the total weight, each lesson is drawn by exactly as many as it weighs
(`Practice.select_shares_by_weight`).

Two places of a module may hold the same lesson, so what is counted are places: `places` is the pool
with places in it where the pool has the lessons. Laid end to end, the weights of the lessons give
each place a `Share` of the numbers:

* every number below the total weight lies in the share of a place (`exists_share`);
* it picks this place, and the lesson that is there (`Share.pickBeyond_eq`).

So the numbers that pick a place are its share, which has as many as the lesson weighs
(`count_pick`). And every number comes up for some words (`Words.exists_below_eq`).
-/

namespace MotionTutor

/-! ## 1. Every number comes up -/

namespace Words

variable {total n : Nat}

/-- A low half below the total is never beyond the limit. -/
theorem le_zone (h : n < total) : n ≤ zone total := by
  have hpow : 0 < Nat.pow 2 (63 - total.log2) := Nat.pow_pos (by decide)
  have hle : total ≤ total * Nat.pow 2 (63 - total.log2) := Nat.le_mul_of_pos_right total hpow
  unfold zone
  omega

theorem drawBelow_succ {limit : Nat} {w : Words} : drawBelow total (limit + 1) w =
    if accepts total w.next.1 then (drawnBy total w.next.1, w.next.2)
    else drawBelow total limit w.next.2 := rfl

/-- **The first word that is accepted decides the draw.** The limit makes no difference, unless it
comes first. -/
theorem drawBelow_of_accepts {limit i : Nat} {w : Words} (hi : i ≤ limit)
    (hrefused : ∀ j < i, accepts total (w.word (w.taken + j)) = false)
    (haccepted : accepts total (w.word (w.taken + i)) = true) :
    drawBelow total limit w =
      (drawnBy total (w.word (w.taken + i)), { w with taken := w.taken + i + 1 }) := by
  induction i generalizing w limit with
  | zero =>
    have hfirst : accepts total w.next.1 = true := haccepted
    cases limit with
    | zero => rfl
    | succ limit =>
      rw [drawBelow_succ, if_pos hfirst]
      rfl
  | succ i ih =>
    cases limit with
    | zero => cases hi
    | succ limit =>
      have hshift : ∀ j, w.taken + (j + 1) = w.taken + 1 + j := fun j => by omega
      have hfirst : accepts total w.next.1 = false := hrefused 0 i.succ_pos
      rw [hshift] at haccepted
      have hrest := ih (w := w.next.2) (Nat.le_of_succ_le_succ hi)
        (fun j hj => hshift j ▸ hrefused (j + 1) (Nat.succ_lt_succ hj)) haccepted
      rw [drawBelow_succ, hfirst, if_neg Bool.false_ne_true, hrest, hshift]
      rfl

/-- The least word whose high half is `n`; its low half is below the total. -/
theorem exists_word (hfits : total ≤ wordLimit) (h : n < total) :
    ∃ v < wordLimit, n * wordLimit ≤ v * total ∧ v * total < n * wordLimit + total := by
  have hdiv := Nat.div_add_mod (n * wordLimit + (total - 1)) total
  have hmod := Nat.mod_lt (n * wordLimit + (total - 1)) (Nat.zero_lt_of_lt h)
  rw [Nat.mul_comm] at hdiv
  refine ⟨(n * wordLimit + (total - 1)) / total, ?_, by omega, by omega⟩
  refine Nat.lt_of_mul_lt_mul_right (a := total) ?_
  have hnext : (n + 1) * wordLimit ≤ total * wordLimit := Nat.mul_le_mul_right _ h
  rw [Nat.succ_mul, Nat.mul_comm total] at hnext
  omega

/-- **Every number below a total that fits a word is drawn from some words.** -/
theorem exists_below_eq (hfits : total ≤ wordLimit) (h : n < total) :
    ∃ words : Words, (words.below total).1 = n := by
  obtain ⟨v, hv, hlow, hhigh⟩ := exists_word hfits h
  have hword : (UInt64.ofNat v).toNat = v := UInt64.toNat_ofNat_of_lt' hv
  have hdiv : v * total / wordLimit = n := by
    refine Nat.div_eq_of_lt_le hlow ?_
    rw [Nat.succ_mul]
    omega
  have hmod := Nat.div_add_mod (v * total) wordLimit
  rw [hdiv, Nat.mul_comm] at hmod
  let words : Words := ⟨fun _ => UInt64.ofNat v, 0⟩
  have haccepted : accepts total (words.word (words.taken + 0)) = true := by
    have hlow : v * total % wordLimit ≤ zone total := le_zone (by omega)
    refine decide_eq_true ?_
    show (UInt64.ofNat v).toNat * total % wordLimit ≤ zone total
    rw [hword]
    exact hlow
  refine ⟨words, ?_⟩
  rw [below, drawBelow_of_accepts (Nat.zero_le _) (fun j hj => absurd hj j.not_lt_zero) haccepted]
  show (UInt64.ofNat v).toNat * total / wordLimit = n
  rw [hword, hdiv]

end Words

namespace Practice

/-! ## 2. Places -/

/-- The weight of some lessons together. -/
def weightOfAll (weights : Weights) (p : Progress) (lessons : List Exercise) : Nat :=
  lessons.foldr (fun e sum => weights.of p e.id + sum) 0

/-- What can be drawn of some lessons, with the weights. Places are counted from `start`, and `name`
names the lesson at a place. -/
def entriesFrom {α : Type} (weights : Weights) (p : Progress) (name : Exercise → Nat → α)
    (start : Nat) (lessons : List Exercise) : List (α × Nat) :=
  ((lessons.zipIdx start).map fun e => (name e.1 e.2, weights.of p e.1.id)).filter
    fun e => 0 < e.2

/-- The places of the lessons that can be drawn. -/
def places (weights : Weights) (p : Progress) (lessons : List Exercise) : List (Nat × Nat) :=
  entriesFrom weights p (fun _ place => place) 0 lessons

/-- The lesson is at the place, and the number lies in its weight when the weights of all lessons
are laid end to end. -/
structure Share (weights : Weights) (p : Progress) (lessons : List Exercise) (place : Nat)
    (e : Exercise) (n : Nat) : Prop where
  found : lessons[place]? = some e
  start_le : weightOfAll weights p (lessons.take place) ≤ n
  lt_stop : n < weightOfAll weights p (lessons.take place) + weights.of p e.id

variable {weights : Weights} {p : Progress} {lessons : List Exercise} {place start sum n : Nat}
  {head e : Exercise} {α : Type} {name : Exercise → Nat → α}

theorem weightOfAll_cons : weightOfAll weights p (head :: lessons) =
    weights.of p head.id + weightOfAll weights p lessons := rfl

theorem pool_cons : pool weights p (head :: lessons) =
    if 0 < weights.of p head.id then (head, weights.of p head.id) :: pool weights p lessons
    else pool weights p lessons := by
  unfold pool
  rw [List.map_cons, List.filter_cons]
  exact ite_congr decide_eq_true_eq (fun _ => rfl) fun _ => rfl

theorem entriesFrom_cons : entriesFrom weights p name start (head :: lessons) =
    if 0 < weights.of p head.id then
      (name head start, weights.of p head.id) :: entriesFrom weights p name (start + 1) lessons
    else entriesFrom weights p name (start + 1) lessons := by
  unfold entriesFrom
  rw [List.zipIdx_cons, List.map_cons, List.filter_cons]
  exact ite_congr decide_eq_true_eq (fun _ => rfl) fun _ => rfl

/-- In the pool, lessons stand for themselves. -/
theorem pool_eq_entriesFrom :
    pool weights p lessons = entriesFrom weights p (fun e _ => e) start lessons := by
  induction lessons generalizing start with
  | nil => rfl
  | cons head rest ih =>
    rw [pool_cons, entriesFrom_cons]
    exact ite_congr rfl (fun _ => congrArg _ ih) fun _ => ih

/-- What cannot be drawn weighs nothing, so the pool weighs as much as all lessons. -/
theorem totalWeight_pool : totalWeight (pool weights p lessons) = weightOfAll weights p lessons := by
  induction lessons with
  | nil => rfl
  | cons head rest ih =>
    rw [pool_cons, weightOfAll_cons, ← ih]
    split
    · rfl
    · rename_i hnot
      omega

/-! ## 3. One lesson after the other -/

/-- Picking goes by the weights of all lessons: one that weighs nothing is passed. -/
theorem pickBeyond_entriesFrom_cons :
    pickBeyond (sum + n) sum (entriesFrom weights p name start (head :: lessons)) =
      if n < weights.of p head.id then some (name head start)
      else pickBeyond (sum + n) (sum + weights.of p head.id)
        (entriesFrom weights p name (start + 1) lessons) := by
  rw [entriesFrom_cons]
  split
  · rw [pickBeyond]
    exact ite_congr (propext Nat.add_lt_add_iff_left) (fun _ => rfl) fun _ => rfl
  · rename_i hnot
    have hzero : weights.of p head.id = 0 := Nat.eq_zero_of_not_pos hnot
    rw [hzero, if_neg (Nat.not_lt_zero n)]
    rfl

/-- The share of a later place is its share among the lessons that follow, after the first weight. -/
theorem share_succ_iff : Share weights p (head :: lessons) (place + 1) e n ↔
    weights.of p head.id ≤ n ∧ Share weights p lessons place e (n - weights.of p head.id) := by
  have hbefore : weightOfAll weights p ((head :: lessons).take (place + 1)) =
      weights.of p head.id + weightOfAll weights p (lessons.take place) := weightOfAll_cons
  constructor
  · rintro ⟨hfound, hstart, hstop⟩
    rw [hbefore] at hstart hstop
    exact ⟨by omega, hfound, by omega, by omega⟩
  · rintro ⟨hle, hfound, hstart, hstop⟩
    exact ⟨hfound, by rw [hbefore]; omega, by rw [hbefore]; omega⟩

theorem share_zero_iff : Share weights p (head :: lessons) 0 e n ↔
    head = e ∧ n < weights.of p head.id := by
  have hbefore : weightOfAll weights p ((head :: lessons).take 0) = 0 := rfl
  constructor
  · rintro ⟨hfound, -, hstop⟩
    have hhead : head = e := Option.some.inj hfound
    rw [hbefore, Nat.zero_add] at hstop
    exact ⟨hhead, hhead ▸ hstop⟩
  · rintro ⟨rfl, hlt⟩
    exact ⟨rfl, Nat.zero_le n, by rw [hbefore, Nat.zero_add]; exact hlt⟩

/-! ## 4. Shares -/

/-- A number in the share of a place picks what is there. The walk starts at any sum of weights and
at any place, as it does after some lessons. -/
theorem Share.pickBeyond_entriesFrom (h : Share weights p lessons place e n) :
    pickBeyond (sum + n) sum (entriesFrom weights p name start lessons) =
      some (name e (start + place)) := by
  induction lessons generalizing place n sum start with
  | nil => cases h.found
  | cons head rest ih =>
    rw [pickBeyond_entriesFrom_cons]
    cases place with
    | zero =>
      obtain ⟨rfl, hlt⟩ := share_zero_iff.mp h
      rw [if_pos hlt, Nat.add_zero]
    | succ place =>
      obtain ⟨hle, hrest⟩ := share_succ_iff.mp h
      have hnumber : sum + n = sum + weights.of p head.id + (n - weights.of p head.id) := by omega
      rw [if_neg (Nat.not_lt.mpr hle), hnumber, ih hrest, Nat.add_right_comm, Nat.add_assoc]

theorem Share.pickBeyond_eq (h : Share weights p lessons place e n) :
    pickBeyond n 0 (entriesFrom weights p name 0 lessons) = some (name e place) := by
  have hwalk : pickBeyond (0 + n) 0 (entriesFrom weights p name 0 lessons) =
      some (name e (0 + place)) := h.pickBeyond_entriesFrom
  rw [Nat.zero_add, Nat.zero_add] at hwalk
  exact hwalk

theorem Share.pickBeyond_pool (h : Share weights p lessons place e n) :
    pickBeyond n 0 (pool weights p lessons) = some e := by
  rw [pool_eq_entriesFrom]
  exact h.pickBeyond_eq

theorem Share.pick_places (h : Share weights p lessons place e n) :
    pick (places weights p lessons) n = some place :=
  pick_of_pickBeyond h.pickBeyond_eq

/-- Only lessons of positive weight have a share. -/
theorem Share.weight_pos (h : Share weights p lessons place e n) : 0 < weights.of p e.id := by
  have hstart := h.start_le
  have hstop := h.lt_stop
  omega

/-- The shares cover all numbers below the total weight. -/
theorem exists_share (h : n < weightOfAll weights p lessons) :
    ∃ place e, Share weights p lessons place e n := by
  induction lessons generalizing n with
  | nil => cases h
  | cons head rest ih =>
    rcases Nat.lt_or_ge n (weights.of p head.id) with hlt | hge
    · exact ⟨0, head, share_zero_iff.mpr ⟨rfl, hlt⟩⟩
    · rw [weightOfAll_cons] at h
      obtain ⟨place, e, hshare⟩ := ih (n := n - weights.of p head.id) (by omega)
      exact ⟨place + 1, e, share_succ_iff.mpr ⟨hge, hshare⟩⟩

/-- And they stay below it. -/
theorem Share.lt_total (h : Share weights p lessons place e n) :
    n < weightOfAll weights p lessons := by
  induction lessons generalizing place n with
  | nil => cases h.found
  | cons head rest ih =>
    rw [weightOfAll_cons]
    cases place with
    | zero =>
      have hlt := (share_zero_iff.mp h).2
      omega
    | succ place =>
      obtain ⟨hle, hrest⟩ := share_succ_iff.mp h
      have hlt := ih hrest
      omega

/-- A number below the total picks a place if it lies in its share. -/
theorem pick_eq_some_iff (hfound : lessons[place]? = some e)
    (h : n < weightOfAll weights p lessons) :
    pick (places weights p lessons) n = some place ↔
      Share weights p lessons place e n := by
  constructor
  · intro hdrawn
    obtain ⟨place', e', hshare⟩ := exists_share h
    obtain rfl : place' = place := Option.some.inj (hshare.pick_places.symm.trans hdrawn)
    obtain rfl : e' = e := Option.some.inj (hshare.found.symm.trans hfound)
    exact hshare
  · exact Share.pick_places

/-- **As many numbers pick a place as the lesson there weighs.** -/
theorem count_pick (hfound : lessons[place]? = some e) :
    Nat.count (fun n => pick (places weights p lessons) n = some place)
      (weightOfAll weights p lessons) = weights.of p e.id := by
  let before := weightOfAll weights p (lessons.take place)
  have hnumbers : (Finset.range (weightOfAll weights p lessons)).filter
      (fun n => pick (places weights p lessons) n = some place) =
        Finset.Ico before (before + weights.of p e.id) := by
    ext n
    rw [Finset.mem_filter, Finset.mem_range, Finset.mem_Ico]
    constructor
    · rintro ⟨hlt, hdrawn⟩
      have hshare := (pick_eq_some_iff hfound hlt).mp hdrawn
      exact ⟨hshare.start_le, hshare.lt_stop⟩
    · rintro ⟨hstart, hstop⟩
      have hshare : Share weights p lessons place e n := ⟨hfound, hstart, hstop⟩
      exact ⟨hshare.lt_total, hshare.pick_places⟩
  rw [Nat.count_eq_card_filter_range, hnumbers, Nat.card_Ico, Nat.add_sub_cancel_left]

/-! ## 5. Draws -/

/-- Draws give every lesson its share of the numbers below the total weight. -/
structure SharesByWeight (weights : Weights) (p : Progress) (lessons : List Exercise) : Prop where
  /-- The weights of all lessons make up the total. -/
  total : totalWeight (pool weights p lessons) = weightOfAll weights p lessons
  /-- A draw takes a number below it, -/
  below_total : ∀ words : Words,
    (words.below (totalWeight (pool weights p lessons))).1 < totalWeight (pool weights p lessons)
  /-- and any of them comes up, as long as the total fits a word. -/
  comes_up : totalWeight (pool weights p lessons) ≤ wordLimit →
    ∀ n < totalWeight (pool weights p lessons),
      ∃ words : Words, (words.below (totalWeight (pool weights p lessons))).1 = n
  /-- Each number falls into the weight of a place, so that the first entry is never picked for want
  of another. A draw that takes this number serves the lesson there, as practice and otherwise as it
  is, in whatever way numbers are drawn. -/
  serves : ∀ n < totalWeight (pool weights p lessons), ∃ place e,
    pickBeyond n 0 (places weights p lessons) = some place ∧
      pick (places weights p lessons) n = some place ∧
        lessons[place]? = some e ∧ pickBeyond n 0 (pool weights p lessons) = some e ∧
          (∀ words : Words, (words.below (totalWeight (pool weights p lessons))).1 = n →
            (select weights p lessons words).1 = some { e with kind := .practice }) ∧
          ∀ draw words, (draw words (totalWeight (pool weights p lessons))).1 = n →
            (selectBy draw weights p lessons words).1 = some { e with kind := .practice }
  /-- As many numbers pick a place as the lesson there weighs, -/
  count : ∀ place e, lessons[place]? = some e →
    Nat.count (fun n => pick (places weights p lessons) n = some place)
      (totalWeight (pool weights p lessons)) = weights.of p e.id
  /-- so there is one if the lesson has a positive weight, and none if it has not. -/
  drawn_iff : ∀ place e, lessons[place]? = some e →
    ((∃ n < totalWeight (pool weights p lessons),
      pick (places weights p lessons) n = some place) ↔ 0 < weights.of p e.id)

/-- What is drawn is the lesson in whose share the number lies. -/
theorem Share.selectBy_eq (h : Share weights p lessons place e n)
    {draw : Words → Nat → Nat × Words} {words : Words}
    (hn : (draw words (totalWeight (pool weights p lessons))).1 = n) :
    (selectBy draw weights p lessons words).1 = some (e.servedAs .practice) := by
  have htotal : totalWeight (pool weights p lessons) ≠ 0 := by
    rw [totalWeight_pool]
    exact Nat.ne_of_gt (Nat.zero_lt_of_lt h.lt_total)
  unfold selectBy
  dsimp only
  rw [if_neg htotal, hn, pick_of_pickBeyond h.pickBeyond_pool]
  rfl

/-- **Draws are exactly proportional to the weights.** -/
theorem select_shares_by_weight (h : 0 < totalWeight (pool weights p lessons)) :
    SharesByWeight weights p lessons where
  total := totalWeight_pool
  below_total words := Words.staysBelow_below words _ h
  comes_up hfits n hn := Words.exists_below_eq hfits hn
  serves n hn := by
    rw [totalWeight_pool] at hn
    obtain ⟨place, e, hshare⟩ := exists_share hn
    exact ⟨place, e, hshare.pickBeyond_eq, hshare.pick_places, hshare.found,
      hshare.pickBeyond_pool, fun words hwords => hshare.selectBy_eq hwords,
      fun draw words hdraw => hshare.selectBy_eq hdraw⟩
  count place e hfound := by
    rw [totalWeight_pool]
    exact count_pick hfound
  drawn_iff place e hfound := by
    rw [totalWeight_pool]
    constructor
    · rintro ⟨n, hn, hdrawn⟩
      exact ((pick_eq_some_iff hfound hn).mp hdrawn).weight_pos
    · intro hpos
      have hshare : Share weights p lessons place e (weightOfAll weights p (lessons.take place)) :=
        ⟨hfound, Nat.le_refl _, Nat.lt_add_of_pos_right hpos⟩
      exact ⟨_, hshare.lt_total, hshare.pick_places⟩

/-- By its attempts, a lesson that was tried once and is listed twice has a share of one number at
each of its places; the lesson between them, which was never tried, has none. -/
theorem select_shares_by_weight_of_attempts :
    let lesson (id : String) : Exercise :=
      { id, code := [], cursor := ⟨0, 0⟩, mission := "", solutions := [], optimal := "" }
    let lessons := [lesson "words", lesson "lines", lesson "words"]
    let p := Progress.fresh.recordPractice "words" true ⟨0, 0⟩
    0 < totalWeight (pool (·.attempts) p lessons) ∧ SharesByWeight (·.attempts) p lessons := by
  intro lesson lessons p
  have hpos : 0 < totalWeight (pool (·.attempts) p lessons) := by decide
  exact ⟨hpos, select_shares_by_weight hpos⟩

end Practice

end MotionTutor
