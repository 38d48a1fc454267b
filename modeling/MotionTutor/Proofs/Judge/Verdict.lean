import Mathlib.Data.List.TakeWhile
import MotionTutor.Judge
import MotionTutor.Proofs.Buffer.Bounds
import MotionTutor.Proofs.Command.Extension
import MotionTutor.Proofs.Session.Lessons

/-!
# What a verdict says

An answer is judged as its text without the white space around it (`Exercise.judge_congr`). It is
listed if it is one of the solutions up to white space (`Exercise.Lists`), and effects count where
the optimal answer is fit to be compared with (`Exercise.ComparesEffects`). So of the answers that
are not blank the right ones are the listed ones and those with the effect of the optimal one
(`Exercise.correct_judge_iff`); a blank answer is never right.

In a catalog the optimal answer is among the solutions, so it is listed, and right unless it is
blank (`Catalog.judge_accepts`). Keys that are not understood do nothing; an answer of such keys is
right only if it is listed or the optimal answer does nothing either.
-/

namespace MotionTutor

/-! ## 1. White space around a text -/

namespace Text

variable {before after cs : List Char}

/-- White space around a text is trimmed with the white space of its own. -/
theorem trim_append_append (hbefore : ∀ c ∈ before, isWhiteSpace c = true)
    (hafter : ∀ c ∈ after, isWhiteSpace c = true) :
    trim (before ++ (cs ++ after)) = trim cs := by
  have hreverse : ∀ c ∈ after.reverse, isWhiteSpace c = true := fun c hc =>
    hafter c (List.mem_reverse.1 hc)
  rw [trim, trim, List.dropWhile_append_of_pos hbefore]
  by_cases hblank : ∀ c ∈ cs, isWhiteSpace c = true
  · rw [List.dropWhile_append_of_pos hblank, List.dropWhile_eq_nil_iff.2 hblank,
      List.dropWhile_eq_nil_iff.2 hafter]
  · have hne : cs.dropWhile isWhiteSpace ≠ [] := fun h => hblank (List.dropWhile_eq_nil_iff.1 h)
    rw [List.dropWhile_append, if_neg (by simpa using hne), List.reverse_append,
      List.dropWhile_append_of_pos hreverse]

end Text

theorem trimmed_append_append {before after : String} (s : String)
    (hbefore : ∀ c ∈ before.toList, Text.isWhiteSpace c = true)
    (hafter : ∀ c ∈ after.toList, Text.isWhiteSpace c = true) :
    trimmed (before ++ s ++ after) = trimmed s := by
  rw [trimmed, trimmed, String.toList_append, String.toList_append, List.append_assoc,
    Text.trim_append_append hbefore hafter]

/-! ## 2. Keys that are not understood -/

namespace Simulation

variable {b : Buffer}

theorem run_of_not_isRecognized (s : Simulation) {t : Token} (h : t.isRecognized = false) :
    run b s t = s := by
  obtain ⟨count, command⟩ := t
  cases command with
  | incomplete keys | unknown keys => rfl
  | motion m | object operator o | operate operator m | wholeLines operator | toLineEnd operator =>
    cases h

/-- What is not understood has no effect. -/
theorem runAll_of_not_isRecognized (s : Simulation) {tokens : List Token}
    (h : ∀ t ∈ tokens, t.isRecognized = false) : runAll b s tokens = s := by
  induction tokens with
  | nil => rfl
  | cons t tokens ih =>
    obtain ⟨ht, htokens⟩ := List.forall_mem_cons.1 h
    show runAll b (run b s t) tokens = s
    rw [run_of_not_isRecognized s ht, ih htokens]

end Simulation

/-! ## 3. Verdicts -/

namespace Exercise

variable (e : Exercise) {answer : String}

/-- The answer is one of the solutions, up to the white space around it. -/
def Lists (answer : String) : Prop := ∃ s ∈ e.solutions, trimmed s = trimmed answer

/-- The exercise is judged by motions, and its optimal answer is made of commands that are
understood and not one for a prompt. -/
structure ComparesEffects : Prop where
  judging : e.judging = .motion
  not_blank : trimmed e.optimal ≠ []
  no_prompt : ∀ c ∈ (trimmed e.optimal).head?, c ≠ ':' ∧ c ≠ '/' ∧ c ≠ '?'
  understood : ∀ t ∈ Token.ofKeys (trimmed e.optimal), t.isRecognized = true

variable {e}

theorem startsPrompt_eq_false_iff {keys : Keys} :
    startsPrompt keys = false ↔ ∀ c ∈ keys.head?, c ≠ ':' ∧ c ≠ '/' ∧ c ≠ '?' := by
  cases keys with
  | nil => exact iff_of_true rfl nofun
  | cons c keys =>
    simp only [startsPrompt, Bool.or_eq_false_iff, beq_eq_false_iff_ne, List.head?_cons,
      Option.mem_some_iff, forall_eq', ne_eq, and_assoc]

theorem ofKeys_ne_nil {keys : Keys} (h : keys ≠ []) : Token.ofKeys keys ≠ [] := by
  obtain ⟨t, rest, hscan⟩ := Token.scan_isSome h
  rw [Token.ofKeys_of_scan hscan]
  exact List.cons_ne_nil _ _

theorem isJudgedByEffect_iff : e.isJudgedByEffect = true ↔ e.ComparesEffects := by
  have hparts : e.isJudgedByEffect = true ↔
      (((trimmed e.optimal ≠ [] ∧ startsPrompt (trimmed e.optimal) = false) ∧
        e.judging = .motion) ∧ Token.ofKeys (trimmed e.optimal) ≠ []) ∧
        ∀ t ∈ Token.ofKeys (trimmed e.optimal), t.isRecognized = true := by
    simp only [isJudgedByEffect, Bool.and_eq_true, Bool.not_eq_true', List.isEmpty_eq_false_iff,
      decide_eq_true_eq, List.all_eq_true]
  rw [hparts, startsPrompt_eq_false_iff]
  constructor
  · rintro ⟨⟨⟨⟨hblank, hprompt⟩, hjudging⟩, -⟩, hunderstood⟩
    exact ⟨hjudging, hblank, hprompt, hunderstood⟩
  · rintro ⟨hjudging, hblank, hprompt, hunderstood⟩
    exact ⟨⟨⟨⟨hblank, hprompt⟩, hjudging⟩, ofKeys_ne_nil hblank⟩, hunderstood⟩

theorem isListed_iff : e.isListed answer = true ↔ e.Lists answer := by
  simp only [isListed, List.any_eq_true, decide_eq_true_eq, Lists]

theorem effect_eq_iff {x y : Effect} :
    x = y ↔ x.position = y.position ∧ x.selection = y.selection := by
  obtain ⟨p, s⟩ := x
  obtain ⟨q, t⟩ := y
  exact Effect.mk.injEq p s q t ▸ Iff.rfl

variable (e) in
/-- An answer is judged as its text without the white space around it. -/
theorem judge_congr {other : String} (h : trimmed answer = trimmed other) :
    e.judge answer = e.judge other := by
  unfold judge isListed isOptimalAnswer effectOf
  simp only [h]

variable (e) in
theorem judge_of_blank (h : trimmed answer = []) : e.judge answer = Verdict.neutral (some e) := by
  unfold judge
  rw [if_pos (List.isEmpty_iff.2 h)]

theorem optimal_judge_iff :
    (e.judge answer).optimal = true ↔
      trimmed answer ≠ [] ∧ trimmed answer = trimmed e.optimal := by
  by_cases hblank : trimmed answer = []
  · rw [judge_of_blank e hblank]
    exact iff_of_false nofun fun h => h.1 hblank
  · unfold judge
    rw [if_neg (by simpa using hblank), and_iff_right hblank]
    dsimp only
    split
    · exact decide_eq_true_iff
    · exact decide_eq_true_iff

theorem inSolutions_judge_iff :
    (e.judge answer).inSolutions = true ↔ trimmed answer ≠ [] ∧ e.Lists answer := by
  by_cases hblank : trimmed answer = []
  · rw [judge_of_blank e hblank]
    exact iff_of_false nofun fun h => h.1 hblank
  · unfold judge
    rw [if_neg (by simpa using hblank), and_iff_right hblank]
    dsimp only
    split
    · exact isListed_iff
    · exact isListed_iff

/-- **An answer that is not blank is right if it is listed, or if effects are compared and its
effect is that of the optimal answer.** -/
theorem correct_judge_iff :
    (e.judge answer).correct = true ↔ trimmed answer ≠ [] ∧
      (e.Lists answer ∨ e.ComparesEffects ∧ e.effectOf answer = e.effectOf e.optimal) := by
  by_cases hblank : trimmed answer = []
  · rw [judge_of_blank e hblank]
    exact iff_of_false nofun fun h => h.1 hblank
  · unfold judge
    rw [if_neg (by simpa using hblank), and_iff_right hblank]
    dsimp only
    rw [← isJudgedByEffect_iff]
    split
    · rename_i heffect
      rw [Bool.or_eq_true, isListed_iff, decide_eq_true_iff, and_iff_right heffect, eq_comm]
    · rename_i heffect
      rw [isListed_iff, or_iff_left fun h => heffect h.1]

/-- Keys that are not understood leave the cursor where it is put, and select nothing. -/
theorem effectOf_of_not_isRecognized
    (h : ∀ t ∈ Token.ofKeys (trimmed answer), t.isRecognized = false) :
    e.effectOf answer = ⟨(Buffer.ofTexts e.code).clamp e.cursor, none⟩ := by
  unfold effectOf Buffer.simulate
  rw [Simulation.runAll_of_not_isRecognized _ h]
  simp only [Simulation.start, Effect.mk.injEq, and_true]
  exact Buffer.clamp_of_inBounds (Buffer.inBounds_clamp _ _)

end Exercise

/-! ## 4. In a catalog -/

/-- The verdict on an answer is what the author of the exercise may rely on. -/
structure Exercise.JudgesRightly (e : Exercise) (answer : String) : Prop where
  blank : trimmed answer = [] → (e.judge answer).correct = false
  optimal_iff : (e.judge answer).optimal = true ↔
    trimmed answer ≠ [] ∧ trimmed answer = trimmed e.optimal
  inSolutions_iff : (e.judge answer).inSolutions = true ↔ trimmed answer ≠ [] ∧ e.Lists answer
  inSolutions_of_optimal : (e.judge answer).optimal = true → (e.judge answer).inSolutions = true
  correct_of_inSolutions : (e.judge answer).inSolutions = true → (e.judge answer).correct = true
  /-- The listed solutions and the optimal one are right, where they are not blank. -/
  correct_of_solution : ∀ s ∈ e.optimal :: e.solutions,
    (e.judge s).correct = true ↔ trimmed s ≠ []
  /-- An answer that is not listed is right by its effect alone. -/
  correct_of_not_lists : trimmed answer ≠ [] → ¬ e.Lists answer →
    ((e.judge answer).correct = true ↔ e.ComparesEffects ∧
      (e.effectOf answer).position = (e.effectOf e.optimal).position ∧
      (e.effectOf answer).selection = (e.effectOf e.optimal).selection)
  /-- Keys that are not understood do not count for the optimal answer, if that has an effect. -/
  not_understood : ¬ e.Lists answer →
    (∀ t ∈ Token.ofKeys (trimmed answer), t.isRecognized = false) →
    ((e.effectOf e.optimal).position ≠ (Buffer.ofTexts e.code).clamp e.cursor ∨
      (e.effectOf e.optimal).selection ≠ none) →
    (e.judge answer).correct = false
  whiteSpace : ∀ before after : String,
    (∀ c ∈ before.toList, Text.isWhiteSpace c = true) →
    (∀ c ∈ after.toList, Text.isWhiteSpace c = true) →
    e.judge (before ++ answer ++ after) = e.judge answer

theorem Exercise.lists_of_mem {e : Exercise} {s : String} (h : s ∈ e.solutions) : e.Lists s :=
  ⟨s, h, rfl⟩

namespace Catalog

/-- In a catalog the optimal answer is listed. -/
theorem optimal_mem {c : Catalog} {e : Exercise} (h : e ∈ c.exercises) :
    e.optimal ∈ e.solutions := by
  obtain ⟨chapter, hchapter, he⟩ := List.mem_flatMap.1 h
  exact c.coherent.optimal_mem chapter hchapter e he

/-- **The judge accepts exactly the right answers**, in every exercise of a catalog. -/
theorem judge_accepts (c : Catalog) {e : Exercise} (h : e ∈ c.exercises) (answer : String) :
    e.JudgesRightly answer where
  blank hblank := by
    rw [e.judge_of_blank hblank]
    rfl
  optimal_iff := Exercise.optimal_judge_iff
  inSolutions_iff := Exercise.inSolutions_judge_iff
  inSolutions_of_optimal hoptimal := by
    obtain ⟨hblank, heq⟩ := Exercise.optimal_judge_iff.1 hoptimal
    exact Exercise.inSolutions_judge_iff.2 ⟨hblank, e.optimal, optimal_mem h, heq.symm⟩
  correct_of_inSolutions hlisted := by
    obtain ⟨hblank, hlists⟩ := Exercise.inSolutions_judge_iff.1 hlisted
    exact Exercise.correct_judge_iff.2 ⟨hblank, .inl hlists⟩
  correct_of_solution s hs := by
    have hmem : s ∈ e.solutions := by
      rcases List.mem_cons.1 hs with rfl | hmem
      · exact optimal_mem h
      · exact hmem
    rw [Exercise.correct_judge_iff, and_iff_left (.inl (Exercise.lists_of_mem hmem))]
  correct_of_not_lists hblank hlists := by
    rw [Exercise.correct_judge_iff, and_iff_right hblank, or_iff_right hlists,
      Exercise.effect_eq_iff]
  not_understood hlists hunknown heffect := by
    rw [Bool.eq_false_iff, Ne, Exercise.correct_judge_iff, or_iff_right hlists]
    rintro ⟨-, -, hsame⟩
    rw [Exercise.effectOf_of_not_isRecognized hunknown] at hsame
    rw [← hsame] at heffect
    exact heffect.elim (fun hmoves => hmoves rfl) fun hselects => hselects rfl
  whiteSpace _ _ hbefore hafter := e.judge_congr (trimmed_append_append answer hbefore hafter)

end Catalog

/-- Where `l` is asked for, `$` is right though not listed, and `qé` is understood by no one. -/
theorem Catalog.judge_accepts_unlisted :
    let e := twoLessons.exercises.head (by decide)
    e ∈ twoLessons.exercises ∧ e.JudgesRightly "$" ∧
      ["l", "$", "\t$\n", " qé", "h", " "].map (fun answer => (e.judge answer).correct) =
        [true, true, true, false, false, false] ∧
      (e.judge "$").inSolutions = false := by
  have hmem := List.head_mem (show twoLessons.exercises ≠ [] by decide)
  exact ⟨hmem, twoLessons.judge_accepts hmem "$", by decide +kernel, by decide +kernel⟩

end MotionTutor
