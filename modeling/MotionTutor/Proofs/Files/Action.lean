import MotionTutor.Files

/-!
# What comes of an action on files

An action on files with some state either has a result or fails, and leaves a state in both cases
(`Action.outcome`).
-/

namespace MotionTutor

/-- An action on files with some state, which may fail. -/
abbrev Action (σ α : Type) := ExceptT FileFault (StateM σ) α

namespace Action

variable {σ α β : Type} {s s' : σ} {a : α} {fault : FileFault} {x : Action σ α}

/-- What comes of an action, and the state that it leaves. -/
def outcome (x : Action σ α) (s : σ) : Except FileFault α × σ := x.run.run s

theorem outcome_bind_ok {f : α → Action σ β} (h : x.outcome s = (.ok a, s')) :
    outcome (x >>= f) s = (f a).outcome s' := by
  have h : x.run.run s = (.ok a, s') := h
  rw [outcome, ExceptT.run_bind, StateT.run_bind, h]
  rfl

theorem outcome_bind_error {f : α → Action σ β} (h : x.outcome s = (.error fault, s')) :
    outcome (x >>= f) s = (.error fault, s') := by
  have h : x.run.run s = (.error fault, s') := h
  rw [outcome, ExceptT.run_bind, StateT.run_bind, h]
  rfl

/-- Two actions one after the other have a result if both have one. -/
theorem outcome_bind_eq_ok {f : α → Action σ β} {b : β}
    (h : outcome (x >>= f) s = (.ok b, s')) :
    ∃ a s₁, x.outcome s = (.ok a, s₁) ∧ (f a).outcome s₁ = (.ok b, s') := by
  cases hx : x.outcome s with
  | mk result s₁ =>
    cases result with
    | error fault =>
      rw [outcome_bind_error hx] at h
      cases h
    | ok a =>
      rw [outcome_bind_ok hx] at h
      exact ⟨a, s₁, rfl, h⟩

theorem outcome_tryCatch_ok {f : FileFault → Action σ α} (h : x.outcome s = (.ok a, s')) :
    outcome (tryCatch x f) s = (.ok a, s') := by
  have h : x.run.run s = (.ok a, s') := h
  rw [outcome, ExceptT.run_tryCatch, StateT.run_bind, h]
  rfl

theorem outcome_tryCatch_error {f : FileFault → Action σ α}
    (h : x.outcome s = (.error fault, s')) : outcome (tryCatch x f) s = (f fault).outcome s' := by
  have h : x.run.run s = (.error fault, s') := h
  rw [outcome, ExceptT.run_tryCatch, StateT.run_bind, h]
  rfl

/-- A directory that cannot be made is as good as made if it is there. -/
theorem outcome_ensureDirectory_error [FileSystem (StateM σ)] {path : String} {there : Bool}
    (hcreate : outcome (FileSystem.createDirectory path : Action σ Unit) s = (.error fault, s'))
    (hthere : (FileSystem.isDirectory path : StateM σ Bool).run s' = (there, s')) :
    outcome (FileSystem.ensureDirectory path : Action σ Unit) s =
      (if fault = .alreadyExists ∧ there = true then .ok () else .error fault, s') := by
  have hrun : outcome (liftM (FileSystem.isDirectory path : StateM σ Bool) : Action σ Bool) s' =
      (.ok there, s') := by
    rw [outcome, ExceptT.run_liftM, StateT.run_map, hthere]
    rfl
  rw [FileSystem.ensureDirectory, outcome_tryCatch_error hcreate, outcome_bind_ok hrun]
  simp only [Bool.and_eq_true, decide_eq_true_eq]
  split
  · rfl
  · rfl

end Action

end MotionTutor
