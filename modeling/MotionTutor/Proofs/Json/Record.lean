import Mathlib.Data.List.Nodup
import MotionTutor.Json.Record
import MotionTutor.Proofs.Json.Document
import MotionTutor.Proofs.SortedMap

/-!
# Data read back

What the readers of data get out of what the writers of data made: a number in its range, a list of
texts, a map whose values can be read (`map?_ofMap`), and the fields of an object whose names are
all different (`fields?_object`). A map with one value that cannot be read cannot be read as a whole
(`map?_ofMap_eq_none`).
-/

namespace MotionTutor.Json

variable {α β γ : Type}

theorem optional_some (default : α) (read : Value → Option α) (v : Value) :
    optional default read (some v) = read v := rfl

/-- What holds of the default and of all that can be read holds of a field. -/
theorem of_optional (P : α → Prop) {default x : α} {read : Value → Option α}
    {field : Option Value} (hdefault : P default) (hread : ∀ {v y}, read v = some y → P y)
    (h : optional default read field = some x) : P x := by
  cases field with
  | none => exact Option.some.inj h ▸ hdefault
  | some v => exact hread h

namespace Value

/-! ## 1. Single values -/

theorem natural?_ofNat {bound n : Nat} (h : n < bound) : (ofNat n).natural? bound = some n := by
  have hrange : 0 ≤ (n : Int) ∧ (n : Int) < bound := by omega
  rw [ofNat, natural?, if_pos hrange, Int.toNat_natCast]

theorem integer?_ofInt {n : Int} (hlow : -integerLimit ≤ n) (hhigh : n < integerLimit) :
    (ofInt n).integer? = some n := by
  rw [ofInt, integer?, if_pos ⟨hlow, hhigh⟩]

theorem natural?_lt {bound n : Nat} {v : Value} (h : v.natural? bound = some n) : n < bound := by
  unfold natural? at h
  split at h
  · split at h
    · cases h
      omega
    · cases h
  · cases h

theorem integer?_range {n : Int} {v : Value} (h : v.integer? = some n) :
    -integerLimit ≤ n ∧ n < integerLimit := by
  unfold integer? at h
  split at h
  · split at h
    · cases h
      assumption
    · cases h
  · cases h

/-! ## 2. Lists and maps -/

section

variable {l : List α} {write : α → γ} {read : γ → Option β}

theorem mapM_map_eq_some {g : α → β} (h : ∀ x ∈ l, read (write x) = some (g x)) :
    (l.map write).mapM read = some (l.map g) := by
  induction l with
  | nil => rfl
  | cons x l ih =>
    obtain ⟨hx, hl⟩ := List.forall_mem_cons.1 h
    rw [List.map_cons, List.mapM_cons, hx, ih hl]
    rfl

theorem mapM_map_eq_none {x : α} (hx : x ∈ l) (h : read (write x) = none) :
    (l.map write).mapM read = none := by
  induction l with
  | nil => cases hx
  | cons y l ih =>
    rw [List.map_cons, List.mapM_cons]
    rcases List.mem_cons.1 hx with rfl | hx
    · rw [h]
      rfl
    · rw [ih hx]
      cases read (write y) <;> rfl

theorem exists_of_mapM {l : List γ} {l' : List β} (h : l.mapM read = some l') {y : β}
    (hy : y ∈ l') : ∃ x ∈ l, read x = some y := by
  induction l generalizing l' with
  | nil =>
    cases h
    cases hy
  | cons x l ih =>
    rw [List.mapM_cons] at h
    obtain ⟨z, hz, h⟩ := Option.bind_eq_some_iff.1 h
    obtain ⟨zs, hzs, h⟩ := Option.bind_eq_some_iff.1 h
    cases h
    rcases List.mem_cons.1 hy with rfl | hy
    · exact ⟨x, List.mem_cons_self, hz⟩
    · obtain ⟨x', hx', hread⟩ := ih hzs hy
      exact ⟨x', List.mem_cons_of_mem x hx', hread⟩

end

theorem list?_ofTexts (texts : List String) : (ofTexts texts).list? text? = some texts := by
  have hread : (texts.map text).mapM text? = some (texts.map id) :=
    mapM_map_eq_some fun _ _ => rfl
  rw [ofTexts, list?, hread, List.map_id]

variable {read : Value → Option β} {write : α → Value} {m : SortedMap α}

/-- **A map is read back if its values are**, each as what `g` makes of it. -/
theorem map?_ofMap {g : α → β} (h : ∀ x ∈ m.values, read (write x) = some (g x)) :
    (ofMap write m).map? read = some (m.mapValues g) := by
  have hread : ∀ e ∈ m.entries, (read (write e.2)).map (e.1, ·) = some (e.1, g e.2) := by
    intro e he
    rw [h e.2 (List.mem_map_of_mem he)]
    rfl
  rw [ofMap, map?, mapM_map_eq_some hread, Option.map_some]
  exact congrArg some (m.mapValues g).ofList_entries

theorem map?_ofMap_eq_none {x : α} (hx : x ∈ m.values) (h : read (write x) = none) :
    (ofMap write m).map? read = none := by
  obtain ⟨e, he, rfl⟩ := List.mem_map.1 hx
  have hread : (read (write e.2)).map (e.1, ·) = none := by
    rw [h]
    rfl
  rw [ofMap, map?, mapM_map_eq_none he hread]
  rfl

/-- The values of a map that was read were read. -/
theorem exists_of_map? {v : Value} {m : SortedMap β} (h : v.map? read = some m) {y : β}
    (hy : y ∈ m.values) : ∃ w, read w = some y := by
  unfold map? at h
  split at h
  · rename_i members
    obtain ⟨entries, hentries, rfl⟩ := Option.map_eq_some_iff.1 h
    obtain ⟨e, he, rfl⟩ := List.mem_map.1 (SortedMap.mem_values_ofList hy)
    obtain ⟨member, -, hmember⟩ := exists_of_mapM hentries he
    obtain ⟨z, hz, rfl⟩ := Option.map_eq_some_iff.1 hmember
    exact ⟨member.2, hz⟩
  · cases h

/-! ## 3. Records -/

/-- **The fields of an object are its members**, if each name is given once. -/
theorem fields?_object {members : List (String × Value)} {names : List String}
    (hnames : members.map (·.1) = names) (h : names.Nodup) :
    (object members).fields? names = some (members.map fun m => some m.2) := by
  subst hnames
  have honce : (members.map (·.1)).all (fun name => members.countP (·.1 == name) ≤ 1) = true := by
    rw [List.all_eq_true]
    intro name _
    have hcount := List.nodup_iff_count_le_one.1 h name
    rw [List.count, List.countP_map] at hcount
    exact decide_eq_true hcount
  have hlookup : (members.map (·.1)).map (fun name => members.lookup name) =
      members.map fun m => some m.2 := by
    rw [List.map_map]
    exact List.map_congr_left fun m hm => SortedMap.lookup_of_nodup h hm
  rw [fields?, if_pos honce, hlookup]

/-! ## 4. What is written can be read -/

theorem readable_ofNat {n : Nat} (h : n < wordLimit) : (ofNat n).Readable :=
  .number (readsBack_whole (by omega) (by omega))

theorem readable_ofInt {n : Int} (hlow : -integerLimit ≤ n) (hhigh : n < integerLimit) :
    (ofInt n).Readable :=
  .number (readsBack_whole hlow (Int.lt_of_lt_of_le hhigh (by decide)))

theorem readable_ofTexts (texts : List String) : (ofTexts texts).Readable := by
  refine .array fun v hv => ?_
  obtain ⟨s, -, rfl⟩ := List.mem_map.1 hv
  exact .text s

theorem readable_ofMap (h : ∀ x ∈ m.values, (write x).Readable) : (ofMap write m).Readable := by
  refine .object fun e he => ?_
  obtain ⟨e', he', rfl⟩ := List.mem_map.1 he
  exact h e'.2 (List.mem_map_of_mem he')

end Value

end MotionTutor.Json
