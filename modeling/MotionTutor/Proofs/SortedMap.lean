import MotionTutor.SortedMap

/-!
# What a map holds after a change

A map changes under one key at a time (`SortedMap.modify`). Besides the view, which says what is
found under each key, this file says what the change does to the map as a whole:

* a value is the new one or was there before (`mem_values_modify`);
* **a sum over the values grows by the new value and loses the one that it replaces**
  (`sum_modify`).

Two maps in which the same is found are equal (`ext_find?`), and put together from its own entries,
a map is itself again (`ofList_entries`). Changing every value (`SortedMap.mapValues`) can be done
before or after (`mapValues_modify`).
-/

namespace MotionTutor.SortedMap

variable {α : Type} {m : SortedMap α} {key k : String} {v : α} {f : Option α → α}

/-- A number for every value, added up. -/
def sum (m : SortedMap α) (g : α → Nat) : Nat := m.entries.foldr (fun e n => g e.2 + n) 0

/-! ## 1. Keys and values -/

theorem mem_keys_iff : k ∈ m.keys ↔ (m.find? k).isSome = true := by
  unfold keys find?
  rw [List.mem_map, List.lookup_isSome_iff]
  constructor
  · rintro ⟨e, he, rfl⟩
    exact ⟨e, he, beq_self_eq_true e.1⟩
  · rintro ⟨e, he, heq⟩
    exact ⟨e, he, (eq_of_beq heq).symm⟩

/-- Where no two entries have one key, each is what is found under its key. -/
theorem lookup_of_nodup {l : List (String × α)} (h : (l.map (·.1)).Nodup) {e : String × α}
    (he : e ∈ l) : l.lookup e.1 = some e.2 := by
  induction l with
  | nil => cases he
  | cons head rest ih =>
    obtain ⟨k, v⟩ := head
    obtain ⟨hnew, hrest⟩ := List.nodup_cons.mp h
    rw [lookup_cons_eq]
    rcases List.mem_cons.mp he with rfl | he
    · exact if_pos rfl
    · have hmem : e.1 ∈ rest.map (·.1) := List.mem_map_of_mem he
      have hne : e.1 ≠ k := fun heq => hnew (heq ▸ hmem)
      rw [if_neg hne]
      exact ih hrest he

/-- An entry is what is found under its key. -/
theorem find?_of_mem {e : String × α} (he : e ∈ m.entries) : m.find? e.1 = some e.2 := by
  have hne : m.entries.Pairwise fun a b => a.1 ≠ b.1 :=
    m.sorted.imp fun {a b} (hlt : a.1 < b.1) heq => Std.lt_irrefl (heq ▸ hlt)
  exact lookup_of_nodup (List.pairwise_map.mpr hne) he

theorem mem_of_find? (h : m.find? k = some v) : (k, v) ∈ m.entries := by
  obtain ⟨before, after, heq, -⟩ := List.lookup_eq_some_iff.mp h
  rw [heq]
  exact List.mem_append_right before List.mem_cons_self

theorem mem_values_of_find? (h : m.find? k = some v) : v ∈ m.values :=
  List.mem_map_of_mem (mem_of_find? h)

theorem nodup_of_sorted {l : List (String × α)} (h : l.Pairwise fun a b => a.1 < b.1) : l.Nodup :=
  h.imp fun {a b} (hlt : a.1 < b.1) heq => Std.lt_irrefl (heq ▸ hlt)

/-- The order of the keys leaves entries no choice. -/
theorem eq_of_sorted {l l' : List (String × α)} (hl : l.Pairwise fun a b => a.1 < b.1)
    (hl' : l'.Pairwise fun a b => a.1 < b.1) (h : ∀ e, e ∈ l ↔ e ∈ l') : l = l' := by
  have hperm := (List.perm_ext_iff_of_nodup (nodup_of_sorted hl) (nodup_of_sorted hl')).mpr h
  exact hperm.eq_of_pairwise (fun a b _ _ hab hba => absurd (Std.lt_trans hab hba) Std.lt_irrefl)
    hl hl'

/-- **A map is what is found in it.** -/
theorem ext_find? {n : SortedMap α} (h : ∀ k, m.find? k = n.find? k) : m = n := by
  refine ext (eq_of_sorted m.sorted n.sorted fun e => ⟨fun he => ?_, fun he => ?_⟩)
  · exact mem_of_find? (h e.1 ▸ find?_of_mem he)
  · exact mem_of_find? (h e.1 ▸ find?_of_mem he)

/-- What holds of every value, and of another one, holds of what is found or else that one. -/
theorem holds_getD_find? {P : α → Prop} {default : α} (hdefault : P default)
    (h : ∀ x ∈ m.values, P x) (k : String) : P ((m.find? k).getD default) := by
  cases hfound : m.find? k with
  | none => exact hdefault
  | some x => exact h x (mem_values_of_find? hfound)

/-- After a change, a value is the changed one or was there before. -/
theorem mem_values_modify (h : v ∈ (m.modify key f).values) :
    v = f (m.find? key) ∨ v ∈ m.values := by
  obtain ⟨e, he, rfl⟩ := List.mem_map.mp h
  have hfound : (m.modify key f).find? e.1 = some e.2 := find?_of_mem he
  rw [find?_modify] at hfound
  split at hfound
  · exact Or.inl (Option.some.inj hfound).symm
  · exact Or.inr (mem_values_of_find? hfound)

theorem mapValues_id (m : SortedMap α) : m.mapValues id = m := ext (List.map_id m.entries)

section MapValues

variable {β γ : Type}

theorem mapValues_mapValues (m : SortedMap α) (g : α → β) (g' : β → γ) :
    (m.mapValues g).mapValues g' = m.mapValues fun v => g' (g v) :=
  ext (List.map_map ..)

theorem values_mapValues (m : SortedMap α) (g : α → β) :
    (m.mapValues g).values = m.values.map g := by
  unfold values mapValues
  rw [List.map_map, List.map_map]
  rfl

theorem mapValues_congr {g g' : α → β} (h : ∀ v ∈ m.values, g v = g' v) :
    m.mapValues g = m.mapValues g' :=
  ext (List.map_congr_left fun e he => congrArg (e.1, ·) (h e.2 (List.mem_map_of_mem he)))

theorem mapValues_modifyEntries {g : α → β} {f' : Option β → β}
    (h : ∀ v, g (f v) = f' (v.map g)) (l : List (String × α)) :
    (modifyEntries key f l).map (fun e => (e.1, g e.2)) =
      modifyEntries key f' (l.map fun e => (e.1, g e.2)) := by
  induction l with
  | nil => exact congrArg (fun v => [(key, v)]) (h none)
  | cons head rest ih =>
    rw [List.map_cons, modifyEntries, modifyEntries]
    split
    · rw [List.map_cons, List.map_cons, h none]
      rfl
    · split
      · rw [List.map_cons, h (some head.2)]
        rfl
      · rw [List.map_cons, ih]

/-- Values can be changed before one of them is modified, or after. -/
theorem mapValues_modify {g : α → β} {f' : Option β → β} (h : ∀ v, g (f v) = f' (v.map g)) :
    (m.modify key f).mapValues g = (m.mapValues g).modify key f' :=
  ext (mapValues_modifyEntries h m.entries)

end MapValues

/-! ## 2. Sums -/

theorem foldr_modifyEntries (key : String) (f : Option α → α) (g : α → Nat)
    {l : List (String × α)} (h : l.Pairwise fun a b => a.1 < b.1) :
    (modifyEntries key f l).foldr (fun e n => g e.2 + n) 0 + (l.lookup key).elim 0 g =
      l.foldr (fun e n => g e.2 + n) 0 + g (f (l.lookup key)) := by
  induction l with
  | nil => exact Nat.add_comm _ 0
  | cons head rest ih =>
    obtain ⟨k, v⟩ := head
    have hhead := (List.pairwise_cons.mp h).1
    have hrest := ih (List.Pairwise.of_cons h)
    rw [lookup_cons_eq]
    unfold modifyEntries
    split
    · rename_i hlt
      have hne : key ≠ k := fun heq => Std.lt_irrefl (heq ▸ hlt)
      have hnone : rest.lookup key = none :=
        lookup_eq_none_of_lt fun e he => Std.lt_trans hlt (hhead e he)
      rw [if_neg hne, hnone]
      simp only [List.foldr_cons, Option.elim_none]
      omega
    · split
      · rename_i heq
        simp only [List.foldr_cons, Option.elim_some]
        omega
      · simp only [List.foldr_cons]
        omega

/-- **A sum over the values grows by the changed value and loses the one before.** -/
theorem sum_modify (m : SortedMap α) (key : String) (f : Option α → α) (g : α → Nat) :
    (m.modify key f).sum g + (m.find? key).elim 0 g = m.sum g + g (f (m.find? key)) :=
  foldr_modifyEntries key f g m.sorted

/-! ## 3. The map of a list -/

/-- A key above all others comes last. -/
theorem modifyEntries_of_lt {l : List (String × α)} (h : ∀ e ∈ l, e.1 < key) :
    modifyEntries key f l = l ++ [(key, f none)] := by
  induction l with
  | nil => rfl
  | cons head rest ih =>
    obtain ⟨k, v⟩ := head
    obtain ⟨hk, hrest⟩ := List.forall_mem_cons.mp h
    have hlt : ¬ key < k := fun hlt => Std.lt_irrefl (Std.lt_trans hlt hk)
    have hne : key ≠ k := fun heq => Std.lt_irrefl (heq ▸ hk)
    rw [modifyEntries, if_neg hlt, if_neg hne, ih hrest]
    rfl

/-- Entries in order, put in one after the other, stand one after the other. -/
theorem entries_foldl_insert {l : List (String × α)} (hl : l.Pairwise fun a b => a.1 < b.1)
    (h : ∀ e ∈ m.entries, ∀ e' ∈ l, e.1 < e'.1) :
    (l.foldl (fun m e => m.insert e.1 e.2) m).entries = m.entries ++ l := by
  induction l generalizing m with
  | nil => exact (List.append_nil m.entries).symm
  | cons head rest ih =>
    obtain ⟨hhead, hrest⟩ := List.pairwise_cons.mp hl
    have hinsert : (m.insert head.1 head.2).entries = m.entries ++ [head] :=
      modifyEntries_of_lt fun e he => h e he head List.mem_cons_self
    have hnext : ∀ e ∈ (m.insert head.1 head.2).entries, ∀ e' ∈ rest, e.1 < e'.1 := by
      intro e he e' he'
      rw [hinsert] at he
      rcases List.mem_append.mp he with he | he
      · exact h e he e' (List.mem_cons_of_mem head he')
      · exact List.mem_singleton.mp he ▸ hhead e' he'
    rw [List.foldl_cons, ih hrest hnext, hinsert, List.append_assoc]
    rfl

/-- **A map is the map of its entries.** -/
theorem ofList_entries (m : SortedMap α) : ofList m.entries = m :=
  ext (entries_foldl_insert m.sorted nofun)

/-- The values of the map of a list stand in the list. -/
theorem mem_values_foldl_insert {l : List (String × α)}
    (h : v ∈ (l.foldl (fun m e => m.insert e.1 e.2) m).values) :
    v ∈ m.values ∨ v ∈ l.map (·.2) := by
  induction l generalizing m with
  | nil => exact Or.inl h
  | cons head rest ih =>
    rw [List.map_cons, List.mem_cons]
    rcases ih h with h | h
    · rcases mem_values_modify h with h | h
      · exact Or.inr (Or.inl h)
      · exact Or.inl h
    · exact Or.inr (Or.inr h)

theorem mem_values_ofList {l : List (String × α)} (h : v ∈ (ofList l).values) :
    v ∈ l.map (·.2) := (mem_values_foldl_insert h).resolve_left nofun

end MotionTutor.SortedMap
