/-!
# Maps kept in the order of their keys

A finite map from texts, as a list of entries with strictly increasing keys. Keys are compared by
code points, which is also the order of their bytes in UTF-8. What an answer can show of a map, its
entries in order, is the map itself, so two maps with the same entries are equal.

The view of a map is `find?`; `find?_modify` and `find?_insert` say what the two operations do to
it.
-/

namespace MotionTutor

/-- Entries with strictly increasing keys. -/
structure SortedMap (α : Type) where
  entries : List (String × α)
  sorted : entries.Pairwise fun a b => a.1 < b.1

namespace SortedMap

variable {α β : Type}

@[ext] theorem ext {m n : SortedMap α} (h : m.entries = n.entries) : m = n := by
  cases m; cases n; cases h; rfl

/-- The map without entries. -/
def empty : SortedMap α := ⟨[], .nil⟩

instance : Inhabited (SortedMap α) := ⟨empty⟩

instance [BEq α] : BEq (SortedMap α) := ⟨fun m n => m.entries == n.entries⟩

/-- The value under a key. -/
def find? (m : SortedMap α) (key : String) : Option α := m.entries.lookup key

def keys (m : SortedMap α) : List String := m.entries.map (·.1)

def values (m : SortedMap α) : List α := m.entries.map (·.2)

/-! ## 1. Changing one entry -/

/-- Changes the value under a key, or adds what becomes of no value, at its place in the order. -/
def modifyEntries (key : String) (f : Option α → α) : List (String × α) → List (String × α)
  | [] => [(key, f none)]
  | (k, v) :: rest =>
    if key < k then (key, f none) :: (k, v) :: rest
    else if key = k then (key, f (some v)) :: rest
    else (k, v) :: modifyEntries key f rest

theorem mem_modifyEntries {key : String} {f : Option α → α} {e : String × α}
    {l : List (String × α)} (h : e ∈ modifyEntries key f l) : e.1 = key ∨ e ∈ l := by
  induction l with
  | nil => simp_all [modifyEntries]
  | cons head rest ih =>
    obtain ⟨k, v⟩ := head
    unfold modifyEntries at h
    grind

theorem lt_of_not_lt_of_ne {a b : String} (h : ¬ a < b) (hne : a ≠ b) : b < a :=
  Std.lt_of_le_of_ne (Std.not_lt.1 h) (Ne.symm hne)

theorem sorted_modifyEntries (key : String) (f : Option α → α) {l : List (String × α)}
    (h : l.Pairwise fun a b => a.1 < b.1) :
    (modifyEntries key f l).Pairwise fun a b => a.1 < b.1 := by
  induction l with
  | nil => simp [modifyEntries]
  | cons head rest ih =>
    obtain ⟨k, v⟩ := head
    have hhead := (List.pairwise_cons.1 h).1
    unfold modifyEntries
    split
    · rename_i hlt
      refine .cons (fun e he => ?_) h
      rcases List.mem_cons.1 he with rfl | he
      · exact hlt
      · exact Std.lt_trans hlt (hhead e he)
    · split
      · rename_i heq
        subst heq
        exact .cons (fun e he => hhead e he) (List.Pairwise.of_cons h)
      · rename_i hlt hne
        refine .cons (fun e he => ?_) (ih (List.Pairwise.of_cons h))
        rcases mem_modifyEntries he with he | he
        · exact he ▸ lt_of_not_lt_of_ne hlt hne
        · exact hhead e he

/-- Changes the value under a key; `f` gets none if there is no value yet. -/
def modify (m : SortedMap α) (key : String) (f : Option α → α) : SortedMap α :=
  ⟨modifyEntries key f m.entries, sorted_modifyEntries key f m.sorted⟩

/-- Puts a value under a key. -/
def insert (m : SortedMap α) (key : String) (v : α) : SortedMap α := m.modify key fun _ => v

/-- The map of a list of entries; of two entries with one key the later counts. -/
def ofList (l : List (String × α)) : SortedMap α :=
  l.foldl (fun m e => m.insert e.1 e.2) empty

/-- Changes every value. -/
def mapValues (f : α → β) (m : SortedMap α) : SortedMap β :=
  ⟨m.entries.map fun e => (e.1, f e.2), by
    have h := m.sorted
    rw [List.pairwise_map]
    exact h⟩

/-! ## 2. The view -/

theorem lookup_cons_eq (k k' : String) (v : α) (l : List (String × α)) :
    ((k', v) :: l).lookup k = if k = k' then some v else l.lookup k := by
  by_cases h : k = k'
  · subst h; simp
  · have hbeq : (k == k') = false := by simpa using h
    simp [List.lookup_cons, hbeq, h]

theorem lookup_eq_none_of_lt {key : String} {l : List (String × α)} (h : ∀ e ∈ l, key < e.1) :
    l.lookup key = none := by
  rw [List.lookup_eq_none_iff]
  intro e he
  simpa using fun heq : key = e.1 => Std.lt_irrefl (heq ▸ h e he)

theorem lookup_modifyEntries (key : String) (f : Option α → α) (k : String)
    {l : List (String × α)} (h : l.Pairwise fun a b => a.1 < b.1) :
    (modifyEntries key f l).lookup k =
      if k = key then some (f (l.lookup key)) else l.lookup k := by
  induction l with
  | nil => simp [modifyEntries, lookup_cons_eq]
  | cons head rest ih =>
    obtain ⟨k', v⟩ := head
    have hhead := (List.pairwise_cons.1 h).1
    have hrest := ih (List.Pairwise.of_cons h)
    unfold modifyEntries
    split
    · rename_i hlt
      have hnone : rest.lookup key = none :=
        lookup_eq_none_of_lt fun e he => Std.lt_trans hlt (hhead e he)
      have hne : key ≠ k' := fun heq => Std.lt_irrefl (heq ▸ hlt)
      simp [lookup_cons_eq, hnone, hne]
    · split
      · rename_i heq
        subst heq
        simp only [lookup_cons_eq, ↓reduceIte]
        split <;> rfl
      · rename_i hlt hne
        simp only [lookup_cons_eq, hrest, if_neg hne]
        by_cases hk : k = key
        · subst hk; simp [hne]
        · simp [hk]

theorem find?_modify (m : SortedMap α) (key : String) (f : Option α → α) (k : String) :
    (m.modify key f).find? k = if k = key then some (f (m.find? key)) else m.find? k :=
  lookup_modifyEntries key f k m.sorted

@[simp] theorem find?_empty (k : String) : (empty : SortedMap α).find? k = none := rfl

theorem find?_insert (m : SortedMap α) (key : String) (v : α) (k : String) :
    (m.insert key v).find? k = if k = key then some v else m.find? k :=
  find?_modify m key _ k

end SortedMap

end MotionTutor
