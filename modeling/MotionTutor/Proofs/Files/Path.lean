import MotionTutor.Files.Path

/-!
# Paths taken apart and put together

The parts of a path that was joined to a directory are those of both (`Path.parts_join`), and a path
along some parts has these parts (`Path.parts_ofParts`). So the parent of a file in a directory has
the names of the directory (`Path.parent?_join`), and of all the paths that lead towards a path none
has more names than it (`Path.length_names_le`). A path that does not end in a slash ends with its
last part (`Path.exists_parts_concat`).
-/

namespace MotionTutor.Path

/-! ## 1. Parts -/

/-- A text that can stand between the slashes of a path. -/
structure IsPart (part : String) : Prop where
  ne_empty : part ≠ ""
  no_slash : '/' ∉ part.toList

theorem split_eq_splitOn (cs : List Char) : split cs = cs.splitOn '/' := by
  induction cs with
  | nil => rfl
  | cons c cs ih =>
    rw [split, List.splitOn_cons_eq_if_modifyHead, ih]
    by_cases hc : c = '/'
    · rw [if_pos hc, if_pos (beq_iff_eq.2 hc)]
    · rw [if_neg hc, if_neg fun h => hc (beq_iff_eq.1 h)]
      cases h : cs.splitOn '/' with
      | nil => exact absurd h (List.splitOn_ne_nil _ _)
      | cons name names => rfl

/-- What stands between slashes holds none. -/
theorem not_mem_of_mem_split {cs name : List Char} (h : name ∈ split cs) : '/' ∉ name := by
  induction cs generalizing name with
  | nil =>
    rw [List.mem_singleton.1 h]
    exact List.not_mem_nil
  | cons c cs ih =>
    rw [split] at h
    split at h
    · rcases List.mem_cons.1 h with rfl | h
      · exact List.not_mem_nil
      · exact ih h
    · rename_i hc
      split at h
      · rw [List.mem_singleton.1 h]
        exact fun hmem => hc (List.mem_singleton.1 hmem).symm
      · rename_i first names hsplit
        rcases List.mem_cons.1 h with rfl | h
        · intro hmem
          rcases List.mem_cons.1 hmem with heq | hmem
          · exact hc heq.symm
          · exact ih (hsplit ▸ List.mem_cons_self) hmem
        · exact ih (hsplit ▸ List.mem_cons_of_mem first h)

theorem isPart_of_mem_parts {path part : String} (h : part ∈ parts path) : IsPart part := by
  obtain ⟨hmem, hne⟩ := List.mem_filter.1 h
  obtain ⟨cs, hcs, rfl⟩ := List.mem_map.1 hmem
  refine ⟨of_decide_eq_true hne, ?_⟩
  rw [String.toList_ofList]
  exact not_mem_of_mem_split hcs

theorem isPart_of_mem_names {path name : String} (h : name ∈ names path) :
    IsPart name ∧ name ≠ "." := by
  obtain ⟨hmem, hne⟩ := List.mem_filter.1 h
  exact ⟨isPart_of_mem_parts hmem, of_decide_eq_true hne⟩

theorem exists_split_concat {c : Char} (hc : c ≠ '/') (cs : List Char) :
    ∃ before last, split (cs ++ [c]) = before ++ [last ++ [c]] := by
  induction cs with
  | nil =>
    refine ⟨[], [], ?_⟩
    rw [List.nil_append, split, if_neg hc]
    rfl
  | cons d cs ih =>
    obtain ⟨before, last, hsplit⟩ := ih
    rw [List.cons_append, split, hsplit]
    split
    · exact ⟨[] :: before, last, rfl⟩
    · cases before with
      | nil => exact ⟨[], d :: last, rfl⟩
      | cons name before => exact ⟨(d :: name) :: before, last, rfl⟩

/-- The last part of a path ends as the path does, unless a slash comes last. -/
theorem exists_parts_concat {path : String} {c : Char} (h : path.toList.getLast? = some c)
    (hc : c ≠ '/') :
    ∃ before last, parts path = before ++ [last] ∧ last.toList.getLast? = some c := by
  obtain ⟨cs, hcs⟩ := List.getLast?_eq_some_iff.1 h
  obtain ⟨before, last, hsplit⟩ := exists_split_concat hc cs
  refine ⟨(before.map String.ofList).filter fun part => part ≠ "", String.ofList (last ++ [c]),
    ?_, ?_⟩
  · rw [parts, hcs, hsplit, List.map_append, List.filter_append, List.map_singleton,
      List.filter_cons_of_pos (by simp), List.filter_nil]
  · rw [String.toList_ofList, List.getLast?_concat]

/-! ## 2. Paths in a directory -/

theorem parts_of_toList_eq {path before after : String}
    (h : path.toList = before.toList ++ '/' :: after.toList) :
    parts path = parts before ++ parts after := by
  rw [parts, h, split_eq_splitOn, List.splitOn_append_cons_self, List.map_append,
    List.filter_append, ← split_eq_splitOn, ← split_eq_splitOn]
  rfl

variable {directory file : String}

/-- **The parts of a path from a directory on** are those of the directory and its own. -/
theorem parts_join (hfile : isAbsolute file = false) :
    parts (join directory file) = parts directory ++ parts file := by
  rw [join, hfile, Bool.false_or]
  split
  · rename_i hempty
    rw [String.isEmpty_iff.1 hempty]
    rfl
  · split
    · rename_i hslash
      have hlast : directory.toList.getLast? = some '/' := beq_iff_eq.1 hslash
      obtain ⟨cs, hcs⟩ := List.getLast?_eq_some_iff.1 hlast
      have hdirectory : parts directory = parts (String.ofList cs) := by
        have h := @parts_of_toList_eq directory (String.ofList cs) "" <| by
          rw [hcs, String.toList_ofList]
          rfl
        exact h.trans (List.append_nil _)
      rw [hdirectory]
      refine parts_of_toList_eq ?_
      rw [String.toList_append, hcs, String.toList_ofList, List.append_assoc]
      rfl
    · refine parts_of_toList_eq ?_
      rw [String.toList_append, String.toList_append, List.append_assoc]
      rfl

/-- A path from a directory on ends with the path itself. -/
theorem exists_toList_join (directory file : String) :
    ∃ before, (join directory file).toList = before ++ file.toList := by
  rw [join]
  split
  · exact ⟨[], rfl⟩
  · split
    · exact ⟨directory.toList, String.toList_append⟩
    · refine ⟨directory.toList ++ ['/'], ?_⟩
      rw [String.toList_append, String.toList_append]
      rfl

theorem getLast?_join (directory : String) {c : Char} (h : file.toList.getLast? = some c) :
    (join directory file).toList.getLast? = some c := by
  obtain ⟨before, hbefore⟩ := exists_toList_join directory file
  rw [hbefore, List.getLast?_append, h, Option.some_or]

theorem names_join (hfile : isAbsolute file = false) :
    names (join directory file) = names directory ++ names file := by
  rw [names, parts_join hfile, List.filter_append]
  rfl

theorem isAbsolute_join (hfile : isAbsolute file = false) :
    isAbsolute (join directory file) = isAbsolute directory := by
  rw [join, hfile, Bool.false_or]
  split
  · rename_i hempty
    rw [hfile, String.isEmpty_iff.1 hempty]
    rfl
  · rename_i hempty
    have hne : directory.toList ≠ [] := by
      rw [Ne, String.toList_eq_nil_iff]
      exact fun h => hempty (String.isEmpty_iff.2 h)
    obtain ⟨c, cs, hcs⟩ := List.exists_cons_of_ne_nil hne
    split
    · rw [isAbsolute, isAbsolute, String.toList_append, hcs]
      rfl
    · rw [isAbsolute, isAbsolute, String.toList_append, String.toList_append, hcs]
      rfl

/-! ## 3. Paths along parts -/

variable {way : List String} {path q : String}

/-- **A path along some parts has these parts.** -/
theorem parts_ofParts (absolute : Bool) (h : ∀ part ∈ way, IsPart part) :
    parts (ofParts absolute way) = way := by
  have hrelative : parts ("/".intercalate way) = way := by
    by_cases hne : way = []
    · rw [hne]
      rfl
    · rw [parts, split_eq_splitOn, String.toList_intercalate, show "/".toList = ['/'] from rfl,
        List.splitOn_intercalate, List.map_map]
      · have hid : String.ofList ∘ String.toList = id := funext fun _ => String.ofList_toList
        rw [hid, List.map_id, List.filter_eq_self]
        exact fun part hpart => decide_eq_true (h part hpart).ne_empty
      · intro cs hcs
        obtain ⟨part, hpart, rfl⟩ := List.mem_map.1 hcs
        exact (h part hpart).no_slash
      · rwa [Ne, List.map_eq_nil_iff]
  rw [ofParts]
  split
  · have happend := @parts_of_toList_eq ("/" ++ "/".intercalate way) "" ("/".intercalate way) <| by
      rw [String.toList_append]
      rfl
    exact happend.trans hrelative
  · exact hrelative

theorem names_ofParts (absolute : Bool) (h : ∀ part ∈ way, IsPart part ∧ part ≠ ".") :
    names (ofParts absolute way) = way := by
  rw [names, parts_ofParts absolute fun part hpart => (h part hpart).1, List.filter_eq_self]
  exact fun part hpart => decide_eq_true (h part hpart).2

/-- The parent of a file in a directory leads where the directory leads. -/
theorem parent?_join {name : String} (hfile : isAbsolute file = false)
    (hname : names file = [name]) :
    parent? (join directory file) = some (ofParts (isAbsolute directory) (names directory)) := by
  have hnames := @names_join directory file hfile
  rw [hname] at hnames
  rw [parent?, hnames]
  split
  · rename_i hnil
    exact absurd hnil (List.append_ne_nil_of_right_ne_nil _ (List.cons_ne_nil _ _))
  · rw [isAbsolute_join hfile, List.dropLast_concat]

/-- A path that leads towards another has no more names. -/
theorem length_names_le (h : q ∈ ancestors path) : (names q).length ≤ (names path).length := by
  rw [ancestors] at h
  split at h
  · cases h
  · rcases List.mem_cons.1 h with rfl | h
    · exact Nat.le_refl _
    · obtain ⟨count, -, rfl⟩ := List.mem_map.1 h
      rw [names_ofParts _ fun name hname =>
        isPart_of_mem_names (List.mem_of_mem_take hname)]
      exact List.length_take_le' _ _

end MotionTutor.Path
