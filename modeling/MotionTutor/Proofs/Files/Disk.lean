import MotionTutor.Files.Disk
import MotionTutor.Proofs.Files.Action
import MotionTutor.Proofs.Files.Path

/-!
# What stays on a disk

From one disk to another, all that was there can still be there but for what stands at a few places,
with new directories besides (`Disk.Grows`). Then every path leads where it led before
(`Grows.locate`), and every file is read as before but for those at these places (`Grows.read`).

Directories that are made only add to a disk (`createParent_ok`), and where a directory is already
there nothing is made (`createParent_of_holdsParent`).
-/

namespace MotionTutor.Disk

variable {d d' d'' : Disk} {place q : List String} {node : Node} {path content : String}
  {own own' : List (List String)}

/-! ## 1. Single places -/

theorem lookup_filter_ne (nodes : List (List String × Node)) (place q : List String) :
    (nodes.filter fun n => n.1 ≠ place).lookup q = if q = place then none else nodes.lookup q := by
  induction nodes with
  | nil => split <;> rfl
  | cons n nodes ih =>
    obtain ⟨key, value⟩ := n
    by_cases hkey : key = place
    · rw [List.filter_cons_of_neg (by simpa using hkey), ih, List.lookup_cons]
      split
      · rfl
      · rename_i hq
        have hbeq : (q == key) = false := beq_eq_false_iff_ne.2 fun heq => hq (heq.trans hkey)
        rw [hbeq]
    · rw [List.filter_cons_of_pos (by simpa using hkey), List.lookup_cons, List.lookup_cons, ih]
      cases hq : q == key with
      | true =>
        have hne : q ≠ place := fun heq => hkey ((eq_of_beq hq).symm.trans heq)
        exact (if_neg hne).symm
      | false => rfl

theorem node?_clear (d : Disk) (place q : List String) :
    (d.clear place).node? q =
      if q = [] then some .directory else if q = place then none else d.node? q := by
  unfold node? clear
  dsimp only
  split
  · rfl
  · exact lookup_filter_ne d.nodes place q

theorem node?_put (d : Disk) (place : List String) (node : Node) (q : List String) :
    (d.put place node).node? q =
      if q = [] then some .directory else if q = place then some node else d.node? q := by
  have hclear := node?_clear d place q
  unfold node? at hclear ⊢
  unfold put
  dsimp only
  split
  · rfl
  · rename_i hne
    rw [if_neg hne, if_neg hne] at hclear
    rw [List.lookup_cons, hclear]
    cases hq : q == place with
    | true =>
      exact (if_pos (eq_of_beq hq)).symm
    | false =>
      have hplace : ¬ q = place := beq_eq_false_iff_ne.1 hq
      rw [if_neg hplace, if_neg hplace, if_neg hne]

/-- What stands at a place that is not the root is what was put there. -/
theorem node?_put_self (h : d.node? place ≠ some .directory) (node : Node) :
    (d.put place node).node? place = some node := by
  have hne : place ≠ [] := by
    rintro rfl
    exact h rfl
  rw [node?_put, if_neg hne, if_pos rfl]

/-! ## 2. Disks that grow -/

/-- What was on the disk is still there, but for what stands at the places `own`; new are
directories at most. -/
structure Grows (own : List (List String)) (d d' : Disk) : Prop where
  workingDirectory : d'.workingDirectory = d.workingDirectory
  directory : ∀ q, d.node? q = some .directory → d'.node? q = some .directory
  kept : ∀ q ∉ own, ∀ node, d.node? q = some node → d'.node? q = some node

theorem Grows.refl (own : List (List String)) (d : Disk) : Grows own d d :=
  ⟨rfl, fun _ h => h, fun _ _ _ h => h⟩

theorem Grows.trans (h : Grows own d d') (h' : Grows own d' d'') : Grows own d d'' :=
  ⟨h'.workingDirectory.trans h.workingDirectory, fun q hq => h'.directory q (h.directory q hq),
    fun q hq node hnode => h'.kept q hq node (h.kept q hq node hnode)⟩

theorem Grows.mono (h : Grows own d d') (hown : own ⊆ own') : Grows own' d d' :=
  ⟨h.workingDirectory, h.directory, fun q hq => h.kept q fun hmem => hq (hown hmem)⟩

theorem grows_put_file (h : d.node? place ≠ some .directory) (content : String) :
    Grows [place] d (d.put place (.file content)) := by
  refine ⟨rfl, fun q hq => ?_, fun q hq node hnode => ?_⟩
  · have hne : q ≠ place := by
      rintro rfl
      exact h hq
    rw [node?_put, if_neg hne, hq]
    split <;> rfl
  · rw [node?_put]
    split
    · rename_i hroot
      rw [hroot] at hnode
      exact hnode
    · rw [if_neg fun heq => hq (List.mem_singleton.2 heq), hnode]

theorem grows_put_directory (h : d.node? place = none) :
    Grows [] d (d.put place .directory) := by
  have hkept : ∀ q node, d.node? q = some node →
      (d.put place .directory).node? q = some node := by
    intro q node hnode
    rw [node?_put]
    split
    · rename_i hroot
      rw [hroot] at hnode
      exact hnode
    · have hne : q ≠ place := by
        rintro rfl
        cases h.symm.trans hnode
      rw [if_neg hne, hnode]
  exact ⟨rfl, fun q => hkept q .directory, fun q _ => hkept q⟩

theorem grows_clear (h : d.node? place ≠ some .directory) : Grows [place] d (d.clear place) := by
  refine ⟨rfl, fun q hq => ?_, fun q hq node hnode => ?_⟩
  · have hne : q ≠ place := by
      rintro rfl
      exact h hq
    rw [node?_clear, if_neg hne, hq]
    split <;> rfl
  · rw [node?_clear]
    split
    · rename_i hroot
      rw [hroot] at hnode
      exact hnode
    · rw [if_neg fun heq => hq (List.mem_singleton.2 heq), hnode]

/-! ## 3. Where paths lead -/

/-- A step and what follows it succeed if both do. -/
theorem bind_eq_ok_iff {α β : Type} {x : Except FileFault α} {f : α → Except FileFault β} {b : β} :
    x >>= f = .ok b ↔ ∃ a, x = .ok a ∧ f a = .ok b := by
  cases x with
  | error fault => exact iff_of_false nofun fun ⟨_, h, _⟩ => nomatch h
  | ok a =>
    refine ⟨fun h => ⟨a, rfl, h⟩, ?_⟩
    rintro ⟨_, ⟨⟩, h⟩
    exact h

/-- A path leads to the place that its parts lead to, unless its form is refused. -/
theorem locate_eq_ok_iff : d.locate path = .ok q ↔
    (Path.isValid path = true ∧ path.isEmpty = false ∧ path.utf8ByteSize ≤ Path.maxSize) ∧
      (Path.parts path).foldlM d.follow (d.startOf path) = .ok q := by
  unfold locate
  split
  · rename_i hvalid
    refine iff_of_false nofun fun h => ?_
    rw [h.1.1] at hvalid
    cases hvalid
  · rename_i hvalid
    split
    · rename_i hempty
      refine iff_of_false nofun fun h => ?_
      rw [h.1.2.1] at hempty
      cases hempty
    · rename_i hempty
      split
      · rename_i hsize
        exact iff_of_false nofun fun h => absurd hsize (Nat.not_lt.2 h.1.2.2)
      · rename_i hsize
        refine (and_iff_right ⟨?_, Bool.eq_false_iff.2 hempty, Nat.not_lt.1 hsize⟩).symm
        cases hform : Path.isValid path with
        | true => rfl
        | false =>
          rw [hform] at hvalid
          exact absurd rfl hvalid

/-- A part that is no dots leads to its own name. -/
theorem eq_of_follow {part : String} (h : d.follow place part = .ok q) (hdot : part ≠ ".")
    (hdots : part ≠ "..") : q = place ++ [part] := by
  unfold follow at h
  split at h
  · cases h
  · cases h
  · rw [if_neg hdot, if_neg hdots] at h
    split at h
    · cases h
    · cases h
      rfl

section Locate

variable (hdirectory : ∀ q, d.node? q = some .directory → d'.node? q = some .directory)
include hdirectory

theorem follow_of_directories {part : String} (h : d.follow place part = .ok q) :
    d'.follow place part = .ok q := by
  unfold follow at h ⊢
  cases hnode : d.node? place with
  | none =>
    rw [hnode] at h
    cases h
  | some node =>
    cases node with
    | file content =>
      rw [hnode] at h
      cases h
    | directory =>
      rw [hnode] at h
      rw [hdirectory place hnode]
      exact h

theorem foldlM_of_directories {parts : List String} (h : parts.foldlM d.follow place = .ok q) :
    parts.foldlM d'.follow place = .ok q := by
  induction parts generalizing place with
  | nil => exact h
  | cons part parts ih =>
    rw [List.foldlM_cons] at h ⊢
    obtain ⟨next, hfollow, h⟩ := bind_eq_ok_iff.1 h
    exact bind_eq_ok_iff.2 ⟨next, follow_of_directories hdirectory hfollow, ih h⟩

/-- A path leads to the same place where there are the same directories and others besides. -/
theorem locate_of_directories (hworking : d'.workingDirectory = d.workingDirectory)
    (h : d.locate path = .ok q) : d'.locate path = .ok q := by
  rw [locate_eq_ok_iff, startOf] at h ⊢
  rw [hworking]
  exact ⟨h.1, foldlM_of_directories hdirectory h.2⟩

end Locate

theorem Grows.locate (h : Grows own d d') (hlocate : d.locate path = .ok q) :
    d'.locate path = .ok q :=
  locate_of_directories h.directory h.workingDirectory hlocate

/-- The name that a path ends with is the last on the way to its place. -/
theorem exists_place_concat {c : Char} (hpath : path.toList.getLast? = some c) (hslash : c ≠ '/')
    (hdot : c ≠ '.') (h : d.locate path = .ok q) :
    ∃ before last, q = before ++ [last] ∧ last.toList.getLast? = some c := by
  obtain ⟨before, last, hparts, hlast⟩ := Path.exists_parts_concat hpath hslash
  have hname : ∀ dots : String, dots.toList.getLast? = some '.' → last ≠ dots := by
    rintro _ hdots rfl
    exact hdot (Option.some.inj (hlast.symm.trans hdots))
  have h := (locate_eq_ok_iff.1 h).2
  rw [hparts, List.foldlM_append] at h
  obtain ⟨place, -, h⟩ := bind_eq_ok_iff.1 h
  rw [List.foldlM_cons] at h
  obtain ⟨_, hfollow, ⟨⟩⟩ := bind_eq_ok_iff.1 h
  exact ⟨place, last, eq_of_follow hfollow (hname "." (by decide)) (hname ".." (by decide)), hlast⟩

theorem read_of_locate (h : d.locate path = .ok q) : d.read path = match d.node? q with
    | none => .error .notFound
    | some .directory => .error .isDirectory
    | some (.file content) =>
      if Path.endsInSlash path then .error .notDirectory else .ok content := by
  rw [read, h]
  rfl

theorem read_of_locate_error {fault : FileFault} (h : d.locate path = .error fault) :
    d.read path = .error fault := by
  rw [read, h]
  rfl

theorem read_eq_ok_iff : d.read path = .ok content ↔ ∃ q, d.locate path = .ok q ∧
    d.node? q = some (.file content) ∧ Path.endsInSlash path = false := by
  cases hlocate : d.locate path with
  | error fault =>
    rw [read_of_locate_error hlocate]
    exact iff_of_false nofun fun ⟨_, h, _⟩ => nomatch h
  | ok q =>
    rw [read_of_locate hlocate]
    constructor
    · intro h
      split at h
      · cases h
      · cases h
      · rename_i hnode
        split at h
        · cases h
        · rename_i hslash
          cases h
          exact ⟨q, rfl, hnode, Bool.eq_false_iff.2 hslash⟩
    · rintro ⟨_, ⟨⟩, hnode, hslash⟩
      rw [hnode]
      dsimp only
      rw [hslash]
      rfl

/-- **A file is read as before**, if it is not one of those that may change. -/
theorem Grows.read (h : Grows own d d') (hread : d.read path = .ok content)
    (hown : ∀ q, d.locate path = .ok q → q ∉ own) : d'.read path = .ok content := by
  obtain ⟨q, hlocate, hnode, hslash⟩ := read_eq_ok_iff.1 hread
  exact read_eq_ok_iff.2 ⟨q, h.locate hlocate, h.kept q (hown q hlocate) _ hnode, hslash⟩

/-! ## 4. Making directories -/

open MotionTutor.Action (outcome)

/-- The path leads to a directory. -/
def HasDirectory (d : Disk) (path : String) : Prop :=
  ∃ q, d.locate path = .ok q ∧ d.node? q = some .directory

theorem HasDirectory.grows (h : d.HasDirectory path) (hgrows : Grows own d d') :
    d'.HasDirectory path := by
  obtain ⟨q, hlocate, hnode⟩ := h
  exact ⟨q, hgrows.locate hlocate, hgrows.directory q hnode⟩

theorem outcome_change (f : Disk → Except FileFault Disk) (d : Disk) :
    outcome (change f) d = match f d with
      | .ok d' => (.ok (), d')
      | .error fault => (.error fault, d) := by
  have hget : outcome (get : Action Disk Disk) d = (.ok d, d) := rfl
  rw [change, Action.outcome_bind_ok hget]
  cases f d <;> rfl

theorem follow_ne_isDirectory (d : Disk) (place : List String) (part : String) :
    d.follow place part ≠ .error .isDirectory := by
  unfold follow
  split
  · nofun
  · nofun
  · split
    · nofun
    · split
      · nofun
      · split <;> nofun

theorem foldlM_ne_isDirectory (d : Disk) (parts : List String) (place : List String) :
    parts.foldlM d.follow place ≠ .error .isDirectory := by
  induction parts generalizing place with
  | nil => nofun
  | cons part parts ih =>
    intro h
    rw [List.foldlM_cons] at h
    cases hnext : d.follow place part with
    | error fault =>
      rw [hnext] at h
      cases h
      exact follow_ne_isDirectory d place part hnext
    | ok next =>
      rw [hnext] at h
      exact ih next h

/-- Following a path fails for other reasons than that it leads to a directory. -/
theorem locate_ne_isDirectory (d : Disk) (path : String) : d.locate path ≠ .error .isDirectory := by
  unfold locate
  split
  · nofun
  · split
    · nofun
    · split
      · nofun
      · exact foldlM_ne_isDirectory d _ _

theorem read_eq_isDirectory_iff : d.read path = .error .isDirectory ↔ d.HasDirectory path := by
  unfold HasDirectory
  cases hlocate : d.locate path with
  | error fault =>
    rw [read_of_locate_error hlocate]
    refine iff_of_false ?_ fun ⟨_, h, _⟩ => nomatch h
    intro h
    cases h
    exact locate_ne_isDirectory d path hlocate
  | ok q =>
    rw [read_of_locate hlocate]
    constructor
    · intro h
      split at h
      · cases h
      · rename_i hnode
        exact ⟨q, rfl, hnode⟩
      · split at h <;> cases h
    · rintro ⟨_, ⟨⟩, hnode⟩
      rw [hnode]

theorem outcome_readText (d : Disk) (path : String) :
    outcome (FileSystem.readText path : Action Disk String) d = (d.read path, d) := by
  have hget : outcome (get : Action Disk Disk) d = (.ok d, d) := rfl
  simp only [FileSystem.readText, Action.outcome_bind_ok hget]
  cases d.read path <;> rfl

theorem isDirectory_run (d : Disk) (path : String) : ∃ there : Bool,
    (FileSystem.isDirectory path : StateM Disk Bool).run d = (there, d) ∧
      (there = true ↔ d.HasDirectory path) := by
  have hread : ((FileSystem.readText path : Action Disk String).run).run d = (d.read path, d) :=
    outcome_readText d path
  rw [FileSystem.isDirectory, StateT.run_bind, hread, ← read_eq_isDirectory_iff]
  cases d.read path with
  | ok content => exact ⟨false, rfl, iff_of_false nofun nofun⟩
  | error fault =>
    cases fault
    case isDirectory => exact ⟨true, rfl, iff_of_true rfl rfl⟩
    all_goals exact ⟨false, rfl, iff_of_false nofun nofun⟩

theorem createDirectory_of_locate (h : d.locate path = .ok q) : d.createDirectory path =
    if (d.node? q).isSome then .error .alreadyExists else .ok (d.put q .directory) := by
  rw [createDirectory, h]
  rfl

/-- A directory is made where nothing stood. -/
theorem createDirectory_ok (h : d.createDirectory path = .ok d') :
    Grows [] d d' ∧ d'.HasDirectory path := by
  obtain ⟨q, hlocate, hmade⟩ := bind_eq_ok_iff.1 h
  split at hmade
  · cases hmade
  · rename_i hfree
    cases hmade
    have hnone : d.node? q = none := by simpa using hfree
    have hgrows := grows_put_directory hnone
    refine ⟨hgrows, q, hgrows.locate hlocate, node?_put_self ?_ _⟩
    rw [hnone]
    nofun

theorem outcome_createDirectory (d : Disk) (path : String) :
    outcome (FileSystem.createDirectory path : Action Disk Unit) d =
      match d.createDirectory path with
      | .ok d' => (.ok (), d')
      | .error fault => (.error fault, d) :=
  outcome_change (fun d => d.createDirectory path) d

/-- Where a directory is there already, it is as good as made. -/
theorem ensureDirectory_of_hasDirectory (h : d.HasDirectory path) :
    outcome (FileSystem.ensureDirectory path : Action Disk Unit) d = (.ok (), d) := by
  obtain ⟨there, hthere, hiff⟩ := isDirectory_run d path
  have hcreate := outcome_createDirectory d path
  obtain ⟨q, hlocate, hnode⟩ := id h
  have htaken : (d.node? q).isSome = true := by
    rw [hnode]
    rfl
  rw [createDirectory_of_locate hlocate, if_pos htaken] at hcreate
  rw [Action.outcome_ensureDirectory_error hcreate hthere, if_pos ⟨rfl, hiff.2 h⟩]

/-- A directory is made where there is nothing, or nothing changes. -/
theorem ensureDirectory_cases (d : Disk) (path : String) :
    (∃ d', outcome (FileSystem.ensureDirectory path : Action Disk Unit) d = (.ok (), d') ∧
        Grows [] d d' ∧ d'.HasDirectory path) ∨
      ∃ fault, outcome (FileSystem.ensureDirectory path : Action Disk Unit) d =
        (.error fault, d) := by
  have hcreate := outcome_createDirectory d path
  obtain ⟨there, hthere, hiff⟩ := isDirectory_run d path
  cases hmade : d.createDirectory path with
  | ok d' =>
    rw [hmade] at hcreate
    exact .inl ⟨d', Action.outcome_tryCatch_ok hcreate, createDirectory_ok hmade⟩
  | error fault =>
    rw [hmade] at hcreate
    have hensure := Action.outcome_ensureDirectory_error hcreate hthere
    by_cases hdone : fault = .alreadyExists ∧ there = true
    · rw [if_pos hdone] at hensure
      exact .inl ⟨d, hensure, .refl [] d, hiff.1 hdone.2⟩
    · rw [if_neg hdone] at hensure
      exact .inr ⟨fault, hensure⟩

theorem ensureWithin_ok {places : List String} {d d' : Disk}
    (h : outcome (FileSystem.ensureWithin places : Action Disk Unit) d = (.ok (), d')) :
    Grows [] d d' ∧ ∀ path ∈ places.head?, d'.HasDirectory path := by
  induction places generalizing d d' with
  | nil =>
    cases h
    exact ⟨.refl [] d, nofun⟩
  | cons path outer ih =>
    rw [FileSystem.ensureWithin] at h
    rcases ensureDirectory_cases d path with ⟨d₁, hensure, hgrows, hdirectory⟩ | ⟨fault, hensure⟩
    · rw [Action.outcome_tryCatch_ok hensure] at h
      cases h
      refine ⟨hgrows, ?_⟩
      rintro _ ⟨⟩
      exact hdirectory
    · rw [Action.outcome_tryCatch_error hensure] at h
      by_cases hmissing : fault = .notFound
      · subst hmissing
        obtain ⟨_, d₁, houter, hlast⟩ := Action.outcome_bind_eq_ok h
        obtain ⟨hgrows, -⟩ := ih houter
        rcases ensureDirectory_cases d₁ path with
          ⟨d₂, hensure, hgrows', hdirectory⟩ | ⟨fault, hensure⟩
        · cases hensure.symm.trans hlast
          refine ⟨hgrows.trans hgrows', ?_⟩
          rintro _ ⟨⟩
          exact hdirectory
        · cases hensure.symm.trans hlast
      · cases fault <;> first | exact absurd rfl hmissing | cases h

/-- The directory that a file of this path lies in is there. -/
def HoldsParent (d : Disk) (path : String) : Prop :=
  ∀ parent ∈ Path.parent? path, ∀ directory ∈ (Path.ancestors parent).head?,
    d.HasDirectory directory

theorem HoldsParent.grows (h : d.HoldsParent path) (hgrows : Grows own d d') :
    d'.HoldsParent path :=
  fun parent hparent directory hdirectory => (h parent hparent directory hdirectory).grows hgrows

theorem createParent_ok
    (h : outcome (FileSystem.createParent path : Action Disk Unit) d = (.ok (), d')) :
    Grows [] d d' ∧ d'.HoldsParent path := by
  unfold FileSystem.createParent at h
  cases hparent : Path.parent? path with
  | none =>
    rw [hparent] at h
    cases h
    refine ⟨.refl [] d, ?_⟩
    rw [HoldsParent, hparent]
    nofun
  | some parent =>
    rw [hparent] at h
    obtain ⟨hgrows, hdirectory⟩ := ensureWithin_ok h
    refine ⟨hgrows, ?_⟩
    rw [HoldsParent, hparent]
    rintro _ ⟨⟩
    exact hdirectory

/-- Where the directory is there, nothing is made. -/
theorem createParent_of_holdsParent (h : d.HoldsParent path) :
    outcome (FileSystem.createParent path : Action Disk Unit) d = (.ok (), d) := by
  unfold FileSystem.createParent
  cases hparent : Path.parent? path with
  | none => rfl
  | some parent =>
    have hdirectory := h parent hparent
    show outcome (FileSystem.ensureWithin (Path.ancestors parent) : Action Disk Unit) d = _
    cases hway : Path.ancestors parent with
    | nil => rfl
    | cons directory outer =>
      rw [hway] at hdirectory
      rw [FileSystem.ensureWithin]
      exact Action.outcome_tryCatch_ok
        (ensureDirectory_of_hasDirectory (hdirectory directory rfl))

end MotionTutor.Disk
