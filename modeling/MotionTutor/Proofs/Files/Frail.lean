import Mathlib.Logic.Function.Basic
import MotionTutor.Files.Disk
import MotionTutor.Proofs.Files.Action

/-!
# A file system on which operations go wrong

A frail disk holds files and directories, each under one path. An operation takes full effect, or it
is refused because of what is there, or a mishap meets it (`Mishap`). A mishap changes nothing,
except that one that meets a write may leave anything at the path that was to be written
(`FrailDisk.write`). Reading does not go wrong. A mishap may report any fault; that a removal does
not call a file missing which is there (`FrailDisk.ReportsMissing`) is for the user of the disk to
assume.

Whatever happens, an operation touches no path but its own; so making a directory and those on the
way to it makes directories where nothing was, and does nothing else
(`FrailDisk.touches_createParent`).
-/

namespace MotionTutor

/-! ## 1. Operations that go wrong -/

/-- What meets an operation. -/
structure Mishap where
  fault : FileFault
  /-- What a write leaves at its path. -/
  debris : Option Node

structure FrailDisk where
  /-- What is under a path. -/
  node? : String → Option Node
  /-- What meets the operations to come, one by one; those behind the last meet nothing. -/
  ahead : List (Option Mishap)

namespace FrailDisk

/-- What comes of an operation that changes a disk. -/
abbrev Outcome := Except FileFault Unit × FrailDisk

variable (d : FrailDisk)

/-- What meets the next operation. -/
def mishap? : Option Mishap := d.ahead.head?.join

/-- The disk behind an operation that left this under the paths. -/
def behind (node? : String → Option Node) : FrailDisk := ⟨node?, d.ahead.tail⟩

/-- The operation failed and changed nothing. -/
def refused (fault : FileFault) : Outcome := (.error fault, d.behind d.node?)

def write (path content : String) : Outcome :=
  match d.mishap? with
  | some mishap => (.error mishap.fault, d.behind (Function.update d.node? path mishap.debris))
  | none =>
    if d.node? path = some .directory then d.refused .isDirectory
    else (.ok (), d.behind (Function.update d.node? path (some (.file content))))

/-- Whether a directory is there to make another one at the path. -/
def holdsParent (path : String) : Bool :=
  match Path.parent? path with
  | none => false
  | some parent => Path.names parent = [] || d.node? parent = some .directory

def createDirectory (path : String) : Outcome :=
  match d.mishap? with
  | some mishap => d.refused mishap.fault
  | none =>
    if (d.node? path).isSome then d.refused .alreadyExists
    else if d.holdsParent path then
      (.ok (), d.behind (Function.update d.node? path (some .directory)))
    else d.refused .notFound

/-- The target is replaced at once. -/
def rename (source target : String) : Outcome :=
  match d.mishap? with
  | some mishap => d.refused mishap.fault
  | none =>
    match d.node? source with
    | none => d.refused .notFound
    | some .directory => d.refused .other
    | some (.file content) =>
      if d.node? target = some .directory then d.refused .isDirectory
      else
        (.ok (), d.behind
          (Function.update (Function.update d.node? source none) target (some (.file content))))

def removeFile (path : String) : Outcome :=
  match d.mishap? with
  | some mishap => d.refused mishap.fault
  | none =>
    match d.node? path with
    | none => d.refused .notFound
    | some .directory => d.refused .isDirectory
    | some (.file _) => (.ok (), d.behind (Function.update d.node? path none))

/-- A removal that fails, for whatever reason, calls a file missing only if it is. -/
def ReportsMissing (path : String) : Prop :=
  (d.removeFile path).1 = .error .notFound → d.node? path = none

def read (path : String) : Except FileFault String :=
  match d.node? path with
  | none => .error .notFound
  | some .directory => .error .isDirectory
  | some (.file content) => .ok content

instance : FileSystem (StateM FrailDisk) where
  readText path := ExceptT.mk fun d => (d.read path, d)
  writeText path content := ExceptT.mk fun d => d.write path content
  createDirectory path := ExceptT.mk fun d => d.createDirectory path
  rename source target := ExceptT.mk fun d => d.rename source target
  removeFile path := ExceptT.mk fun d => d.removeFile path

/-! ## 2. What operations do -/

theorem outcome_writeText (path content : String) :
    Action.outcome (FileSystem.writeText path content) d = d.write path content := rfl

theorem outcome_createDirectory (path : String) :
    Action.outcome (FileSystem.createDirectory path) d = d.createDirectory path := rfl

theorem outcome_rename (source target : String) :
    Action.outcome (FileSystem.rename source target) d = d.rename source target := rfl

theorem outcome_removeFile (path : String) :
    Action.outcome (FileSystem.removeFile path) d = d.removeFile path := rfl

variable {d} {d' d'' : FrailDisk} {path content source target q : String}

theorem write_cases (d : FrailDisk) (path content : String) :
    (∃ fault node, d.write path content =
        (.error fault, d.behind (Function.update d.node? path node))) ∨
      d.write path content =
        (.ok (), d.behind (Function.update d.node? path (some (.file content)))) := by
  unfold write
  split
  · exact .inl ⟨_, _, rfl⟩
  · split
    · refine .inl ⟨.isDirectory, d.node? path, ?_⟩
      rw [Function.update_eq_self]
      rfl
    · exact .inr rfl

theorem createDirectory_cases (d : FrailDisk) (path : String) :
    (∃ fault, d.createDirectory path = d.refused fault) ∨ d.node? path = none ∧
      d.createDirectory path =
        (.ok (), d.behind (Function.update d.node? path (some .directory))) := by
  unfold createDirectory
  split
  · exact .inl ⟨_, rfl⟩
  · split
    · exact .inl ⟨_, rfl⟩
    · rename_i hthere
      split
      · exact .inr ⟨Option.not_isSome_iff_eq_none.1 hthere, rfl⟩
      · exact .inl ⟨_, rfl⟩

theorem rename_cases (d : FrailDisk) (source target : String) :
    (∃ fault, d.rename source target = d.refused fault) ∨
      ∃ content, d.node? source = some (.file content) ∧ d.rename source target =
        (.ok (), d.behind (Function.update (Function.update d.node? source none) target
          (some (.file content)))) := by
  unfold rename
  split
  · exact .inl ⟨_, rfl⟩
  · split
    · exact .inl ⟨_, rfl⟩
    · exact .inl ⟨_, rfl⟩
    · rename_i content hsource
      split
      · exact .inl ⟨_, rfl⟩
      · exact .inr ⟨content, hsource, rfl⟩

theorem removeFile_cases (d : FrailDisk) (path : String) :
    (∃ fault, d.removeFile path = d.refused fault) ∨
      d.removeFile path = (.ok (), d.behind (Function.update d.node? path none)) := by
  unfold removeFile
  split
  · exact .inl ⟨_, rfl⟩
  · split
    · exact .inl ⟨_, rfl⟩
    · exact .inl ⟨_, rfl⟩
    · exact .inr rfl

/-! ## 3. What operations touch -/

/-- From one disk to the other nothing changed but these paths of its own, and directories that were
made in some places where nothing was. -/
def Touches (own places : List String) (d d' : FrailDisk) : Prop :=
  ∀ q, q ∉ own → d'.node? q = d.node? q ∨
    q ∈ places ∧ d.node? q = none ∧ d'.node? q = some .directory

variable {own places : List String}

theorem Touches.refl (own places : List String) (d : FrailDisk) : Touches own places d d :=
  fun _ _ => .inl rfl

/-- A directory that was made is there for the next operation, so what was missing before the second
of two operations was missing before the first. -/
theorem Touches.trans (h : Touches own places d d') (h' : Touches own places d' d'') :
    Touches own places d d'' := by
  intro q hown
  rcases h' q hown with hsame' | ⟨hq, hnone', hdirectory⟩
  · rw [hsame']
    exact h q hown
  · rcases h q hown with hsame | ⟨-, -, hthere⟩
    · exact .inr ⟨hq, hsame ▸ hnone', hdirectory⟩
    · rw [hthere] at hnone'
      cases hnone'

theorem Touches.mono {own' places' : List String} (h : Touches own places d d')
    (hown : own ⊆ own') (hplaces : places ⊆ places') : Touches own' places' d d' := fun q hq =>
  (h q fun hmem => hq (hown hmem)).imp_right fun ⟨hmem, hmade⟩ => ⟨hplaces hmem, hmade⟩

theorem Touches.node?_eq (h : Touches own places d d') (hown : q ∉ own) (hplaces : q ∉ places) :
    d'.node? q = d.node? q := (h q hown).resolve_right fun ⟨hmem, _⟩ => hplaces hmem

theorem touches_update (d : FrailDisk) (path : String) (node : Option Node) :
    Touches [path] [] d (d.behind (Function.update d.node? path node)) := fun _ hown =>
  .inl (Function.update_of_ne (List.ne_of_not_mem_cons hown) _ _)

theorem touches_refused (d : FrailDisk) (fault : FileFault) :
    Touches [] [] d (d.refused fault).2 := fun _ _ => .inl rfl

theorem touches_rename (d : FrailDisk) (source target : String) :
    Touches [target, source] [] d (d.rename source target).2 := by
  rcases d.rename_cases source target with ⟨fault, h⟩ | ⟨content, -, h⟩
  · rw [h]
    exact (touches_refused d fault).mono (List.nil_subset _) (List.Subset.refl [])
  · rw [h]
    intro q hown
    have htarget : q ≠ target := List.ne_of_not_mem_cons hown
    have hsource : q ≠ source := List.ne_of_not_mem_cons (List.not_mem_of_not_mem_cons hown)
    exact .inl ((Function.update_of_ne htarget _ _).trans (Function.update_of_ne hsource _ _))

/-! ## 4. Directories on the way -/

theorem isDirectory_run (d : FrailDisk) (path : String) :
    (FileSystem.isDirectory path : StateM FrailDisk Bool).run d =
      (decide (d.node? path = some .directory), d) := by
  have hread : (FileSystem.readText path : Action FrailDisk String).run.run d =
      (d.read path, d) := rfl
  rw [FileSystem.isDirectory, StateT.run_bind, hread, read]
  cases d.node? path with
  | none => rfl
  | some node =>
    cases node with
    | file content => rfl
    | directory => rfl

theorem touches_createDirectory (d : FrailDisk) (path : String) :
    Touches [] [path] d (d.createDirectory path).2 := by
  rcases d.createDirectory_cases path with ⟨fault, h⟩ | ⟨hnone, h⟩
  · rw [h]
    exact (touches_refused d fault).mono (List.Subset.refl []) (List.nil_subset _)
  · rw [h]
    intro q _
    by_cases hq : q = path
    · subst hq
      exact .inr ⟨List.mem_singleton_self q, hnone, Function.update_self _ _ _⟩
    · exact .inl (Function.update_of_ne hq _ _)

theorem touches_ensureDirectory (d : FrailDisk) (path : String) :
    Touches [] [path] d (Action.outcome (FileSystem.ensureDirectory path) d).2 := by
  have htouches := touches_createDirectory d path
  have hcreate := d.outcome_createDirectory path
  generalize d.createDirectory path = outcome at hcreate htouches
  obtain ⟨result, d'⟩ := outcome
  cases result with
  | ok =>
    rw [FileSystem.ensureDirectory, Action.outcome_tryCatch_ok hcreate]
    exact htouches
  | error fault =>
    rw [Action.outcome_ensureDirectory_error hcreate (isDirectory_run d' path)]
    exact htouches

theorem touches_ensureWithin (d : FrailDisk) (places : List String) :
    Touches [] places d (Action.outcome (FileSystem.ensureWithin places) d).2 := by
  induction places generalizing d with
  | nil => exact Touches.refl [] [] d
  | cons path outer ih =>
    have hsub : [path] ⊆ path :: outer :=
      List.cons_subset.2 ⟨List.mem_cons_self, List.nil_subset _⟩
    have hfirst := (touches_ensureDirectory d path).mono (List.Subset.refl []) hsub
    generalize htry : Action.outcome (FileSystem.ensureDirectory path) d = outcome at hfirst
    obtain ⟨result, d'⟩ := outcome
    rw [FileSystem.ensureWithin]
    cases result with
    | ok =>
      rw [Action.outcome_tryCatch_ok htry]
      exact hfirst
    | error fault =>
      rw [Action.outcome_tryCatch_error htry]
      split
      · refine hfirst.trans ?_
        have houter := (ih d').mono (List.Subset.refl []) (List.subset_cons_self path outer)
        generalize hrest : Action.outcome (FileSystem.ensureWithin outer) d' = outcome at houter
        obtain ⟨result, d''⟩ := outcome
        cases result with
        | ok =>
          rw [Action.outcome_bind_ok hrest]
          exact houter.trans
            ((touches_ensureDirectory d'' path).mono (List.Subset.refl []) hsub)
        | error fault =>
          rw [Action.outcome_bind_error hrest]
          exact houter
      · exact hfirst

/-- The directories that lead to a file. -/
def placesTowards (path : String) : List String := (Path.parent? path).elim [] Path.ancestors

/-- **Making the directory of a file makes directories on the way to it**, where nothing was, and
changes nothing else, whether it succeeds or not. -/
theorem touches_createParent (d : FrailDisk) (path : String) :
    Touches [] (placesTowards path) d (Action.outcome (FileSystem.createParent path) d).2 := by
  unfold FileSystem.createParent placesTowards
  cases Path.parent? path with
  | none => exact Touches.refl [] [] d
  | some directory => exact touches_ensureWithin d (Path.ancestors directory)

end FrailDisk

end MotionTutor
