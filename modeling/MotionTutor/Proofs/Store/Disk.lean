import MotionTutor.Proofs.Files.Disk
import MotionTutor.Proofs.Files.Path
import MotionTutor.Store

/-!
# Saving on a disk

Once a profile was saved on a disk, every other can be saved too, and after any changes that only
add directories or concern the files of the store (`Disk.ready_of_save`, `Disk.save_of_ready`). What
was saved last is what is read (`Disk.load_run_of_ready`).
-/

namespace MotionTutor.Disk

open MotionTutor.Action (outcome)

variable {s : Store} {d d' : Disk} {q q' : List String} {own : List (List String)}

/-- The record and the draft of a store can be written: their directory is there, and the places
that their paths lead to are free or hold files. -/
structure Ready (s : Store) (q q' : List String) (d : Disk) : Prop where
  parent : d.HoldsParent s.path
  path : d.locate s.path = .ok q
  draft : d.locate s.draftPath = .ok q'
  path_free : d.node? q ≠ some .directory
  draft_free : d.node? q' ≠ some .directory

/-! ## 1. Writing and renaming -/

theorem getLast?_path (s : Store) : s.path.toList.getLast? = some 'n' :=
  Path.getLast?_join s.directory (by decide)

theorem getLast?_draftPath (s : Store) : s.draftPath.toList.getLast? = some 'p' :=
  Path.getLast?_join s.directory (by decide)

theorem endsInSlash_path (s : Store) : Path.endsInSlash s.path = false := by
  rw [Path.endsInSlash, getLast?_path]
  rfl

theorem endsInSlash_draftPath (s : Store) : Path.endsInSlash s.draftPath = false := by
  rw [Path.endsInSlash, getLast?_draftPath]
  rfl

theorem outcome_writeText (d : Disk) (path content : String) :
    outcome (FileSystem.writeText path content : Action Disk Unit) d =
      match d.write path content with
      | .ok d' => (.ok (), d')
      | .error fault => (.error fault, d) :=
  outcome_change (fun d => d.write path content) d

theorem outcome_rename (d : Disk) (source target : String) :
    outcome (FileSystem.rename source target : Action Disk Unit) d =
      match d.rename source target with
      | .ok d' => (.ok (), d')
      | .error fault => (.error fault, d) :=
  outcome_change (fun d => d.rename source target) d

theorem write_of_locate {path : String} (h : d.locate path = .ok q) (content : String) :
    d.write path content = if d.node? q = some .directory ∨ Path.endsInSlash path then
      .error .isDirectory else .ok (d.put q (.file content)) := by
  rw [write, h]
  rfl

theorem rename_of_locate {source target : String} (hsource : d.locate source = .ok q')
    (htarget : d.locate target = .ok q) : d.rename source target = match d.node? q' with
      | none => .error .notFound
      | some .directory => .error .other
      | some (.file content) => if d.node? q = some .directory then .error .isDirectory
        else .ok ((d.clear q').put q (.file content)) := by
  rw [rename, hsource, htarget]
  rfl

theorem exists_locate_of_write {path content : String} (h : d.write path content = .ok d') :
    ∃ q, d.locate path = .ok q ∧ d.node? q ≠ some .directory ∧ d' = d.put q (.file content) := by
  obtain ⟨q, hlocate, h⟩ := bind_eq_ok_iff.1 h
  split at h
  · cases h
  · rename_i hfree
    cases h
    exact ⟨q, hlocate, fun hnode => hfree (.inl hnode), rfl⟩

theorem exists_locate_of_rename {source target : String} (h : d.rename source target = .ok d') :
    ∃ q, d.locate target = .ok q ∧ d.node? q ≠ some .directory := by
  obtain ⟨here, -, h⟩ := bind_eq_ok_iff.1 h
  obtain ⟨there, htarget, h⟩ := bind_eq_ok_iff.1 h
  split at h
  · cases h
  · cases h
  · split at h
    · cases h
    · rename_i hfree
      exact ⟨there, htarget, hfree⟩

/-- A file that is written makes no place a directory. -/
theorem node?_of_put_file {place : List String} {content : String}
    (h : (d.put place (.file content)).node? q = some .directory) :
    d.node? q = some .directory := by
  rw [node?_put] at h
  split at h
  · rename_i hroot
    rw [hroot]
    rfl
  · split at h
    · cases h
    · exact h

theorem node?_of_clear {place : List String} (h : (d.clear place).node? q = some .directory) :
    d.node? q = some .directory := by
  rw [node?_clear] at h
  split at h
  · rename_i hroot
    rw [hroot]
    rfl
  · split at h
    · cases h
    · exact h

/-! ## 2. Saving -/

/-- **Where a profile was saved, the store was ready** once its directory was made. -/
theorem ready_of_save {p : Profile} (h : outcome (s.save p) d = (.ok (), d')) :
    ∃ d₁ q q', outcome (FileSystem.createParent s.path : Action Disk Unit) d = (.ok (), d₁) ∧
      Grows [] d d₁ ∧ d₁.Ready s q q' := by
  unfold Store.save at h
  obtain ⟨_, d₁, hmade, h⟩ := Action.outcome_bind_eq_ok h
  obtain ⟨_, d₂, hwrite, hrename⟩ := Action.outcome_bind_eq_ok h
  obtain ⟨hgrows, hparent⟩ := createParent_ok hmade
  rw [outcome_writeText] at hwrite
  rw [outcome_rename] at hrename
  cases hwritten : d₁.write s.draftPath p.render with
  | error fault =>
    rw [hwritten] at hwrite
    cases hwrite
  | ok d₂' =>
    rw [hwritten] at hwrite
    cases hwrite
    obtain ⟨q', hdraft, hdraftfree, rfl⟩ := exists_locate_of_write hwritten
    cases hrenamed : (d₁.put q' (.file p.render)).rename s.draftPath s.path with
    | error fault =>
      rw [hrenamed] at hrename
      cases hrename
    | ok d₃ =>
      obtain ⟨q, hpath, hpathfree⟩ := exists_locate_of_rename hrenamed
      -- the draft makes no place a directory, so the path led to its place before
      have hlocate : d₁.locate s.path = .ok q :=
        locate_of_directories (fun _ => node?_of_put_file) rfl hpath
      have hfree : d₁.node? q ≠ some .directory := fun hnode =>
        hpathfree ((grows_put_file hdraftfree p.render).directory q hnode)
      exact ⟨d₁, q, q', hmade, hgrows, hparent, hlocate, hdraft, hfree, hdraftfree⟩

/-- **Every profile can be saved where the store is ready**, and it is ready again then. -/
theorem save_of_ready {d₁ : Disk}
    (hmade : outcome (FileSystem.createParent s.path : Action Disk Unit) d = (.ok (), d₁))
    (h : d₁.Ready s q q') (p : Profile) : ∃ d', outcome (s.save p) d = (.ok (), d') ∧
      Grows [q, q'] d₁ d' ∧ d'.Ready s q q' ∧ d'.node? q = some (.file p.render) := by
  obtain ⟨hparent, hpath, hdraft, hpathfree, hdraftfree⟩ := h
  have hdraftgrows := grows_put_file hdraftfree p.render
  have hdraftnode := node?_put_self hdraftfree (.file p.render)
  have hfree : (d₁.put q' (.file p.render)).node? q ≠ some .directory :=
    fun hnode => hpathfree (node?_of_put_file hnode)
  have hwrite := outcome_writeText d₁ s.draftPath p.render
  rw [write_of_locate hdraft, endsInSlash_draftPath, if_neg (by simpa using hdraftfree)] at hwrite
  have hrename := outcome_rename (d₁.put q' (.file p.render)) s.draftPath s.path
  rw [rename_of_locate (hdraftgrows.locate hdraft) (hdraftgrows.locate hpath),
    hdraftnode] at hrename
  dsimp only at hrename
  rw [if_neg hfree] at hrename
  generalize d₁.put q' (.file p.render) = d₂ at *
  have hisfile : d₂.node? q' ≠ some .directory := by
    rw [hdraftnode]
    nofun
  have hclearfree : (d₂.clear q').node? q ≠ some .directory :=
    fun hnode => hfree (node?_of_clear hnode)
  have hgrows : Grows [q, q'] d₁ ((d₂.clear q').put q (.file p.render)) :=
    (hdraftgrows.mono (List.subset_cons_self _ _)).trans
      (((grows_clear hisfile).mono (List.subset_cons_self _ _)).trans
        ((grows_put_file hclearfree p.render).mono (List.cons_subset_cons _ (List.nil_subset _))))
  have hnode := node?_put_self hclearfree (.file p.render)
  refine ⟨_, ?_, hgrows, ⟨hparent.grows hgrows, hgrows.locate hpath, hgrows.locate hdraft, ?_, ?_⟩,
    hnode⟩
  · rw [Store.save, Action.outcome_bind_ok hmade, Action.outcome_bind_ok hwrite, hrename]
  · rw [hnode]
    nofun
  · exact fun hdirectory => hisfile (node?_of_clear (node?_of_put_file hdirectory))

/-! ## 3. Loading -/

/-- Loading reads the record and changes nothing. -/
theorem load_run (s : Store) (d : Disk) : (s.load : StateM Disk (Option Profile)).run d =
    (match d.read s.path with
    | .ok document => Profile.parse? document
    | .error _ => none, d) := by
  have hread : ((FileSystem.readText s.path : Action Disk String).run).run d =
      (d.read s.path, d) := outcome_readText d s.path
  rw [Store.load, StateT.run_bind, hread]
  cases d.read s.path <;> rfl

/-- **What was saved is loaded.** -/
theorem load_run_of_ready (h : d.Ready s q q') {document : String}
    (hnode : d.node? q = some (.file document)) :
    (s.load : StateM Disk (Option Profile)).run d = (Profile.parse? document, d) := by
  rw [load_run, read_eq_ok_iff.2 ⟨q, h.path, hnode, endsInSlash_path s⟩]

/-- Nothing is loaded where nothing stands at the place of the record. -/
theorem load_run_of_grows {d₁ : Disk} (hgrows : Grows own d d₁) (hpath : d₁.locate s.path = .ok q)
    (hnode : d.node? q = none) :
    (s.load : StateM Disk (Option Profile)).run d = (none, d) := by
  rw [load_run]
  cases hread : d.read s.path with
  | error fault => rfl
  | ok document =>
    obtain ⟨place, hlocate, hfile, -⟩ := read_eq_ok_iff.1 hread
    cases hpath.symm.trans (hgrows.locate hlocate)
    cases hnode.symm.trans hfile

end MotionTutor.Disk
