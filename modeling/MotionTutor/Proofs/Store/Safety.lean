import MotionTutor.Proofs.Files.Frail
import MotionTutor.Proofs.Files.Path
import MotionTutor.Proofs.Stats.Record
import MotionTutor.Store

/-!
# A store never loses its record to a failed save

On a file system on which operations go wrong, a save that fails leaves the record as it was
(`Store.save_cases`), whatever step of it failed and whatever is left of a draft. So after any calls
the record is that of the last save or reset that succeeded, or still the first one
(`Store.keeps_record`).

The draft and the directories on the way lie under other paths than the record: the draft has
another name, and a directory on the way has fewer names.
-/

namespace MotionTutor

open FrailDisk (Touches placesTowards)

namespace Store

variable {s : Store} {d d' : FrailDisk} {p : Profile}

/-! ## 1. The paths of a store -/

variable (s)

theorem names_path : Path.names s.path = Path.names s.directory ++ ["stats.json"] :=
  Path.names_join (by decide)

theorem names_draftPath : Path.names s.draftPath = Path.names s.directory ++ ["stats.json.tmp"] :=
  Path.names_join (by decide)

theorem path_ne_draftPath : s.path ≠ s.draftPath := by
  intro h
  have hnames := (names_path s).symm.trans ((congrArg Path.names h).trans (names_draftPath s))
  exact absurd (List.append_cancel_left hnames) (by decide)

theorem path_not_mem_places : s.path ∉ placesTowards s.path := by
  intro hmem
  have hparent : Path.parent? s.path =
      some (Path.ofParts (Path.isAbsolute s.directory) (Path.names s.directory)) :=
    Path.parent?_join (by decide) (show Path.names "stats.json" = ["stats.json"] by decide)
  rw [placesTowards, hparent] at hmem
  have hlength := Path.length_names_le hmem
  rw [names_path, Path.names_ofParts _ fun name => Path.isPart_of_mem_names, List.length_append]
    at hlength
  exact Nat.not_succ_le_self _ hlength

/-! ## 2. Single calls -/

/-- The record on a disk: none if it is missing or cannot be read as a profile. -/
def recordOn (d : FrailDisk) : Option Profile :=
  match d.node? s.path with
  | some (.file document) => Profile.parse? document
  | _ => none

variable {s}

theorem recordOn_congr (h : d'.node? s.path = d.node? s.path) : s.recordOn d' = s.recordOn d := by
  rw [recordOn, recordOn, h]

variable (s)

/-- Loading gives the record and changes nothing. -/
theorem load_run (d : FrailDisk) :
    (s.load : StateM FrailDisk (Option Profile)).run d = (s.recordOn d, d) := by
  have hread : (FileSystem.readText s.path : Action FrailDisk String).run.run d =
      (d.read s.path, d) := rfl
  rw [load, StateT.run_bind, hread, recordOn, FrailDisk.read]
  cases d.node? s.path with
  | none => rfl
  | some node =>
    cases node with
    | file content => rfl
    | directory => rfl

variable {s}

/-- Making the directory of the record leaves the record alone. -/
theorem Touches.node?_path (h : Touches [s.draftPath] (placesTowards s.path) d d') :
    d'.node? s.path = d.node? s.path :=
  h.node?_eq (fun hmem => s.path_ne_draftPath (List.mem_singleton.1 hmem)) s.path_not_mem_places

variable (s)

/-- Whether it fails or not, writing the draft touches the draft alone. -/
theorem write_draft_cases (content : String) (d : FrailDisk) :
    (∃ fault d', Action.outcome (FileSystem.writeText s.draftPath content) d =
        (.error fault, d') ∧ Touches [s.draftPath] [] d d') ∨
      ∃ d', Action.outcome (FileSystem.writeText s.draftPath content) d = (.ok (), d') ∧
        Touches [s.draftPath] [] d d' ∧ d'.node? s.draftPath = some (.file content) := by
  have hwritten := d.outcome_writeText s.draftPath content
  rcases d.write_cases s.draftPath content with ⟨fault, node, hwrite⟩ | hwrite
  · rw [hwrite] at hwritten
    exact .inl ⟨fault, _, hwritten, d.touches_update s.draftPath node⟩
  · rw [hwrite] at hwritten
    exact .inr ⟨_, hwritten, d.touches_update s.draftPath _, Function.update_self _ _ _⟩

/-- Moving the draft fails without touching anything, or puts it in the place of the record. -/
theorem rename_draft_cases {content : String}
    (hdraft : d.node? s.draftPath = some (.file content)) :
    (∃ fault d', Action.outcome (FileSystem.rename s.draftPath s.path) d = (.error fault, d') ∧
        Touches [] [] d d') ∨
      ∃ d', Action.outcome (FileSystem.rename s.draftPath s.path) d = (.ok (), d') ∧
        Touches [s.path, s.draftPath] [] d d' ∧ d'.node? s.path = some (.file content) := by
  rw [FrailDisk.outcome_rename]
  rcases d.rename_cases s.draftPath s.path with ⟨fault, hrename⟩ | ⟨found, hfound, hrename⟩
  · exact .inl ⟨fault, _, hrename, d.touches_refused fault⟩
  · obtain rfl : content = found := by
      rw [hdraft] at hfound
      cases hfound
      rfl
    have hmoved := d.touches_rename s.draftPath s.path
    rw [hrename] at hmoved
    exact .inr ⟨_, hrename, hmoved, Function.update_self _ _ _⟩

/-- **A save fails without touching the record, or replaces it.** -/
theorem save_cases (p : Profile) (d : FrailDisk) :
    (∃ fault d', Action.outcome (s.save p) d = (.error fault, d') ∧
        Touches [s.draftPath] (placesTowards s.path) d d') ∨
      ∃ d', Action.outcome (s.save p) d = (.ok (), d') ∧
        Touches [s.path, s.draftPath] (placesTowards s.path) d d' ∧
        d'.node? s.path = some (.file p.render) := by
  have hmade := (FrailDisk.touches_createParent d s.path).mono (List.nil_subset [s.draftPath])
    (List.Subset.refl _)
  unfold save
  generalize hparent : Action.outcome (FileSystem.createParent s.path) d = outcome at hmade
  obtain ⟨result, d₁⟩ := outcome
  cases result with
  | error fault => exact .inl ⟨fault, d₁, Action.outcome_bind_error hparent, hmade⟩
  | ok =>
    rw [Action.outcome_bind_ok hparent]
    rcases s.write_draft_cases p.render d₁ with
      ⟨fault, d₂, hwrite, htouches⟩ | ⟨d₂, hwrite, htouches, hdraft⟩
    · refine .inl ⟨fault, d₂, Action.outcome_bind_error hwrite, hmade.trans ?_⟩
      exact htouches.mono (List.Subset.refl _) (List.nil_subset _)
    · rw [Action.outcome_bind_ok hwrite]
      have hdrafted := hmade.trans (htouches.mono (List.Subset.refl _) (List.nil_subset _))
      rcases s.rename_draft_cases hdraft with
        ⟨fault, d₃, hrename, htouches'⟩ | ⟨d₃, hrename, htouches', hnode⟩
      · refine .inl ⟨fault, d₃, hrename, hdrafted.trans ?_⟩
        exact htouches'.mono (List.nil_subset _) (List.nil_subset _)
      · refine .inr ⟨d₃, hrename, ?_, hnode⟩
        exact (hdrafted.mono (List.subset_cons_self _ _) (List.Subset.refl _)).trans
          (htouches'.mono (List.Subset.refl _) (List.nil_subset _))

/-- **Resetting fails without touching anything, or leaves no record.** A record that was not removed
is none that is left, as long as it is not called missing while it is there. -/
theorem reset_cases (d : FrailDisk) :
    (∃ fault d', Action.outcome s.reset d = (.error fault, d') ∧ Touches [] [] d d') ∨
      ∃ d', Action.outcome s.reset d = (.ok (), d') ∧ Touches [s.path] [] d d' ∧
        (d.ReportsMissing s.path → d'.node? s.path = none) := by
  have hremove := d.outcome_removeFile s.path
  unfold reset
  rcases d.removeFile_cases s.path with ⟨fault, h⟩ | h
  · rw [h] at hremove
    have hsame := d.touches_refused fault
    rw [Action.outcome_tryCatch_error hremove]
    split
    · exact .inr ⟨_, rfl, hsame.mono (List.nil_subset _) (List.Subset.refl []),
        fun hmissing => hmissing (congrArg Prod.fst h)⟩
    · exact .inl ⟨_, _, rfl, hsame⟩
  · rw [h] at hremove
    rw [Action.outcome_tryCatch_ok hremove]
    exact .inr ⟨_, rfl, d.touches_update s.path none, fun _ => Function.update_self _ _ _⟩

end Store

/-! ## 3. Calls -/

/-- A call of a store. -/
inductive Store.Call
  | load
  | save (p : Profile)
  | reset

/-- What came of a call. -/
inductive Store.Event
  | loaded (found : Option Profile)
  | saved (p : Profile) (result : Except FileFault Unit)
  | reset (result : Except FileFault Unit)

namespace Store

/-- The record that a call has put in the place of the old one, if it has: what was saved with its
times cut to the second, or none. -/
def Event.record? : Event → Option (Option Profile)
  | .saved p (.ok ()) => some (some p.truncated)
  | .reset (.ok ()) => some none
  | .loaded _ | .saved _ (.error _) | .reset (.error _) => none

def perform (s : Store) : Call → StateM FrailDisk Event
  | .load => .loaded <$> s.load
  | .save p => .saved p <$> (s.save p).run
  | .reset => .reset <$> s.reset.run

/-- The record after some calls, if it was this one before them: that of the last call that has put
one in place. -/
def recordAfter (events : List Event) (first : Option Profile) : Option Profile :=
  (events.filterMap Event.record?).getLast?.getD first

theorem recordAfter_cons (event : Event) (events : List Event) (first : Option Profile) :
    recordAfter (event :: events) first = recordAfter events (event.record?.getD first) := by
  rw [recordAfter, recordAfter, List.filterMap_cons]
  cases event.record? with
  | none => rfl
  | some record => rw [List.getLast?_cons, Option.getD_some, Option.getD_some]

/-- What a profile must satisfy to be read back. -/
structure Keepable (p : Profile) : Prop where
  fits : p.Fits
  hasTexts : p.HasTexts
  accuracies : p.AccuraciesReadBack

variable (s : Store) {d d' : FrailDisk}

/-- Whenever one of the calls is a reset, the removal calls the record missing only if it is. -/
def ReportsMissing : FrailDisk → List Call → Prop
  | _, [] => True
  | d, call :: calls =>
    (call = .reset → d.ReportsMissing s.path) ∧ ReportsMissing ((s.perform call).run d).2 calls

theorem perform_load (d : FrailDisk) :
    (s.perform .load).run d = (.loaded (s.recordOn d), d) := by
  rw [perform, StateT.run_map, load_run]
  rfl

theorem perform_save (p : Profile) (d : FrailDisk) : (s.perform (.save p)).run d =
    (.saved p (Action.outcome (s.save p) d).1, (Action.outcome (s.save p) d).2) := by
  rw [perform, StateT.run_map]
  rfl

theorem perform_reset (d : FrailDisk) : (s.perform .reset).run d =
    (.reset (Action.outcome s.reset d).1, (Action.outcome s.reset d).2) := by
  rw [perform, StateT.run_map]
  rfl

/-- One call leaves the record that it has put in place or the one that was there. -/
theorem recordOn_perform (d : FrailDisk) (call : Call) (h : ∀ p, call = .save p → Keepable p)
    (hmissing : call = .reset → d.ReportsMissing s.path) :
    s.recordOn ((s.perform call).run d).2 =
        ((s.perform call).run d).1.record?.getD (s.recordOn d) ∧
      Touches [s.path, s.draftPath] (placesTowards s.path) d ((s.perform call).run d).2 := by
  cases call with
  | load =>
    rw [perform_load]
    exact ⟨rfl, Touches.refl _ _ d⟩
  | save p =>
    obtain ⟨hfits, htexts, haccuracies⟩ := h p rfl
    rw [perform_save]
    rcases s.save_cases p d with ⟨fault, d', hsave, htouches⟩ | ⟨d', hsave, htouches, hnode⟩
    · rw [hsave]
      exact ⟨recordOn_congr (Touches.node?_path htouches),
        htouches.mono (List.subset_cons_self _ _) (List.Subset.refl _)⟩
    · rw [hsave]
      refine ⟨?_, htouches⟩
      rw [recordOn, hnode]
      exact (Profile.parse?_eq_read? hfits haccuracies).trans (Profile.read?_write hfits htexts)
  | reset =>
    rw [perform_reset]
    rcases s.reset_cases d with ⟨fault, d', hreset, htouches⟩ | ⟨d', hreset, htouches, hnode⟩
    · rw [hreset]
      exact ⟨recordOn_congr (htouches.node?_eq List.not_mem_nil List.not_mem_nil),
        htouches.mono (List.nil_subset _) (List.nil_subset _)⟩
    · rw [hreset]
      refine ⟨?_, htouches.mono ?_ (List.nil_subset _)⟩
      · rw [recordOn, hnode (hmissing rfl)]
        rfl
      · exact List.cons_subset.2 ⟨List.mem_cons_self, List.nil_subset _⟩

/-- What calls of the store that met these events have left of a disk. -/
structure KeepsRecord (d : FrailDisk) (events : List Event) (d' : FrailDisk) : Prop where
  load : (s.load : StateM FrailDisk (Option Profile)).run d' =
    (recordAfter events (s.recordOn d), d')
  touches : Touches [s.path, s.draftPath] (placesTowards s.path) d d'
  /-- Another save that fails would not change what is loaded. -/
  save_failed : ∀ p fault d'', Action.outcome (s.save p) d' = (.error fault, d'') →
    (s.load : StateM FrailDisk (Option Profile)).run d'' =
      (recordAfter events (s.recordOn d), d'')
  /-- Another reset would touch the record alone. -/
  reset : ∀ result d'', Action.outcome s.reset d' = (result, d'') → Touches [s.path] [] d' d''

theorem recordOn_mapM_perform (d : FrailDisk) (calls : List Call)
    (h : ∀ p, Call.save p ∈ calls → Keepable p) (hmissing : s.ReportsMissing d calls) :
    s.recordOn ((calls.mapM s.perform).run d).2 =
        recordAfter ((calls.mapM s.perform).run d).1 (s.recordOn d) ∧
      Touches [s.path, s.draftPath] (placesTowards s.path) d
        ((calls.mapM s.perform).run d).2 := by
  induction calls generalizing d with
  | nil => exact ⟨rfl, Touches.refl _ _ d⟩
  | cons call calls ih =>
    obtain ⟨hreset, hmissing⟩ := hmissing
    obtain ⟨hrecord, htouches⟩ :=
      s.recordOn_perform d call (fun p hp => h p (hp ▸ List.mem_cons_self)) hreset
    rw [List.mapM_cons, StateT.run_bind]
    generalize (s.perform call).run d = first at hrecord htouches hmissing ⊢
    obtain ⟨event, d₁⟩ := first
    obtain ⟨hrest, htouches'⟩ := ih d₁ (fun p hp => h p (List.mem_cons_of_mem call hp)) hmissing
    refine ⟨?_, htouches.trans htouches'⟩
    show s.recordOn ((calls.mapM s.perform).run d₁).2 =
      recordAfter (event :: ((calls.mapM s.perform).run d₁).1) (s.recordOn d)
    rw [hrest, recordAfter_cons, hrecord]

/-- **A store never loses its record to a failed save.** After any calls, whatever mishaps meet
them, the record is that of the last save or reset that succeeded, or the first one if none did; and
nothing has changed but the record, its draft and directories on the way to it that were missing. Of
the file system this asks that no removal calls a record missing which is there: a reset would take
that for success. -/
theorem keeps_record (d : FrailDisk) (calls : List Call)
    (h : ∀ p, Call.save p ∈ calls → Keepable p) (hmissing : s.ReportsMissing d calls) :
    s.KeepsRecord d ((calls.mapM s.perform).run d).1 ((calls.mapM s.perform).run d).2 := by
  obtain ⟨hrecord, htouches⟩ := s.recordOn_mapM_perform d calls h hmissing
  refine ⟨?_, htouches, fun p fault d'' hsave => ?_, fun result d'' hreset => ?_⟩
  · rw [load_run, hrecord]
  · rw [load_run, ← hrecord]
    rcases s.save_cases p _ with ⟨_, _, hcases, htouches'⟩ | ⟨_, hcases, -⟩
    · cases hsave.symm.trans hcases
      rw [recordOn_congr (Touches.node?_path htouches')]
    · cases hsave.symm.trans hcases
  · rcases s.reset_cases _ with ⟨_, _, hcases, htouches'⟩ | ⟨_, hcases, htouches', -⟩
    · cases hreset.symm.trans hcases
      exact htouches'.mono (List.nil_subset _) (List.Subset.refl [])
    · cases hreset.symm.trans hcases
      exact htouches'

/-- An empty disk on which the seventh operation, a write, will be cut off, and the eighth refused.
-/
def failing : FrailDisk where
  node? _ := none
  ahead := List.replicate 6 none ++
    [some ⟨.other, some (.file "\x7b\"totalScore\": 8")⟩, some ⟨.other, none⟩]

/-- Two saves and a reset. -/
def someCalls : List Call :=
  [.load, .save { Profile.fresh with totalScore := 7 },
    .save { Profile.fresh with totalScore := 8 }, .reset]

/-- The first save makes its directory and succeeds, the second leaves half a draft, and the reset
behind it is refused: the first record is still there. -/
theorem keeps_record_half_draft :
    let outcome := (someCalls.mapM (perform ⟨"a/b"⟩)).run failing
    KeepsRecord ⟨"a/b"⟩ failing outcome.1 outcome.2 ∧
      (recordAfter outcome.1 none).map (·.totalScore) = some 7 := by
  have hkeepable : ∀ score < 9, Keepable { Profile.fresh with totalScore := score } := by
    intro score hscore
    have hzero : 0 < counterLimit := by decide
    have hseconds : Duration.zero.seconds < integerLimit := by decide
    exact ⟨⟨Nat.lt_trans hscore (by decide), hzero, hzero, hseconds, nofun, nofun⟩,
      ⟨nofun, nofun⟩, nofun⟩
  have hmissing : ReportsMissing ⟨"a/b"⟩ failing someCalls := by
    refine ⟨nofun, nofun, nofun, fun _ hremove => ?_, trivial⟩
    exact absurd hremove (by decide +kernel)
  refine ⟨keeps_record ⟨"a/b"⟩ failing someCalls (fun p hp => ?_) hmissing, by decide +kernel⟩
  simp only [someCalls, List.mem_cons, Call.save.injEq, reduceCtorEq, List.not_mem_nil, false_or,
    or_false] at hp
  rcases hp with rfl | rfl
  · exact hkeepable 7 (by decide)
  · exact hkeepable 8 (by decide)

end Store

end MotionTutor
