import MotionTutor.Proofs.Json.Record
import MotionTutor.Proofs.Time.Instant
import MotionTutor.Stats.Record

/-!
# Saved profiles read back

Saving a profile and loading it again keeps all of it but the fractions of seconds
(`Profile.saved_reads_back`). This asks three things of the profile:

* its numbers fit the fields of a record, and its leap seconds come at the end of a minute
  (`Profile.Fits`); both hold of every profile that was read from one (`Profile.fits_of_read?`);
* each accuracy is what its numeral is read as (`Profile.AccuraciesReadBack`);
* each point in time has a year of four digits in universal time (`Profile.HasTexts`).

The third does not hold of every profile that was read. A record may give a point in time at a
distance from universal time, and within a day of the first or the last year with four digits the
year in universal time can be another one. The profile is saved then, but what is saved cannot be
read (`Profile.resaved_reads_back`, `Profile.resaved_before_year_zero`).

A record is read from its fields, each by itself (`History.read?_eq_some_iff` and so on). What is
read back and what was read are both settled along this, field by field.
-/

namespace MotionTutor

open Json (Value Number optional of_optional optional_some)

/-! ## 1. Times and counters -/

/-- A span of time as it is saved: its whole seconds. -/
def Duration.truncated (d : Duration) : Duration := .ofSeconds d.seconds

theorem Duration.read?_write {d : Duration} (h : d.seconds < integerLimit) :
    read? d.write = some d.truncated := by
  have hmin : min d.seconds maxWritten = d.seconds := by
    rw [maxWritten]
    omega
  have hinteger : (Value.ofInt d.seconds).integer? = some (d.seconds : Int) :=
    Value.integer?_ofInt (by omega) (by omega)
  rw [read?, write, hmin]
  show ((Value.ofInt d.seconds).integer?.map fun n => Duration.ofSeconds n.toNat) = _
  rw [hinteger]
  rfl

theorem Duration.write_truncated (d : Duration) : d.truncated.write = d.write := by
  rw [write, write, truncated, seconds_ofSeconds]

theorem Duration.seconds_lt_of_read? {v : Value} {d : Duration} (h : read? v = some d) :
    d.seconds < integerLimit := by
  obtain ⟨n, hn, rfl⟩ := Option.map_eq_some_iff.1 h
  have hrange := Value.integer?_range hn
  rw [seconds_ofSeconds]
  omega

theorem Duration.readable_write (d : Duration) : d.write.Readable := by
  have hle : min d.seconds maxWritten ≤ maxWritten := Nat.min_le_right _ _
  have hlt : maxWritten < wordLimit := by decide
  exact Value.readable_ofNat (Nat.lt_of_le_of_lt hle hlt)

namespace Instant

variable {t : Option Instant}

theorem readOptional?_text (s : String) : readOptional? (.text s) =
    if s.isEmpty then some none else (parse? s).map some := rfl

theorem writeOptional_some (x : Instant) : writeOptional (some x) = .text x.text := rfl

theorem readOptional?_writeOptional (hproper : ∀ x ∈ t, x.Proper) (htext : ∀ x ∈ t, x.HasText) :
    readOptional? (writeOptional t) = some (t.map truncated) := by
  cases t with
  | none => rfl
  | some x =>
    rw [writeOptional_some, readOptional?_text, isEmpty_text,
      parse?_text (hproper x rfl) (htext x rfl)]
    rfl

theorem readOptional?_writeOptional_eq_none {x : Instant} (hx : x ∈ t) (h : ¬ x.HasText) :
    readOptional? (writeOptional t) = none := by
  cases hx
  rw [writeOptional_some, readOptional?_text, isEmpty_text, parse?_text_eq_none h]
  rfl

theorem writeOptional_truncated (t : Option Instant) :
    writeOptional (t.map truncated) = writeOptional t := by
  cases t with
  | none => rfl
  | some x => exact congrArg Value.text x.text_truncated

theorem proper_of_readOptional? {v : Value} (h : readOptional? v = some t) :
    ∀ x ∈ t, x.Proper := by
  obtain ⟨s, -, h⟩ := Option.bind_eq_some_iff.1 h
  split at h
  · cases h
    nofun
  · obtain ⟨x, hx, rfl⟩ := Option.map_eq_some_iff.1 h
    rintro _ ⟨⟩
    exact proper_of_parse? hx

end Instant

theorem readCounter_some (v : Value) : readCounter (some v) = v.natural? counterLimit := rfl

theorem readCounter_ofNat {n : Nat} (h : n < counterLimit) :
    readCounter (some (.ofNat n)) = some n := by
  rw [readCounter_some]
  exact Value.natural?_ofNat h

theorem readCounter_lt {field : Option Value} {n : Nat} (h : readCounter field = some n) :
    n < counterLimit :=
  of_optional (· < counterLimit) (by decide) Value.natural?_lt h

theorem readable_counter {n : Nat} (h : n < counterLimit) : (Value.ofNat n).Readable :=
  Value.readable_ofNat (Nat.lt_trans h (by decide))

/-! ## 2. Histories -/

namespace History

/-- The numbers fit the fields of a record. -/
structure Fits (h : History) : Prop where
  attempts : h.attempts < counterLimit
  right : h.right < counterLimit
  wrong : h.wrong < counterLimit
  rightInARow : h.rightInARow < counterLimit
  lastAttempted : -integerLimit ≤ h.lastAttempted ∧ h.lastAttempted < integerLimit

variable {h : History} {v : Value}

/-- A history is read from six fields, each by itself. -/
theorem read?_eq_some_iff : read? v = some h ↔ ∃ attempts right wrong rightInARow mastered last,
    v.fields? ["totalAttempts", "totalCorrect", "totalWrong", "consecutiveRight", "mastered",
      "lastAttempted"] = some [attempts, right, wrong, rightInARow, mastered, last] ∧
    readCounter attempts = some h.attempts ∧ readCounter right = some h.right ∧
    readCounter wrong = some h.wrong ∧ readCounter rightInARow = some h.rightInARow ∧
    optional false Value.bool? mastered = some h.mastered ∧
    optional 0 Value.integer? last = some h.lastAttempted := by
  constructor
  · intro hread
    unfold read? at hread
    obtain ⟨fields, hfields, hread⟩ := Option.bind_eq_some_iff.1 hread
    split at hread
    · rename_i a b c d e f
      obtain ⟨_, h₁, hread⟩ := Option.bind_eq_some_iff.1 hread
      obtain ⟨_, h₂, hread⟩ := Option.bind_eq_some_iff.1 hread
      obtain ⟨_, h₃, hread⟩ := Option.bind_eq_some_iff.1 hread
      obtain ⟨_, h₄, hread⟩ := Option.bind_eq_some_iff.1 hread
      obtain ⟨_, h₅, hread⟩ := Option.bind_eq_some_iff.1 hread
      obtain ⟨_, h₆, hread⟩ := Option.bind_eq_some_iff.1 hread
      cases hread
      exact ⟨a, b, c, d, e, f, hfields, h₁, h₂, h₃, h₄, h₅, h₆⟩
    · cases hread
  · rintro ⟨a, b, c, d, e, f, hfields, h₁, h₂, h₃, h₄, h₅, h₆⟩
    rw [read?, hfields, Option.bind_eq_bind, Option.bind_some]
    dsimp only
    rw [h₁, h₂, h₃, h₄, h₅, h₆]
    rfl

theorem read?_write (hfits : h.Fits) : read? h.write = some h :=
  read?_eq_some_iff.2 ⟨_, _, _, _, _, _, Value.fields?_object rfl (by decide),
    readCounter_ofNat hfits.attempts, readCounter_ofNat hfits.right,
    readCounter_ofNat hfits.wrong, readCounter_ofNat hfits.rightInARow, rfl,
    (optional_some _ _ _).trans (Value.integer?_ofInt hfits.lastAttempted.1 hfits.lastAttempted.2)⟩

theorem fits_of_read? (hread : read? v = some h) : h.Fits := by
  obtain ⟨_, _, _, _, _, _, -, h₁, h₂, h₃, h₄, -, hlast⟩ := read?_eq_some_iff.1 hread
  have hrange := of_optional (fun n : Int => -integerLimit ≤ n ∧ n < integerLimit) (by decide)
    Value.integer?_range hlast
  exact ⟨readCounter_lt h₁, readCounter_lt h₂, readCounter_lt h₃, readCounter_lt h₄, hrange⟩

theorem readable_write (hfits : h.Fits) : h.write.Readable := by
  unfold write
  refine .object ?_
  simp only [List.forall_mem_cons]
  exact ⟨readable_counter hfits.attempts, readable_counter hfits.right,
    readable_counter hfits.wrong, readable_counter hfits.rightInARow, .bool h.mastered,
    Value.readable_ofInt hfits.lastAttempted.1 hfits.lastAttempted.2, nofun⟩

end History

/-! ## 3. Progress -/

namespace Progress

/-- The numbers fit the fields of a record, and a leap second comes at the end of a minute. -/
structure Fits (p : Progress) : Prop where
  lessonsCompleted : p.lessonsCompleted < counterLimit
  lessonsTotal : p.lessonsTotal < counterLimit
  attempts : p.attempts < counterLimit
  right : p.right < counterLimit
  bossBestTime : p.bossBestTime.seconds < integerLimit
  bossAttempts : p.bossAttempts < counterLimit
  bossLivesLeft : p.bossLivesLeft < counterLimit
  histories : ∀ h ∈ p.histories.values, h.Fits
  lastPracticed : ∀ t ∈ p.lastPracticed, t.Proper

/-- The progress with its times cut to the second. -/
def truncated (p : Progress) : Progress :=
  { p with
    bossBestTime := p.bossBestTime.truncated
    lastPracticed := p.lastPracticed.map Instant.truncated }

variable {p : Progress} {v : Value}

/-- A progress is read from twelve fields, each by itself. -/
theorem read?_eq_some_iff : read? v = some p ↔ ∃ lessonsCompleted lessonsTotal accuracy attempts
    right bossDefeated bossBestTime bossAttempts bossLivesLeft histories weakest lastPracticed,
    v.fields? fieldNames = some [lessonsCompleted, lessonsTotal, accuracy, attempts, right,
      bossDefeated, bossBestTime, bossAttempts, bossLivesLeft, histories, weakest,
      lastPracticed] ∧
    readCounter lessonsCompleted = some p.lessonsCompleted ∧
    readCounter lessonsTotal = some p.lessonsTotal ∧
    optional 0.0 Value.float? accuracy = some p.accuracy ∧
    readCounter attempts = some p.attempts ∧ readCounter right = some p.right ∧
    optional false Value.bool? bossDefeated = some p.bossDefeated ∧
    optional .zero Duration.read? bossBestTime = some p.bossBestTime ∧
    readCounter bossAttempts = some p.bossAttempts ∧
    readCounter bossLivesLeft = some p.bossLivesLeft ∧
    optional .empty (Value.map? History.read?) histories = some p.histories ∧
    optional [] (Value.list? Value.text?) weakest = some p.weakest ∧
    optional none Instant.readOptional? lastPracticed = some p.lastPracticed := by
  constructor
  · intro hread
    unfold read? at hread
    obtain ⟨fields, hfields, hread⟩ := Option.bind_eq_some_iff.1 hread
    split at hread
    · obtain ⟨_, h₁, hread⟩ := Option.bind_eq_some_iff.1 hread
      obtain ⟨_, h₂, hread⟩ := Option.bind_eq_some_iff.1 hread
      obtain ⟨_, h₃, hread⟩ := Option.bind_eq_some_iff.1 hread
      obtain ⟨_, h₄, hread⟩ := Option.bind_eq_some_iff.1 hread
      obtain ⟨_, h₅, hread⟩ := Option.bind_eq_some_iff.1 hread
      obtain ⟨_, h₆, hread⟩ := Option.bind_eq_some_iff.1 hread
      obtain ⟨_, h₇, hread⟩ := Option.bind_eq_some_iff.1 hread
      obtain ⟨_, h₈, hread⟩ := Option.bind_eq_some_iff.1 hread
      obtain ⟨_, h₉, hread⟩ := Option.bind_eq_some_iff.1 hread
      obtain ⟨_, h₁₀, hread⟩ := Option.bind_eq_some_iff.1 hread
      obtain ⟨_, h₁₁, hread⟩ := Option.bind_eq_some_iff.1 hread
      obtain ⟨_, h₁₂, hread⟩ := Option.bind_eq_some_iff.1 hread
      cases hread
      exact ⟨_, _, _, _, _, _, _, _, _, _, _, _, hfields, h₁, h₂, h₃, h₄, h₅, h₆, h₇, h₈, h₉,
        h₁₀, h₁₁, h₁₂⟩
    · cases hread
  · rintro ⟨_, _, _, _, _, _, _, _, _, _, _, _, hfields, h₁, h₂, h₃, h₄, h₅, h₆, h₇, h₈, h₉, h₁₀,
      h₁₁, h₁₂⟩
    rw [read?, hfields, Option.bind_eq_bind, Option.bind_some]
    dsimp only
    rw [h₁, h₂, h₃, h₄, h₅, h₆, h₇, h₈, h₉, h₁₀,
      h₁₁, h₁₂]
    rfl

/-- The histories of a progress are read back. -/
theorem map?_histories (hfits : p.Fits) :
    (Value.ofMap History.write p.histories).map? History.read? = some p.histories := by
  have hread : ∀ h ∈ p.histories.values, History.read? h.write = some (id h) := fun h hh =>
    History.read?_write (hfits.histories h hh)
  rw [Value.map?_ofMap hread, SortedMap.mapValues_id]

theorem read?_write (hfits : p.Fits) (htext : ∀ t ∈ p.lastPracticed, t.HasText) :
    read? p.write = some p.truncated :=
  read?_eq_some_iff.2 ⟨_, _, _, _, _, _, _, _, _, _, _, _, Value.fields?_object rfl (by decide),
    readCounter_ofNat hfits.lessonsCompleted, readCounter_ofNat hfits.lessonsTotal, rfl,
    readCounter_ofNat hfits.attempts, readCounter_ofNat hfits.right, rfl,
    (optional_some _ _ _).trans (Duration.read?_write hfits.bossBestTime),
    readCounter_ofNat hfits.bossAttempts, readCounter_ofNat hfits.bossLivesLeft,
    (optional_some _ _ _).trans (map?_histories hfits),
    (optional_some _ _ _).trans (Value.list?_ofTexts p.weakest),
    (optional_some _ _ _).trans
      (Instant.readOptional?_writeOptional hfits.lastPracticed htext)⟩

theorem read?_write_eq_none {t : Instant} (ht : t ∈ p.lastPracticed) (h : ¬ t.HasText) :
    read? p.write = none := by
  rw [Option.eq_none_iff_forall_ne_some]
  intro q hq
  obtain ⟨_, _, _, _, _, _, _, _, _, _, _, last, hfields, -, -, -, -, -, -, -, -, -, -, -, hlast⟩ :=
    read?_eq_some_iff.1 hq
  have hwritten := hfields.symm.trans (Value.fields?_object rfl (by decide))
  cases hwritten
  have hnone := Instant.readOptional?_writeOptional_eq_none ht h
  rw [optional_some, hnone] at hlast
  cases hlast

theorem write_truncated (p : Progress) : p.truncated.write = p.write := by
  unfold write truncated
  rw [Duration.write_truncated, Instant.writeOptional_truncated]

theorem fits_of_read? (hread : read? v = some p) : p.Fits := by
  obtain ⟨_, _, _, _, _, _, _, _, _, _, _, _, -, h₁, h₂, -, h₄, h₅, -, hbest, h₈, h₉, hhistories,
    -, hlast⟩ := read?_eq_some_iff.1 hread
  refine ⟨readCounter_lt h₁, readCounter_lt h₂, readCounter_lt h₄, readCounter_lt h₅, ?_,
    readCounter_lt h₈, readCounter_lt h₉, ?_, ?_⟩
  · exact of_optional (·.seconds < integerLimit) (by decide) Duration.seconds_lt_of_read? hbest
  · refine of_optional (∀ h ∈ ·.values, h.Fits) (List.forall_mem_nil _) ?_ hhistories
    intro v m hm h hh
    obtain ⟨w, hw⟩ := Value.exists_of_map? hm hh
    exact History.fits_of_read? hw
  · exact of_optional (∀ t ∈ ·, t.Proper) nofun Instant.proper_of_readOptional? hlast

theorem readable_write (hfits : p.Fits) (haccuracy : (Number.fraction p.accuracy).ReadsBack) :
    p.write.Readable := by
  unfold write
  refine .object ?_
  simp only [List.forall_mem_cons]
  exact ⟨readable_counter hfits.lessonsCompleted, readable_counter hfits.lessonsTotal,
    .number haccuracy, readable_counter hfits.attempts, readable_counter hfits.right,
    .bool p.bossDefeated, Duration.readable_write _, readable_counter hfits.bossAttempts,
    readable_counter hfits.bossLivesLeft,
    Value.readable_ofMap fun h hh => History.readable_write (hfits.histories h hh),
    Value.readable_ofTexts p.weakest, .text _, nofun⟩

end Progress

/-! ## 4. Profiles -/

namespace Profile

/-- The numbers fit the fields of a record, and a leap second comes at the end of a minute. -/
structure Fits (p : Profile) : Prop where
  totalScore : p.totalScore < wordLimit
  currentStreak : p.currentStreak < counterLimit
  bestStreak : p.bestStreak < counterLimit
  totalTime : p.totalTime.seconds < integerLimit
  lastPlayed : ∀ t ∈ p.lastPlayed, t.Proper
  modules : ∀ m ∈ p.modules.values, m.Fits

/-- Every point in time has a year of four digits in universal time. -/
structure HasTexts (p : Profile) : Prop where
  lastPlayed : ∀ t ∈ p.lastPlayed, t.HasText
  modules : ∀ m ∈ p.modules.values, ∀ t ∈ m.lastPracticed, t.HasText

/-- Every accuracy is what its numeral is read as. -/
def AccuraciesReadBack (p : Profile) : Prop :=
  ∀ m ∈ p.modules.values, (Number.fraction m.accuracy).ReadsBack

/-- The profile with its times cut to the second. -/
def truncated (p : Profile) : Profile :=
  { p with
    totalTime := p.totalTime.truncated
    lastPlayed := p.lastPlayed.map Instant.truncated
    modules := p.modules.mapValues Progress.truncated }

variable {p : Profile} {v : Value}

/-- A profile is read from seven fields, each by itself. -/
theorem read?_eq_some_iff : read? v = some p ↔ ∃ totalScore currentStreak bestStreak totalTime
    lastPlayed bossesDefeated modules,
    v.fields? fieldNames = some [totalScore, currentStreak, bestStreak, totalTime, lastPlayed,
      bossesDefeated, modules] ∧
    optional 0 (Value.natural? wordLimit) totalScore = some p.totalScore ∧
    readCounter currentStreak = some p.currentStreak ∧
    readCounter bestStreak = some p.bestStreak ∧
    optional .zero Duration.read? totalTime = some p.totalTime ∧
    optional none Instant.readOptional? lastPlayed = some p.lastPlayed ∧
    optional [] (Value.list? Value.text?) bossesDefeated = some p.bossesDefeated ∧
    optional .empty (Value.map? Progress.read?) modules = some p.modules := by
  constructor
  · intro hread
    unfold read? at hread
    obtain ⟨fields, hfields, hread⟩ := Option.bind_eq_some_iff.1 hread
    split at hread
    · obtain ⟨_, h₁, hread⟩ := Option.bind_eq_some_iff.1 hread
      obtain ⟨_, h₂, hread⟩ := Option.bind_eq_some_iff.1 hread
      obtain ⟨_, h₃, hread⟩ := Option.bind_eq_some_iff.1 hread
      obtain ⟨_, h₄, hread⟩ := Option.bind_eq_some_iff.1 hread
      obtain ⟨_, h₅, hread⟩ := Option.bind_eq_some_iff.1 hread
      obtain ⟨_, h₆, hread⟩ := Option.bind_eq_some_iff.1 hread
      obtain ⟨_, h₇, hread⟩ := Option.bind_eq_some_iff.1 hread
      cases hread
      exact ⟨_, _, _, _, _, _, _, hfields, h₁, h₂, h₃, h₄, h₅, h₆, h₇⟩
    · cases hread
  · rintro ⟨_, _, _, _, _, _, _, hfields, h₁, h₂, h₃, h₄, h₅, h₆, h₇⟩
    rw [read?, hfields, Option.bind_eq_bind, Option.bind_some]
    dsimp only
    rw [h₁, h₂, h₃, h₄, h₅, h₆, h₇]
    rfl

theorem read?_write (hfits : p.Fits) (htexts : p.HasTexts) : read? p.write = some p.truncated :=
  read?_eq_some_iff.2 ⟨_, _, _, _, _, _, _, Value.fields?_object rfl (by decide),
    (optional_some _ _ _).trans (Value.natural?_ofNat hfits.totalScore),
    readCounter_ofNat hfits.currentStreak, readCounter_ofNat hfits.bestStreak,
    (optional_some _ _ _).trans (Duration.read?_write hfits.totalTime),
    (optional_some _ _ _).trans
      (Instant.readOptional?_writeOptional hfits.lastPlayed htexts.lastPlayed),
    (optional_some _ _ _).trans (Value.list?_ofTexts p.bossesDefeated),
    (optional_some _ _ _).trans
      (Value.map?_ofMap fun m hm => Progress.read?_write (hfits.modules m hm)
        (htexts.modules m hm))⟩

/-- One point in time without a text spoils the record. -/
theorem read?_write_eq_none (h : ¬ p.HasTexts) : read? p.write = none := by
  rw [Option.eq_none_iff_forall_ne_some]
  intro q hq
  obtain ⟨_, _, _, _, played, _, modules, hfields, -, -, -, -, hplayed, -, hmodules⟩ :=
    read?_eq_some_iff.1 hq
  have hwritten := hfields.symm.trans (Value.fields?_object rfl (by decide))
  cases hwritten
  refine h ⟨fun t ht => ?_, fun m hm t ht => ?_⟩
  · by_contra hno
    have hnone := Instant.readOptional?_writeOptional_eq_none ht hno
    rw [optional_some, hnone] at hplayed
    cases hplayed
  · by_contra hno
    have hnone := Value.map?_ofMap_eq_none hm (Progress.read?_write_eq_none ht hno)
    rw [optional_some, hnone] at hmodules
    cases hmodules

theorem write_truncated (p : Profile) : p.truncated.write = p.write := by
  have hmodules : Value.ofMap Progress.write (p.modules.mapValues Progress.truncated) =
      Value.ofMap Progress.write p.modules := by
    unfold Value.ofMap SortedMap.mapValues
    rw [List.map_map]
    exact congrArg Value.object
      (List.map_congr_left fun e _ => congrArg (e.1, ·) e.2.write_truncated)
  unfold write truncated
  rw [Duration.write_truncated, Instant.writeOptional_truncated, hmodules]

/-- What is read of a record fits one. -/
theorem fits_of_read? (hread : read? v = some p) : p.Fits := by
  obtain ⟨_, _, _, _, _, _, _, -, hscore, h₂, h₃, htime, hplayed, -, hmodules⟩ :=
    read?_eq_some_iff.1 hread
  refine ⟨?_, readCounter_lt h₂, readCounter_lt h₃, ?_, ?_, ?_⟩
  · exact of_optional (· < wordLimit) (by decide) Value.natural?_lt hscore
  · exact of_optional (·.seconds < integerLimit) (by decide) Duration.seconds_lt_of_read? htime
  · exact of_optional (∀ t ∈ ·, t.Proper) nofun Instant.proper_of_readOptional? hplayed
  · refine of_optional (∀ q ∈ ·.values, q.Fits) (List.forall_mem_nil _) ?_ hmodules
    intro v m hm q hq
    obtain ⟨w, hw⟩ := Value.exists_of_map? hm hq
    exact Progress.fits_of_read? hw

theorem readable_write (hfits : p.Fits) (haccuracies : p.AccuraciesReadBack) :
    p.write.Readable := by
  unfold write
  refine .object ?_
  simp only [List.forall_mem_cons]
  exact ⟨Value.readable_ofNat hfits.totalScore, readable_counter hfits.currentStreak,
    readable_counter hfits.bestStreak, Duration.readable_write _, .text _,
    Value.readable_ofTexts p.bossesDefeated,
    Value.readable_ofMap fun m hm =>
      Progress.readable_write (hfits.modules m hm) (haccuracies m hm), nofun⟩

theorem parse?_eq_read? (hfits : p.Fits) (haccuracies : p.AccuraciesReadBack) :
    parse? p.render = read? p.write := by
  rw [parse?, render, Value.parse?_render (readable_write hfits haccuracies), Option.bind_some]

/-! ## 5. Saving and loading -/

/-- **A saved profile is read back with its times cut to the second**, and is saved again as it
was. -/
theorem saved_reads_back (p : Profile) (hfits : p.Fits) (htexts : p.HasTexts)
    (haccuracies : p.AccuraciesReadBack) :
    read? p.write = some p.truncated ∧ p.truncated.write = p.write ∧
      parse? p.render = some p.truncated := by
  have hread := read?_write hfits htexts
  refine ⟨hread, write_truncated p, ?_⟩
  rw [parse?_eq_read? hfits haccuracies, hread]

/-- Some progress: one of two answers was right. -/
def halfRight : Progress :=
  { Progress.fresh with
    accuracy := 0.5
    attempts := 2
    right := 1
    histories := SortedMap.empty.insert "m1-l1" ⟨2, 1, 1, 0, false, 1710001815⟩
    weakest := ["m1-l1"]
    lastPracticed := some ⟨1710001815, 250000000⟩ }

/-- A profile with this progress, in a module whose id has a quote and control characters. -/
def sample : Profile :=
  { fresh with
    totalTime := ⟨1500000000⟩
    lastPlayed := some ⟨1710001815, 250000000⟩
    modules := SortedMap.empty.insert "\"\\\n\x01é" halfRight }

theorem saved_reads_back_sample :
    read? sample.write = some sample.truncated ∧ sample.truncated.write = sample.write ∧
      parse? sample.render = some sample.truncated := by
  have hvalues : sample.modules.values = [halfRight] := rfl
  have hhistories : halfRight.histories.values = [⟨2, 1, 1, 0, false, 1710001815⟩] := rfl
  have hhistory : History.Fits ⟨2, 1, 1, 0, false, 1710001815⟩ :=
    ⟨by decide, by decide, by decide, by decide, by decide⟩
  have hproper : (⟨1710001815, 250000000⟩ : Instant).Proper := by decide
  have htext : (⟨1710001815, 250000000⟩ : Instant).HasText := by decide +kernel
  have hprogress : halfRight.Fits := by
    refine ⟨by decide, by decide, by decide, by decide, by decide, by decide, by decide, ?_, ?_⟩
    · rw [hhistories]
      exact List.forall_mem_singleton.2 hhistory
    · rintro _ ⟨⟩
      exact hproper
  refine saved_reads_back sample ⟨by decide, by decide, by decide, by decide, ?_, ?_⟩ ⟨?_, ?_⟩ ?_
  · rintro _ ⟨⟩
    exact hproper
  · rw [hvalues]
    exact List.forall_mem_singleton.2 hprogress
  · rintro _ ⟨⟩
    exact htext
  · rw [hvalues]
    refine List.forall_mem_singleton.2 ?_
    rintro _ ⟨⟩
    exact htext
  · unfold AccuraciesReadBack
    rw [hvalues]
    refine List.forall_mem_singleton.2 ?_
    exact ⟨⟨false, ['0'], some ['5'], none⟩, by decide +kernel, rfl⟩

/-- A profile without progress has no accuracies. -/
theorem accuraciesReadBack_of_keys (h : p.modules.keys = []) : p.AccuraciesReadBack := by
  intro m hm
  rw [SortedMap.values, List.map_eq_nil_iff.1 h] at hm
  cases hm

/-- **A profile that was read is saved so that it can be read again if and only if each of its
points in time has a year of four digits in universal time**, and is then read again with its times
cut to the second. -/
theorem resaved_reads_back {document : String} (h : parse? document = some p)
    (haccuracies : p.AccuraciesReadBack) :
    (p.HasTexts → parse? p.render = some p.truncated) ∧
      (¬ p.HasTexts → parse? p.render = none) := by
  obtain ⟨v, -, hread⟩ := Option.bind_eq_some_iff.1 h
  have hfits := fits_of_read? hread
  rw [parse?_eq_read? hfits haccuracies]
  exact ⟨read?_write hfits, read?_write_eq_none⟩

/-- A profile last played at two hours from universal time is read again. -/
theorem resaved_reads_back_offset :
    ∃ p, parse? "\x7b\"lastPlayed\":\"2024-03-09T18:30:15.25+02:00\"\x7d" = some p ∧
      p.lastPlayed = some ⟨1710001815, 250000000⟩ ∧ parse? p.render = some p.truncated := by
  have hread : (parse? "\x7b\"lastPlayed\":\"2024-03-09T18:30:15.25+02:00\"\x7d").map
      (fun p => (p.lastPlayed, p.modules.keys)) = some (some ⟨1710001815, 250000000⟩, []) := by
    decide +kernel
  obtain ⟨p, hp, heq⟩ := Option.map_eq_some_iff.1 hread
  obtain ⟨hlast, hkeys⟩ := Prod.mk.inj heq
  refine ⟨p, hp, hlast, (resaved_reads_back hp (accuraciesReadBack_of_keys hkeys)).1 ⟨?_, ?_⟩⟩
  · rw [hlast]
    rintro _ ⟨⟩
    decide +kernel
  · intro m hm
    rw [SortedMap.values, List.map_eq_nil_iff.1 hkeys] at hm
    cases hm

/-- The first hour of year zero, at an hour from universal time, is in the year before; a profile
last played then is lost. -/
theorem resaved_before_year_zero :
    ∃ p, parse? "\x7b\"lastPlayed\":\"0000-01-01T00:00:00+01:00\"\x7d" = some p ∧
      p.AccuraciesReadBack ∧ parse? p.render = none := by
  have hread : (parse? "\x7b\"lastPlayed\":\"0000-01-01T00:00:00+01:00\"\x7d").map
      (fun p => (p.lastPlayed, p.modules.keys)) = some (some ⟨-62167222800, 0⟩, []) := by
    decide +kernel
  obtain ⟨p, hp, heq⟩ := Option.map_eq_some_iff.1 hread
  obtain ⟨hlast, hkeys⟩ := Prod.mk.inj heq
  have haccuracies := accuraciesReadBack_of_keys hkeys
  have htexts : ¬ p.HasTexts := by
    intro htexts
    exact absurd (htexts.lastPlayed _ hlast) (by decide +kernel)
  obtain ⟨v, -, hv⟩ := Option.bind_eq_some_iff.1 hp
  refine ⟨p, hp, haccuracies, ?_⟩
  rw [parse?_eq_read? (fits_of_read? hv) haccuracies, read?_write_eq_none htexts]

end Profile

end MotionTutor
