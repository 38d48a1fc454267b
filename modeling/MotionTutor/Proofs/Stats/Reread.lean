import MotionTutor.Proofs.Json.Fraction
import MotionTutor.Proofs.Stats.Record

/-!
# Saved profiles read again

The accuracy that a profile is read with may differ from the one it was saved with, but it is a
share again. So a profile with shares for accuracies can be read from what is saved of it, whatever
the shares are (`Profile.parse?_render_reread`), and what is read has shares too
(`Profile.HasShares.reread`).
-/

namespace MotionTutor

open Decimal (IsShare)
open Json (Value Reads MemberReads reads_number reads_object rereadFraction rereadFraction_share)

/-- A map is read with other values, where each of them is. -/
theorem Json.reads_ofMap {α : Type} {m : SortedMap α} {write : α → Value} {g : α → α}
    (h : ∀ x ∈ m.values, Reads (write x) (write (g x))) :
    Reads (.ofMap write m) (.ofMap write (m.mapValues g)) := by
  unfold Value.ofMap SortedMap.mapValues
  rw [List.map_map]
  refine reads_object ?_
  rw [List.forall₂_map_left_iff, List.forall₂_map_right_iff, List.forall₂_same]
  exact fun e he => ⟨rfl, h e.2 (List.mem_map_of_mem he)⟩

namespace Progress

/-- The progress as it is read again, but for its times. -/
def reread (p : Progress) : Progress := { p with accuracy := rereadFraction p.accuracy }

variable {p : Progress}

theorem Fits.reread (h : p.Fits) : p.reread.Fits :=
  ⟨h.lessonsCompleted, h.lessonsTotal, h.attempts, h.right, h.bossBestTime, h.bossAttempts,
    h.bossLivesLeft, h.histories, h.lastPracticed⟩

theorem reads_write (hfits : p.Fits) (hshare : IsShare p.accuracy) :
    Reads p.write p.reread.write := by
  have hsame : ∀ {name : String} {v : Value}, v.Readable → MemberReads (name, v) (name, v) :=
    fun h => ⟨rfl, h.reads⟩
  unfold write
  refine reads_object (.cons (hsame (readable_counter hfits.lessonsCompleted))
    (.cons (hsame (readable_counter hfits.lessonsTotal)) (.cons ⟨rfl, ?_⟩
    (.cons (hsame (readable_counter hfits.attempts)) (.cons (hsame (readable_counter hfits.right))
    (.cons (hsame (.bool _)) (.cons (hsame (Duration.readable_write _))
    (.cons (hsame (readable_counter hfits.bossAttempts))
    (.cons (hsame (readable_counter hfits.bossLivesLeft)) (.cons (hsame ?_)
    (.cons (hsame (Value.readable_ofTexts _)) (.cons (hsame (.text _)) .nil))))))))))))
  · exact reads_number (rereadFraction_share hshare).2
  · exact Value.readable_ofMap fun h hh => History.readable_write (hfits.histories h hh)

end Progress

namespace Profile

/-- Every accuracy lies between zero and one. -/
def HasShares (p : Profile) : Prop := ∀ m ∈ p.modules.values, IsShare m.accuracy

/-- The profile as it is read again, but for its times. -/
def reread (p : Profile) : Profile := { p with modules := p.modules.mapValues Progress.reread }

variable {p : Profile}

theorem mem_modules_reread {m : Progress} (h : m ∈ p.reread.modules.values) :
    ∃ m' ∈ p.modules.values, m = m'.reread := by
  have hvalues : p.reread.modules.values = p.modules.values.map Progress.reread :=
    p.modules.values_mapValues Progress.reread
  rw [hvalues] at h
  obtain ⟨m', hm', rfl⟩ := List.mem_map.1 h
  exact ⟨m', hm', rfl⟩

theorem HasShares.reread (h : p.HasShares) : p.reread.HasShares := by
  intro m hm
  obtain ⟨m', hm', rfl⟩ := mem_modules_reread hm
  exact (rereadFraction_share (h m' hm')).1

theorem Fits.reread (h : p.Fits) : p.reread.Fits := by
  refine ⟨h.totalScore, h.currentStreak, h.bestStreak, h.totalTime, h.lastPlayed, fun m hm => ?_⟩
  obtain ⟨m', hm', rfl⟩ := mem_modules_reread hm
  exact (h.modules m' hm').reread

theorem HasTexts.reread (h : p.HasTexts) : p.reread.HasTexts := by
  refine ⟨h.lastPlayed, fun m hm => ?_⟩
  obtain ⟨m', hm', rfl⟩ := mem_modules_reread hm
  exact h.modules m' hm'

theorem reads_write (hfits : p.Fits) (hshares : p.HasShares) : Reads p.write p.reread.write := by
  have hsame : ∀ {name : String} {v : Value}, v.Readable → MemberReads (name, v) (name, v) :=
    fun h => ⟨rfl, h.reads⟩
  unfold write
  refine reads_object (.cons (hsame (Value.readable_ofNat hfits.totalScore))
    (.cons (hsame (readable_counter hfits.currentStreak))
    (.cons (hsame (readable_counter hfits.bestStreak))
    (.cons (hsame (Duration.readable_write _)) (.cons (hsame (.text _))
    (.cons (hsame (Value.readable_ofTexts _)) (.cons ⟨rfl, ?_⟩ .nil)))))))
  exact Json.reads_ofMap fun m hm => Progress.reads_write (hfits.modules m hm) (hshares m hm)

/-- **A saved profile is read again**, with its times cut to the second and shares for its
accuracies. -/
theorem parse?_render_reread (hfits : p.Fits) (htexts : p.HasTexts) (hshares : p.HasShares) :
    parse? p.render = some p.reread.truncated := by
  rw [parse?, render, (reads_write hfits hshares).parse?_render, Option.bind_some]
  exact read?_write hfits.reread htexts.reread

end Profile

end MotionTutor
