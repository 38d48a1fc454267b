import Mathlib.Data.List.Forall2
import MotionTutor.Json.Text

/-!
# Texts read back

Every text of a document is read back as it was, whatever characters stand in it
(`readText_encode`). A character is written as it is, or as an escape that names it
(`Piece.Names`): by a letter, or by its number if it is a control character. Numbers that small are
no halves of surrogate pairs, so each escape stands for itself (`spell_of_names`).
-/

namespace MotionTutor.Json

/-! ## 1. One character -/

theorem hexValue_hexDigit : ∀ n < 16, hexValue (hexDigit n) = some n := by decide

/-- The piece names the character, a control character perhaps by its number. -/
def Piece.Names (piece : Piece) (c : Char) : Prop :=
  piece = .char c ∨ piece = .unit c.toNat ∧ c.toNat < 0x20

theorem unitOf_hexDigits {n : Nat} (h : n < 0x100) :
    unitOf '0' '0' (hexDigit (n / 16)) (hexDigit (n % 16)) = some n := by
  have hzero : hexValue '0' = some 0 := by decide
  have hhigh := hexValue_hexDigit (n / 16) (by omega)
  have hlow := hexValue_hexDigit (n % 16) (by omega)
  have hvalue : ((0 * 16 + 0) * 16 + n / 16) * 16 + n % 16 = n := by omega
  unfold unitOf
  rw [hzero, hhigh, hlow]
  exact congrArg some hvalue

theorem readPieces_letter {c e : Char} (h : unescape e = some c) (cs : List Char) :
    readPieces ('\\' :: e :: cs) = (readPieces cs).map fun p => (.char c :: p.1, p.2) := by
  rw [readPieces]
  · rw [h]
  · -- an escape by number has no letter to name it
    rintro a b c' d rest rfl rfl
    cases h

theorem readPieces_plain {c : Char} (hquote : c ≠ '"') (hescape : c ≠ '\\') (h : ¬ c.toNat < 0x20)
    (cs : List Char) :
    readPieces (c :: cs) = (readPieces cs).map fun p => (.char c :: p.1, p.2) := by
  rw [readPieces]
  · rw [if_neg (not_or.2 ⟨h, hescape⟩)]
  · exact hquote
  · intro a b c' d rest hbackslash
    exact absurd hbackslash hescape
  · intro c' rest hbackslash
    exact absurd hbackslash hescape

/-- The three ways in which a character is written. -/
theorem escape_cases (c : Char) :
    (∃ e, escape c = ['\\', e] ∧ unescape e = some c) ∨
      (escape c = ['\\', 'u', '0', '0', hexDigit (c.toNat / 16), hexDigit (c.toNat % 16)] ∧
        c.toNat < 0x20) ∨
      (escape c = [c] ∧ c ≠ '"' ∧ c ≠ '\\' ∧ ¬ c.toNat < 0x20) := by
  by_cases hletter : c ∈ ['"', '\\', '\n', '\r', '\t', '\x08', '\x0c']
  · left
    simp only [List.mem_cons, List.not_mem_nil, or_false] at hletter
    rcases hletter with rfl | rfl | rfl | rfl | rfl | rfl | rfl <;> exact ⟨_, rfl, rfl⟩
  · right
    simp only [List.mem_cons, List.not_mem_nil, or_false, not_or] at hletter
    obtain ⟨hquote, hbackslash, hn, hr, ht, hb, hf⟩ := hletter
    unfold escape
    rw [if_neg hquote, if_neg hbackslash, if_neg hn, if_neg hr, if_neg ht, if_neg hb, if_neg hf]
    by_cases hcontrol : c.toNat < 0x20
    · exact .inl ⟨if_pos hcontrol, hcontrol⟩
    · exact .inr ⟨if_neg hcontrol, hquote, hbackslash, hcontrol⟩

/-- A written character is read as one piece that names it. -/
theorem readPieces_escape (c : Char) (cs : List Char) :
    ∃ piece : Piece, piece.Names c ∧
      readPieces (escape c ++ cs) = (readPieces cs).map fun p => (piece :: p.1, p.2) := by
  obtain ⟨e, hescape, hletter⟩ | ⟨hescape, hcontrol⟩ | ⟨hescape, hquote, hbackslash, hplain⟩ :=
    escape_cases c
  · exact ⟨.char c, .inl rfl, hescape ▸ readPieces_letter hletter cs⟩
  · refine ⟨.unit c.toNat, .inr ⟨rfl, hcontrol⟩, ?_⟩
    rw [hescape]
    simp only [List.cons_append, List.nil_append]
    rw [readPieces, unitOf_hexDigits (by omega)]
  · exact ⟨.char c, .inl rfl, hescape ▸ readPieces_plain hquote hbackslash hplain cs⟩

/-! ## 2. A text -/

/-- A small number stands for its character, whatever comes after it. -/
theorem spell_unit {n : Nat} (h : n < 0x20) (pieces : List Piece) :
    spell (.unit n :: pieces) = (spell pieces).map (Char.ofNat n :: ·) := by
  have hleading : isLeading n = false := by
    simp only [isLeading, Bool.and_eq_false_iff, decide_eq_false_iff_not]
    omega
  have htrailing : isTrailing n = false := by
    simp only [isTrailing, Bool.and_eq_false_iff, decide_eq_false_iff_not]
    omega
  cases pieces with
  | nil => simp [spell, hleading, htrailing]
  | cons piece pieces =>
    cases piece with
    | char c => simp [spell, hleading, htrailing]
    | unit m => simp [spell, hleading, htrailing]

theorem spell_of_names {pieces : List Piece} {cs : List Char}
    (h : List.Forall₂ Piece.Names pieces cs) : spell pieces = some cs := by
  induction h with
  | nil => rfl
  | cons hname _ ih =>
    rcases hname with rfl | ⟨rfl, hsmall⟩
    · rw [spell, ih]
      rfl
    · rw [spell_unit hsmall, ih, Option.map_some, Char.ofNat_toNat]

theorem readPieces_encode (cs rest : List Char) :
    ∃ pieces, List.Forall₂ Piece.Names pieces cs ∧
      readPieces (cs.flatMap escape ++ '"' :: rest) = some (pieces, rest) := by
  induction cs with
  | nil => exact ⟨[], .nil, rfl⟩
  | cons c cs ih =>
    obtain ⟨pieces, hnames, hread⟩ := ih
    obtain ⟨piece, hname, hstep⟩ := readPieces_escape c (cs.flatMap escape ++ '"' :: rest)
    refine ⟨piece :: pieces, .cons hname hnames, ?_⟩
    rw [List.flatMap_cons, List.append_assoc, hstep, hread]
    rfl

/-- **A text is read back as it was written**, up to its closing quote. -/
theorem readText_encode (s : String) (rest : List Char) :
    readText (s.toList.flatMap escape ++ '"' :: rest) = some (some s, rest) := by
  obtain ⟨pieces, hnames, hread⟩ := readPieces_encode s.toList rest
  have hspelled : (spell pieces).map String.ofList = some s := by
    rw [spell_of_names hnames, Option.map_some, String.ofList_toList]
  rw [readText, hread, ← hspelled]
  rfl

end MotionTutor.Json
