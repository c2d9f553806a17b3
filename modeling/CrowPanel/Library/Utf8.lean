import CrowPanel.Library.CText
import Mathlib.Tactic.Common

/-!
# UTF-8

A text is well formed if it is the encoding of some characters.  A cut keeps a text well formed exactly
if it goes between two characters (`wellFormed_take_iff`), and that can be told from the byte behind
the cut.
-/

namespace CrowPanel.Library

namespace Utf8

/-- The text is the encoding of some characters. -/
def WellFormed (text : Text) : Prop :=
  ByteArray.IsValidUTF8 text.toByteArray

instance (text : Text) : Decidable (WellFormed text) :=
  inferInstanceAs (Decidable (ByteArray.IsValidUTF8 _))

/-- Nothing is cut off, or the byte behind the cut begins a character. -/
def KeepsCharacters (count : ℕ) (text : Text) : Prop :=
  text.length ≤ count ∨ ∃ byte, text[count]? = some byte ∧ byte.IsUTF8FirstByte

theorem wellFormed_nil : WellFormed [] :=
  ByteArray.isValidUTF8_empty

/-- The part of a well-formed text before a cut is well formed if the cut goes through no
character. -/
theorem wellFormed_take_iff {text : Text} (htext : WellFormed text) (count : ℕ) :
    WellFormed (text.take count) ↔ KeepsCharacters count text := by
  by_cases hwhole : text.length ≤ count
  · rw [List.take_of_length_le hwhole]
    exact iff_of_true htext (.inl hwhole)
  have hcut : count < text.length := not_le.mp hwhole
  -- the cut is a position in the string that the text encodes
  let string := String.fromUTF8 text.toByteArray htext
  have hbytes : string.toByteArray = text.toByteArray := rfl
  have hsize : string.rawEndPos.byteIdx = text.length := by
    rw [String.byteIdx_rawEndPos, ← String.size_toByteArray, hbytes, List.size_toByteArray]
  have hposition : (⟨count⟩ : String.Pos.Raw).IsValid string ↔ WellFormed (text.take count) := by
    have htake : string.toByteArray.extract 0 count = (text.take count).toByteArray := by
      rw [hbytes]
      ext1
      simp
    rw [String.Pos.Raw.isValid_iff_isValidUTF8_extract_zero, htake, WellFormed]
    refine and_iff_right ?_
    rw [String.Pos.Raw.le_iff, hsize]
    exact hcut.le
  have hlt : (⟨count⟩ : String.Pos.Raw) < string.rawEndPos := by
    rw [String.Pos.Raw.lt_iff, hsize]
    exact hcut
  have hbyte : string.getUTF8Byte ⟨count⟩ hlt = text[count] := by
    simp [String.getUTF8Byte, hbytes]
  rw [← hposition, String.Pos.Raw.isValid_iff_isUTF8FirstByte, KeepsCharacters]
  constructor
  · rintro (hend | ⟨_, hfirst⟩)
    · have hcount := (congrArg String.Pos.Raw.byteIdx hend).trans hsize
      exact absurd hcount hcut.ne
    · rw [hbyte] at hfirst
      exact .inr ⟨text[count], List.getElem?_eq_getElem hcut, hfirst⟩
  · rintro (hle | ⟨byte, hget, hfirst⟩)
    · exact absurd hle hwhole
    · obtain ⟨_, rfl⟩ := List.getElem?_eq_some_iff.mp hget
      exact .inr ⟨hlt, by rwa [hbyte]⟩

end Utf8

end CrowPanel.Library
