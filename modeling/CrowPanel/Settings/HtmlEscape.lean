import CrowPanel.Library.CText
import Mathlib.Algebra.BigOperators.Group.List.Basic

/-!
# Escaping text for the pages of the portal

`html_escape_dup` replaces the characters that could end an attribute or start an element.  Its
buffer is large enough for a text of quotes (`length_htmlEscape_le`).
-/

namespace CrowPanel.Settings

open Library

/-- The `switch` of `html_escape_dup`. -/
def htmlReplacement (byte : UInt8) : Option Text :=
  if byte = 0x26 then some (ascii "&amp;")
  else if byte = 0x3C then some (ascii "&lt;")
  else if byte = 0x3E then some (ascii "&gt;")
  else if byte = 0x22 then some (ascii "&quot;")
  else if byte = 0x27 then some (ascii "&#39;")
  else none

/-- The loop of `html_escape_dup`, with the bytes written so far. -/
def appendEscaped (out : Text) : Text → Text
  | [] => out
  | byte :: bytes => appendEscaped (out ++ (htmlReplacement byte).getD [byte]) bytes

/-- `html_escape_dup`; a missing source is taken as an empty one. -/
def htmlEscapeDup (allocated : Bool) (src : Option Text) : Option Text :=
  if allocated = true then some (appendEscaped [] (src.getD [])) else none

/-- A text with every byte replaced. -/
def htmlEscape (src : Text) : Text :=
  src.flatMap fun byte => (htmlReplacement byte).getD [byte]

theorem appendEscaped_eq (out src : Text) : appendEscaped out src = out ++ htmlEscape src := by
  induction src generalizing out with
  | nil => rw [appendEscaped, htmlEscape, List.flatMap_nil, List.append_nil]
  | cons byte bytes ih =>
      rw [appendEscaped, ih, List.append_assoc, htmlEscape, htmlEscape, List.flatMap_cons]

@[simp] theorem htmlEscapeDup_true (src : Text) :
    htmlEscapeDup true (some src) = some (htmlEscape src) := by
  rw [htmlEscapeDup, if_pos rfl, appendEscaped_eq, List.nil_append, Option.getD_some]

/-! ## The length -/

/-- The number of bytes that one byte becomes. -/
def escapedWidth (byte : UInt8) : ℕ :=
  if byte = 0x26 then 5
  else if byte = 0x3C ∨ byte = 0x3E then 4
  else if byte = 0x22 then 6
  else if byte = 0x27 then 5
  else 1

theorem length_replacement (byte : UInt8) :
    ((htmlReplacement byte).getD [byte]).length = escapedWidth byte := by
  unfold htmlReplacement escapedWidth
  split_ifs <;> simp_all [ascii]

theorem escapedWidth_le (byte : UInt8) : escapedWidth byte ≤ 6 := by
  unfold escapedWidth
  split_ifs <;> omega

theorem length_htmlEscape (src : Text) :
    (htmlEscape src).length = (src.map escapedWidth).sum := by
  rw [htmlEscape, List.length_flatMap]
  simp only [length_replacement]

/-- The buffer of `6 * len + 1` bytes has room for the text and its terminator. -/
theorem length_htmlEscape_le (src : Text) : (htmlEscape src).length ≤ 6 * src.length := by
  rw [length_htmlEscape]
  induction src with
  | nil => exact Nat.le_refl 0
  | cons byte bytes ih =>
      have hbyte := escapedWidth_le byte
      rw [List.map_cons, List.sum_cons, List.length_cons]
      omega

end CrowPanel.Settings
