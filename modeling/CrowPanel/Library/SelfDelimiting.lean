import CrowPanel.Library.CText

/-!
# Codes that end by themselves

A code writes a value as a text.  It ends by itself if a reader who knows nothing of what follows can
tell both the value and where its text ends.  Codes of a fixed width do, and so do codes that close with
a byte which they do not write before.  What is written by such codes one after the other can be taken
apart again, whatever the text behind them looks like.
-/

namespace CrowPanel.Library

variable {α : Type*}

/-- The text behind a value never makes it look like another value. -/
def SelfDelimiting (code : α → Text) : Prop :=
  ∀ ⦃first second : α⦄ ⦃rest other : Text⦄,
    code first ++ rest = code second ++ other → first = second ∧ rest = other

/-- The first place of a byte splits a text, although the rest may hold the byte again. -/
theorem append_cons_inj {front start rest other : Text} {byte : UInt8} (hfront : byte ∉ front)
    (hstart : byte ∉ start) (htext : front ++ byte :: rest = start ++ byte :: other) :
    front = start ∧ rest = other := by
  induction front generalizing start with
  | nil =>
      cases start with
      | nil => exact ⟨rfl, List.tail_eq_of_cons_eq htext⟩
      | cons head start =>
          have hhead := List.head_eq_of_cons_eq htext
          exact absurd (hhead ▸ List.mem_cons_self) hstart
  | cons head front ih =>
      cases start with
      | nil =>
          have hhead := List.head_eq_of_cons_eq htext
          exact absurd (hhead ▸ List.mem_cons_self) hfront
      | cons other start =>
          obtain ⟨rfl, htail⟩ := List.cons_eq_cons.mp htext
          obtain ⟨rfl, hrest⟩ := ih (List.not_mem_of_not_mem_cons hfront)
            (List.not_mem_of_not_mem_cons hstart) htail
          exact ⟨rfl, hrest⟩

namespace SelfDelimiting

variable {code : α → Text}

theorem injective (hcode : SelfDelimiting code) : Function.Injective code := by
  intro first second htext
  have hpadded : code first ++ [] = code second ++ [] := by rw [htext]
  exact (hcode hpadded).1

/-- All texts of the code have the same length. -/
theorem of_length {width : ℕ} (hlength : ∀ value, (code value).length = width)
    (hinjective : Function.Injective code) : SelfDelimiting code := by
  intro first second rest other htext
  have hwidth : (code first).length = (code second).length := by rw [hlength, hlength]
  obtain ⟨hvalue, hrest⟩ := List.append_inj htext hwidth
  exact ⟨hinjective hvalue, hrest⟩

/-- The code closes with a byte that it does not write before. -/
theorem of_closing {byte : UInt8} (hbyte : ∀ value, byte ∉ code value)
    (hinjective : Function.Injective code) : SelfDelimiting fun value => code value ++ [byte] := by
  intro first second rest other htext
  rw [List.append_assoc, List.append_assoc, List.singleton_append, List.singleton_append] at htext
  obtain ⟨hvalue, hrest⟩ := append_cons_inj (hbyte first) (hbyte second) htext
  exact ⟨hinjective hvalue, hrest⟩

/-- A list of values is read off one by one; its end is the end of the text. -/
theorem flatMap_injective (hcode : SelfDelimiting code) (hne : ∀ value, code value ≠ []) :
    Function.Injective (List.flatMap code) := by
  intro values others htext
  induction values generalizing others with
  | nil =>
      cases others with
      | nil => rfl
      | cons other others =>
          rw [List.flatMap_nil, List.flatMap_cons] at htext
          exact absurd (List.append_eq_nil_iff.mp htext.symm).1 (hne other)
  | cons value values ih =>
      cases others with
      | nil =>
          rw [List.flatMap_nil, List.flatMap_cons] at htext
          exact absurd (List.append_eq_nil_iff.mp htext).1 (hne value)
      | cons other others =>
          rw [List.flatMap_cons, List.flatMap_cons] at htext
          obtain ⟨hvalue, hrest⟩ := hcode htext
          rw [hvalue, ih hrest]

end SelfDelimiting

end CrowPanel.Library
