import CrowPanel.Library.Buffer
import CrowPanel.Library.Escape
import CrowPanel.Settings.HtmlEscape

/-!
# Escaping into a buffer

The pages of the two portals are escaped by two functions.  `html_escape_dup` allocates room for six
bytes for each byte of its source and checks nothing; `html_escape` is given a buffer and stops at the
first replacement that does not fit.

## Strategy

Both write the words of one escape code (`htmlCode`), one after the other.  With enough room the first
loop writes all of them (`htmlEscapeDupLoop_eq`), and the second one always those of the longest part of
the source that fits (`htmlEscapeLoop_eq`).  That the result can be read back is a fact about the code.
-/

namespace CrowPanel.Settings

open Library

/-! ## The functions -/

/-- The loop of `html_escape_dup`, over the rest of the source. -/
def htmlEscapeDupLoop (out : Buffer) (pos : ℕ) : Text → Option (Buffer × ℕ)
  | [] => some (out, pos)
  | byte :: src =>
      match htmlReplacement byte with
      | some rep => (out.copy pos rep).bind fun out => htmlEscapeDupLoop out (pos + rep.length) src
      | none => (out.store pos byte).bind fun out => htmlEscapeDupLoop out (pos + 1) src

/-- `html_escape_dup` in the memory that `malloc` has returned. -/
def htmlEscapeDupIn (out : Buffer) (src : Option Text) : Option Buffer :=
  (htmlEscapeDupLoop out 0 (cString (src.getD []))).bind fun (out, pos) => out.store pos 0

/-- The chain of comparisons in `html_escape`. -/
def replacementOf (byte : UInt8) : Option Text :=
  if byte = 0x26 then some (ascii "&amp;")
  else if byte = 0x3C then some (ascii "&lt;")
  else if byte = 0x3E then some (ascii "&gt;")
  else if byte = 0x27 then some (ascii "&#39;")
  else if byte = 0x22 then some (ascii "&quot;")
  else none

/-- The loop of `html_escape`, over the rest of the source. -/
def htmlEscapeLoop (destination : Buffer) (offset : ℕ) : Text → Option (Buffer × ℕ)
  | [] => some (destination, offset)
  | byte :: source =>
      if offset + 1 < destination.length then
        match replacementOf byte with
        | some replacement =>
            if destination.length ≤ offset + replacement.length then some (destination, offset)
            else
              (destination.copy offset replacement).bind fun destination =>
                htmlEscapeLoop destination (offset + replacement.length) source
        | none =>
            (destination.store offset byte).bind fun destination =>
              htmlEscapeLoop destination (offset + 1) source
      else some (destination, offset)

/-- `html_escape` -/
def htmlEscapeIn (source : Text) (destination : Buffer) : Option Buffer :=
  (htmlEscapeLoop destination 0 (cString source)).bind fun (destination, offset) =>
    destination.store offset 0

/-! ## The code -/

/-- The references that stand for characters of the markup. -/
def htmlReferences : List (UInt8 × Text) :=
  [(0x26, ascii "&amp;"), (0x3C, ascii "&lt;"), (0x3E, ascii "&gt;"), (0x22, ascii "&quot;"),
    (0x27, ascii "&#39;")]

def htmlCode : EscapeCode UInt8 where
  references := htmlReferences
  mark := 0x26
  marked := by
    have hheads : ∀ reference ∈ htmlReferences, reference.2.head? = some 0x26 := by decide
    exact fun reference hreference => List.head?_eq_some_iff.mp (hheads reference hreference)
  mark_replaced := by decide
  distinct := by decide

/-- What a browser makes of the escaped text. -/
def htmlUnescape (text : Text) : Text :=
  htmlCode.unescape text

section

variable {byte : UInt8} {source text written rest : Text}

theorem word_htmlCode (byte : UInt8) :
    htmlCode.word byte = (htmlReplacement byte).getD [byte] := by
  unfold htmlReplacement
  split_ifs with hamp hlt hgt hquot hapos
  · rw [hamp]; rfl
  · rw [hlt]; rfl
  · rw [hgt]; rfl
  · rw [hquot]; rfl
  · rw [hapos]; rfl
  · have hnone : htmlCode.references.find? (fun reference => reference.1 = byte) = none := by
      rw [List.find?_eq_none]
      simp [htmlCode, htmlReferences, Ne.symm hamp, Ne.symm hlt, Ne.symm hgt, Ne.symm hquot,
        Ne.symm hapos]
    rw [EscapeCode.word, hnone]
    rfl

theorem escape_htmlCode (text : Text) : htmlCode.escape text = htmlEscape text := by
  unfold EscapeCode.escape htmlEscape
  congr 1
  exact funext word_htmlCode

/-- The two functions replace the same bytes. -/
theorem replacementOf_eq (byte : UInt8) : replacementOf byte = htmlReplacement byte := by
  unfold replacementOf htmlReplacement
  split_ifs with hamp hlt hgt hapos hquot hquot
  all_goals first | rfl | (rw [hapos] at hquot; cases hquot)

/-- An escaped text has no sign of the markup in it, and a browser reads it as the source. -/
structure Escapes (source text : Text) : Prop where
  noMarkup : ∀ byte ∈ text, byte ≠ 0x3C ∧ byte ≠ 0x3E ∧ byte ≠ 0x27 ∧ byte ≠ 0x22
  reads : htmlUnescape text = source

theorem escapes_htmlEscape (source : Text) : Escapes source (htmlEscape source) where
  noMarkup := by
    intro byte hbyte
    rw [← escape_htmlCode] at hbyte
    rcases htmlCode.mem_escape hbyte with ⟨reference, hreference, hmem⟩ | ⟨-, hword⟩
    · have hall : ∀ reference ∈ htmlReferences, ∀ byte ∈ reference.2,
          byte ≠ 0x3C ∧ byte ≠ 0x3E ∧ byte ≠ 0x27 ∧ byte ≠ 0x22 := by decide
      exact hall reference hreference byte hmem
    · refine ⟨?_, ?_, ?_, ?_⟩ <;> rintro rfl <;> exact absurd hword (by decide)
  reads := by
    rw [htmlUnescape, ← escape_htmlCode]
    exact htmlCode.unescape_escape source

/-! ## The loops -/

/-- A pass of the first loop copies the word of a byte. -/
theorem htmlEscapeDupLoop_cons (out : Buffer) (pos : ℕ) (byte : UInt8) (src : Text) :
    htmlEscapeDupLoop out pos (byte :: src) =
      (out.copy pos (htmlCode.word byte)).bind fun out =>
        htmlEscapeDupLoop out (pos + (htmlCode.word byte).length) src := by
  rw [htmlEscapeDupLoop, word_htmlCode]
  cases htmlReplacement byte with
  | some rep => rfl
  | none =>
      dsimp only
      rw [Buffer.store_eq_copy]
      rfl

/-- A pass of the second loop does so if the word fits in front of a terminator. -/
theorem htmlEscapeLoop_cons (destination : Buffer) (offset : ℕ) (byte : UInt8) (source : Text) :
    htmlEscapeLoop destination offset (byte :: source) =
      if offset + (htmlCode.word byte).length < destination.length then
        (destination.copy offset (htmlCode.word byte)).bind fun destination =>
          htmlEscapeLoop destination (offset + (htmlCode.word byte).length) source
      else some (destination, offset) := by
  have hword := List.length_pos_iff.mpr (htmlCode.word_ne_nil byte)
  rw [htmlEscapeLoop, replacementOf_eq]
  rw [word_htmlCode] at hword ⊢
  generalize htmlReplacement byte = choice at hword ⊢
  cases choice with
  | some replacement =>
      rw [Option.getD_some] at hword ⊢
      by_cases hfits : offset + replacement.length < destination.length
      · rw [if_pos hfits, if_pos (by omega)]
        exact if_neg (not_le.mpr hfits)
      · rw [if_neg hfits]
        dsimp only
        split
        · rw [if_pos (not_lt.mp hfits)]
        · rfl
  | none =>
      dsimp only [Option.getD_none]
      rw [Buffer.store_eq_copy]
      rfl

/-- With room for the whole escape and a terminator, the first loop writes the escape. -/
theorem htmlEscapeDupLoop_eq (hroom : (htmlEscape source).length < rest.length) :
    ∃ left, left ≠ [] ∧ htmlEscapeDupLoop (written ++ rest) written.length source =
        some (written ++ htmlEscape source ++ left, (written ++ htmlEscape source).length) ∧
      (htmlEscape source).length + left.length = rest.length := by
  rw [← escape_htmlCode] at hroom ⊢
  induction source generalizing written rest with
  | nil =>
      refine ⟨rest, List.length_pos_iff.mp (Nat.zero_lt_of_lt hroom), ?_, Nat.zero_add _⟩
      rw [htmlEscapeDupLoop, EscapeCode.escape, List.flatMap_nil, List.append_nil]
  | cons byte source ih =>
      rw [EscapeCode.escape_cons, List.length_append] at hroom
      obtain ⟨left, hleft, hrun, hlength⟩ := @ih (written ++ htmlCode.word byte)
        (rest.drop (htmlCode.word byte).length) (by rw [List.length_drop]; omega)
      refine ⟨left, hleft, ?_, ?_⟩
      · rw [htmlEscapeDupLoop_cons, Buffer.copy_append (by omega), Option.bind_some,
          ← List.append_assoc, ← List.length_append, hrun, EscapeCode.escape_cons]
        simp only [List.append_assoc]
      · rw [List.length_drop] at hlength
        rw [EscapeCode.escape_cons, List.length_append]
        omega

/-- With room for a terminator, the second loop writes the escape of what fits. -/
theorem htmlEscapeLoop_eq (hrest : rest ≠ []) :
    ∃ left, left ≠ [] ∧ htmlEscapeLoop (written ++ rest) written.length source =
        some (written ++ htmlEscape (htmlCode.fitting (rest.length - 1) source) ++ left,
          (written ++ htmlEscape (htmlCode.fitting (rest.length - 1) source)).length) ∧
      (htmlEscape (htmlCode.fitting (rest.length - 1) source)).length + left.length =
        rest.length := by
  rw [← escape_htmlCode]
  have hpos := List.length_pos_iff.mpr hrest
  induction source generalizing written rest with
  | nil =>
      refine ⟨rest, hrest, ?_, Nat.zero_add _⟩
      rw [htmlEscapeLoop, EscapeCode.fitting, EscapeCode.escape, List.flatMap_nil, List.append_nil]
  | cons byte source ih =>
      rw [htmlEscapeLoop_cons, EscapeCode.fitting, List.length_append]
      by_cases hfits : (htmlCode.word byte).length ≤ rest.length - 1
      · have hlater : rest.drop (htmlCode.word byte).length ≠ [] := by
          rw [ne_eq, List.drop_eq_nil_iff]
          omega
        obtain ⟨left, hleft, hrun, hlength⟩ := @ih (written ++ htmlCode.word byte)
          (rest.drop (htmlCode.word byte).length) hlater (List.length_pos_iff.mpr hlater)
        have hroom : (rest.drop (htmlCode.word byte).length).length - 1 =
            rest.length - 1 - (htmlCode.word byte).length := by
          rw [List.length_drop]
          omega
        rw [hroom] at hrun hlength
        rw [if_pos hfits, if_pos (by omega)]
        refine ⟨left, hleft, ?_, ?_⟩
        · rw [Buffer.copy_append (by omega), Option.bind_some, ← List.append_assoc,
            ← List.length_append, hrun, EscapeCode.escape_cons]
          simp only [List.append_assoc]
        · rw [List.length_drop] at hlength
          rw [EscapeCode.escape_cons, List.length_append]
          omega
      · rw [if_neg hfits, if_neg (by omega)]
        refine ⟨rest, hrest, ?_, Nat.zero_add _⟩
        rw [EscapeCode.escape, List.flatMap_nil, List.append_nil]

end

/-! ## The buffers -/

section

variable {source : Text} {destination : Buffer}

/-- The terminator behind a text with some room left. -/
theorem leaves_of_left {text left : Text} (hleft : left ≠ []) :
    Buffer.Leaves (Buffer.store (text ++ left) text.length 0) (text.length + left.length) text := by
  obtain ⟨old, rest, rfl⟩ := List.exists_cons_of_ne_nil hleft
  have hleaves := Buffer.leaves_store text rest old
  rwa [List.length_append] at hleaves

theorem htmlEscapeDupIn_leaves {out : Buffer}
    (hroom : (htmlEscape (cString source)).length < out.length) :
    Buffer.Leaves (htmlEscapeDupIn out (some source)) out.length
      (htmlEscape (cString source)) := by
  obtain ⟨left, hleft, hrun, hlength⟩ := @htmlEscapeDupLoop_eq (cString source) [] out hroom
  simp only [List.nil_append, List.length_nil] at hrun
  rw [htmlEscapeDupIn, Option.getD_some, hrun, Option.bind_some, ← hlength]
  exact leaves_of_left hleft

theorem htmlEscapeIn_leaves (hsize : 0 < destination.length) :
    Buffer.Leaves (htmlEscapeIn source destination) destination.length
      (htmlEscape (htmlCode.fitting (destination.length - 1) (cString source))) := by
  obtain ⟨left, hleft, hrun, hlength⟩ :=
    @htmlEscapeLoop_eq (cString source) [] destination (List.length_pos_iff.mp hsize)
  simp only [List.nil_append, List.length_nil] at hrun
  rw [htmlEscapeIn, hrun, Option.bind_some]
  have hleaves := @leaves_of_left
    (htmlEscape (htmlCode.fitting (destination.length - 1) (cString source))) left hleft
  rwa [hlength] at hleaves

/-- **Escaped pages.**  `html_escape` stays within its buffer and leaves there the escape of the longest
part of the source that fits, `html_escape_dup` stays within its allocation and leaves there the escape
of all of it, and with that much room they leave the same.  No escape has a sign of the markup in it,
and each is read as what it was made from. -/
theorem htmlEscapeIn_spec (source : Text) (destination : Buffer) (hsize : 0 < destination.length) :
    (∃ front, Buffer.Leaves (htmlEscapeIn source destination) destination.length
          (htmlEscape front) ∧
        front <+: cString source ∧ (htmlEscape front).length ≤ destination.length - 1 ∧
        (∀ other, other <+: cString source →
          (htmlEscape other).length ≤ destination.length - 1 → other <+: front) ∧
        Escapes front (htmlEscape front)) ∧
      (∀ out : Buffer, out.length = 6 * (cString source).length + 1 →
        Buffer.Leaves (htmlEscapeDupIn out (some source)) out.length (htmlEscape (cString source))) ∧
      Escapes (cString source) (htmlEscape (cString source)) ∧
      (6 * (cString source).length + 1 ≤ destination.length →
        Buffer.Leaves (htmlEscapeIn source destination) destination.length
          (htmlEscape (cString source))) := by
  have hlength := length_htmlEscape_le (cString source)
  have hleaves := @htmlEscapeIn_leaves source destination hsize
  refine ⟨⟨_, hleaves, htmlCode.prefix_fitting _ _, ?_, ?_, escapes_htmlEscape _⟩, ?_,
    escapes_htmlEscape _, ?_⟩
  · rw [← escape_htmlCode]
    exact htmlCode.length_escape_fitting _ _
  · intro other hother hfits
    rw [← escape_htmlCode] at hfits
    exact htmlCode.fitting_longest hother hfits
  · intro out hout
    exact htmlEscapeDupIn_leaves (by omega)
  · intro hroom
    have hfits : (htmlCode.escape (cString source)).length ≤ destination.length - 1 := by
      rw [escape_htmlCode]
      omega
    rwa [htmlCode.fitting_of_fits hfits] at hleaves

/-- A quote in a buffer with room for the letter before it only. -/
theorem htmlEscapeIn_spec_quote :
    ∃ front, Buffer.Leaves (htmlEscapeIn (ascii "a'b") [1, 2, 3, 4, 5, 6]) 6 (htmlEscape front) ∧
      front <+: cString (ascii "a'b") ∧ Escapes front (htmlEscape front) := by
  obtain ⟨front, hleaves, hfront, -, -, hescapes⟩ :=
    (htmlEscapeIn_spec (ascii "a'b") [1, 2, 3, 4, 5, 6] (by decide)).1
  exact ⟨front, hleaves, hfront, hescapes⟩

end

end CrowPanel.Settings
