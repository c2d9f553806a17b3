import Mathlib.Data.List.Infix
import Mathlib.Tactic.Common

/-!
# Escaping

An escape code replaces some characters by references, which all begin with one mark.  A reader of the
escaped text takes a reference for its character and every other character for itself.  The conditions
in `EscapeCode` are what makes a text readable: the mark is replaced itself, and no reference begins
another one (`unescape_escape`).

A writer with little room stops in front of the first character whose replacement does not fit, which
leaves it with the longest part of the text that fits (`fitting_longest`).
-/

namespace CrowPanel.Library

/-- A table of references. -/
structure EscapeCode (α : Type*) where
  references : List (α × List α)
  mark : α
  marked : ∀ reference ∈ references, ∃ rest, reference.2 = mark :: rest
  mark_replaced : ∃ reference ∈ references, reference.1 = mark
  distinct : ∀ first ∈ references, ∀ second ∈ references, first.2 <+: second.2 → first = second

namespace EscapeCode

variable {α : Type*} [DecidableEq α] (code : EscapeCode α)

/-- What a character becomes. -/
def word (char : α) : List α :=
  match code.references.find? fun reference => reference.1 = char with
  | some reference => reference.2
  | none => [char]

/-- A text with every character replaced. -/
def escape (text : List α) : List α :=
  text.flatMap code.word

/-- What a reader takes an escaped text for. -/
def unescape : List α → List α
  | [] => []
  | char :: text =>
      match code.references.find? fun reference => reference.2.isPrefixOf (char :: text) with
      | some reference => reference.1 :: unescape (text.drop (reference.2.length - 1))
      | none => char :: unescape text
termination_by text => text.length
decreasing_by
  · rw [List.length_drop, List.length_cons]
    omega
  · exact Nat.lt_succ_self _

/-- The characters of a text up to the first one that does not fit into the room any more. -/
def fitting : ℕ → List α → List α
  | _, [] => []
  | room, char :: text =>
      if (code.word char).length ≤ room then
        char :: fitting (room - (code.word char).length) text
      else []

section

variable {char : α} {text front : List α} {room : ℕ}

theorem escape_cons (char : α) (text : List α) :
    code.escape (char :: text) = code.word char ++ code.escape text :=
  List.flatMap_cons

/-- A character is replaced by a reference to it, or it is not the mark and stands for itself. -/
theorem word_cases (char : α) :
    (∃ reference ∈ code.references, reference.1 = char ∧ code.word char = reference.2) ∨
      char ≠ code.mark ∧ code.word char = [char] := by
  unfold word
  cases hfind : code.references.find? fun reference => reference.1 = char with
  | some reference =>
      exact .inl ⟨reference, List.mem_of_find?_eq_some hfind, by simpa using List.find?_some hfind,
        rfl⟩
  | none =>
      refine .inr ⟨?_, rfl⟩
      rintro rfl
      obtain ⟨reference, hmem, hmark⟩ := code.mark_replaced
      exact List.find?_eq_none.mp hfind reference hmem (decide_eq_true hmark)

theorem word_ne_nil (char : α) : code.word char ≠ [] := by
  rcases code.word_cases char with ⟨reference, hmem, -, hword⟩ | ⟨-, hword⟩
  · obtain ⟨rest, hrest⟩ := code.marked reference hmem
    rw [hword, hrest]
    exact List.cons_ne_nil _ _
  · rw [hword]
    exact List.cons_ne_nil _ _

/-! ## Reading -/

omit [DecidableEq α] in
/-- Two references that begin the same text are one. -/
theorem eq_of_begins {first second : α × List α} (hfirst : first ∈ code.references)
    (hsecond : second ∈ code.references) (hbegins : first.2 <+: text)
    (hother : second.2 <+: text) : first = second := by
  rcases le_total first.2.length second.2.length with hle | hle
  · exact code.distinct first hfirst second hsecond (List.prefix_of_prefix_length_le hbegins hother hle)
  · exact (code.distinct second hsecond first hfirst
      (List.prefix_of_prefix_length_le hother hbegins hle)).symm

/-- A reader takes the word of a character for the character. -/
theorem unescape_word (char : α) (text : List α) :
    code.unescape (code.word char ++ text) = char :: code.unescape text := by
  rcases code.word_cases char with ⟨reference, hmem, hchar, hword⟩ | ⟨hmark, hword⟩
  · obtain ⟨rest, hrest⟩ := code.marked reference hmem
    have hbegins : reference.2 <+: code.mark :: (rest ++ text) := by
      rw [hrest, List.cons_prefix_cons]
      exact ⟨rfl, List.prefix_append rest text⟩
    rw [hword, hrest, List.cons_append, unescape]
    cases hfind : code.references.find? fun reference =>
        reference.2.isPrefixOf (code.mark :: (rest ++ text)) with
    | some found =>
        have hfound := List.find?_some hfind
        rw [List.isPrefixOf_iff_prefix] at hfound
        obtain rfl := code.eq_of_begins (List.mem_of_find?_eq_some hfind) hmem hfound hbegins
        have hdrop : (rest ++ text).drop (found.2.length - 1) = text := by
          rw [hrest, List.length_cons, Nat.add_sub_cancel, List.drop_left]
        dsimp only
        rw [hdrop, hchar]
    | none =>
        exact absurd (List.isPrefixOf_iff_prefix.mpr hbegins)
          (List.find?_eq_none.mp hfind reference hmem)
  · rw [hword, List.singleton_append, unescape]
    cases hfind : code.references.find? fun reference =>
        reference.2.isPrefixOf (char :: text) with
    | some found =>
        obtain ⟨rest, hrest⟩ := code.marked found (List.mem_of_find?_eq_some hfind)
        have hfound := List.find?_some hfind
        rw [List.isPrefixOf_iff_prefix] at hfound
        rw [hrest, List.cons_prefix_cons] at hfound
        exact absurd hfound.1.symm hmark
    | none => rfl

/-- An escaped text is read as it was. -/
theorem unescape_escape (text : List α) : code.unescape (code.escape text) = text := by
  induction text with
  | nil => rw [escape, List.flatMap_nil, unescape]
  | cons char text ih => rw [escape_cons, unescape_word, ih]

/-- What can stand in an escaped text. -/
theorem mem_escape (hmem : char ∈ code.escape text) :
    (∃ reference ∈ code.references, char ∈ reference.2) ∨
      char ∈ text ∧ code.word char = [char] := by
  obtain ⟨source, hsource, hword⟩ := List.mem_flatMap.mp hmem
  rcases code.word_cases source with ⟨reference, href, -, heq⟩ | ⟨-, heq⟩
  · exact .inl ⟨reference, href, heq ▸ hword⟩
  · rw [heq, List.mem_singleton] at hword
    subst hword
    exact .inr ⟨hsource, heq⟩

/-! ## Writing into little room -/

theorem prefix_fitting (room : ℕ) (text : List α) : code.fitting room text <+: text := by
  induction text generalizing room with
  | nil => exact List.prefix_refl []
  | cons char text ih =>
      rw [fitting]
      split
      · exact List.cons_prefix_cons.mpr ⟨rfl, ih _⟩
      · exact List.nil_prefix

theorem length_escape_fitting (room : ℕ) (text : List α) :
    (code.escape (code.fitting room text)).length ≤ room := by
  induction text generalizing room with
  | nil => exact Nat.zero_le room
  | cons char text ih =>
      rw [fitting]
      split
      · next hfits =>
          have hrest := ih (room - (code.word char).length)
          rw [escape_cons, List.length_append]
          omega
      · exact Nat.zero_le room

/-- Every part at the front of the text that fits is a part of what is written. -/
theorem fitting_longest (hfront : front <+: text) (hfits : (code.escape front).length ≤ room) :
    front <+: code.fitting room text := by
  induction text generalizing front room with
  | nil => rw [List.prefix_nil.mp hfront]; exact List.nil_prefix
  | cons char text ih =>
      cases front with
      | nil => exact List.nil_prefix
      | cons first front =>
          obtain ⟨rfl, hrest⟩ := List.cons_prefix_cons.mp hfront
          rw [escape_cons, List.length_append] at hfits
          rw [fitting, if_pos (by omega)]
          exact List.cons_prefix_cons.mpr ⟨rfl, ih hrest (by omega)⟩

/-- With room for all of it the whole text is written. -/
theorem fitting_of_fits (hfits : (code.escape text).length ≤ room) : code.fitting room text = text :=
  (code.prefix_fitting room text).eq_of_length
    (le_antisymm (code.prefix_fitting room text).length_le
      (code.fitting_longest (List.prefix_refl text) hfits).length_le)

end

end EscapeCode

end CrowPanel.Library
