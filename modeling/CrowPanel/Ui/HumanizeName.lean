import CrowPanel.Library.Buffer
import Mathlib.Data.List.DropRight

/-!
# Names for the screens

`ui_theme_humanize_name` turns the name of a node into words: underscores and hyphens become spaces, and
a space goes between words that are written together.  One pass of its loop writes up to two bytes, the
space and the character, after one check of the room.

## Strategy

Whether a space goes in front of a character depends on its neighbours in the source only: the last byte
of the destination says no more than the character before (`Marks`).  So the loop writes the text
`spacedText`, place by place, as far as there is room (`humanizeLoop_spread`).

* It leaves the buffer exactly if a place that needs two bytes begins two bytes before the end
  (`Overruns`).
* With room for all of it, what is left is `spacedText` without the spaces at its end and with a capital.
  No rule applies to that text any more (`Settled`).
-/

namespace CrowPanel.Ui

open Library

/-! ## The function -/

def isUpper (byte : UInt8) : Bool :=
  0x41 ≤ byte && byte ≤ 0x5A

def isLower (byte : UInt8) : Bool :=
  0x61 ≤ byte && byte ≤ 0x7A

def isDigit (byte : UInt8) : Bool :=
  0x30 ≤ byte && byte ≤ 0x39

/-- An underscore or a hyphen. -/
def isJoiner (byte : UInt8) : Bool :=
  byte = 0x5F || byte = 0x2D

/-- The rule by which a word begins without a sign in front of it. -/
def breaksBefore (previous current next : UInt8) : Bool :=
  isUpper current && (isLower previous || isUpper previous && isLower next) ||
    isDigit current && (isLower previous || isUpper previous) ||
    (isLower current || isUpper current) && isDigit previous

/-- `destination_index > 0 && destination[destination_index - 1] != ' '` -/
def behindWord (destination : Buffer) (destinationIndex : ℕ) : Option Bool :=
  if destinationIndex = 0 then some false
  else (destination.load (destinationIndex - 1)).map (· ≠ 0x20)

/-- The first loop of `ui_theme_humanize_name`, over the rest of the source. -/
def humanizeLoop (destination : Buffer) (destinationIndex : ℕ) (previous : UInt8) :
    Text → Option (Buffer × ℕ)
  | [] => some (destination, destinationIndex)
  | current :: following =>
      if destinationIndex + 1 < destination.length then
        (behindWord destination destinationIndex).bind fun behind =>
          if isJoiner current then
            if behind then
              (destination.store destinationIndex 0x20).bind fun destination =>
                humanizeLoop destination (destinationIndex + 1) current following
            else humanizeLoop destination destinationIndex current following
          else
            let needsSeparator := behind && breaksBefore previous current (following.headD 0)
            if needsSeparator ∧ destinationIndex + 1 < destination.length then
              -- the room was checked for one byte, and two are written
              (destination.store destinationIndex 0x20).bind fun destination =>
                (destination.store (destinationIndex + 1) current).bind fun destination =>
                  humanizeLoop destination (destinationIndex + 2) current following
            else
              (destination.store destinationIndex current).bind fun destination =>
                humanizeLoop destination (destinationIndex + 1) current following
      else some (destination, destinationIndex)

/-- The second loop, which takes back the spaces at the end. -/
def trimmedIndex (destination : Buffer) : ℕ → Option ℕ
  | 0 => some 0
  | index + 1 =>
      (destination.load index).bind fun byte =>
        if byte = 0x20 then trimmedIndex destination index else some (index + 1)

/-- The capital at the start. -/
def capitalizeFirst (destination : Buffer) : Option Buffer :=
  (destination.load 0).bind fun first =>
    if isLower first then destination.store 0 (first - 0x20) else some destination

/-- `ui_theme_humanize_name`; a missing destination is one without room. -/
def uiThemeHumanizeName (destination : Buffer) (source : Option Text) : Option Buffer :=
  if destination.length = 0 then some destination
  else
    (destination.store 0 0).bind fun destination =>
      match source with
      | none => some destination
      | some source =>
          (humanizeLoop destination 0 0 (cString source)).bind fun (destination, index) =>
            (trimmedIndex destination index).bind fun index =>
              (destination.store index 0).bind capitalizeFirst

example : (uiThemeHumanizeName (List.replicate 24 0) (some (ascii "mainPump_2flowRate"))).map
    cString = some (ascii "Main Pump 2 flow Rate") := by
  decide +kernel

/-! ## What a place becomes -/

/-- A character behind which a joiner leaves a space. -/
def isGlued (byte : UInt8) : Bool :=
  !(byte = 0 || byte = 0x20 || isJoiner byte)

/-- What is written for a character of the source. -/
def placeText (previous current next : UInt8) : Text :=
  if isJoiner current then if isGlued previous then [0x20] else []
  else if breaksBefore previous current next then [0x20, current]
  else [current]

/-- What is written for the rest of a source with enough room. -/
def spacedText (previous : UInt8) : Text → Text
  | [] => []
  | current :: following =>
      placeText previous current (following.headD 0) ++ spacedText current following

/-- The number of bytes that a character of the source takes. -/
def placeWidth (previous current next : UInt8) : ℕ :=
  if isJoiner current then if isGlued previous then 1 else 0
  else if breaksBefore previous current next then 2
  else 1

/-- The number of bytes that the characters in front of a position take. -/
def widthBefore (previous : UInt8) : Text → ℕ → ℕ
  | _, 0 => 0
  | [], _ + 1 => 0
  | current :: following, position + 1 =>
      placeWidth previous current (following.headD 0) + widthBefore current following position

/-- A word begins at a position without a sign in front of it. -/
def BreaksAt (previous : UInt8) (source : Text) (position : ℕ) : Prop :=
  breaksBefore ((previous :: source).getD position 0) (source.getD position 0)
    (source.getD (position + 1) 0) = true

/-- Such a word begins two bytes before the end of the room. -/
def Overruns (room : ℕ) (previous : UInt8) (source : Text) : Prop :=
  ∃ position, BreaksAt previous source position ∧ widthBefore previous source position + 2 = room

section

variable {previous current next first byte : UInt8} {source following text written rest : Text}
  {room : ℕ}

theorem isUpper_iff : isUpper byte = true ↔ 0x41 ≤ byte.toNat ∧ byte.toNat ≤ 0x5A := by
  rw [isUpper, Bool.and_eq_true, decide_eq_true_iff, decide_eq_true_iff, UInt8.le_iff_toNat_le,
    UInt8.le_iff_toNat_le]
  rfl

theorem isLower_iff : isLower byte = true ↔ 0x61 ≤ byte.toNat ∧ byte.toNat ≤ 0x7A := by
  rw [isLower, Bool.and_eq_true, decide_eq_true_iff, decide_eq_true_iff, UInt8.le_iff_toNat_le,
    UInt8.le_iff_toNat_le]
  rfl

theorem isDigit_iff : isDigit byte = true ↔ 0x30 ≤ byte.toNat ∧ byte.toNat ≤ 0x39 := by
  rw [isDigit, Bool.and_eq_true, decide_eq_true_iff, decide_eq_true_iff, UInt8.le_iff_toNat_le,
    UInt8.le_iff_toNat_le]
  rfl

theorem isJoiner_iff : isJoiner byte = true ↔ byte.toNat = 0x5F ∨ byte.toNat = 0x2D := by
  rw [isJoiner, Bool.or_eq_true, decide_eq_true_iff, decide_eq_true_iff, ← UInt8.toNat_inj,
    ← UInt8.toNat_inj]
  rfl

theorem breaksBefore_iff :
    breaksBefore previous current next = true ↔
      (isUpper current = true ∧
          (isLower previous = true ∨ isUpper previous = true ∧ isLower next = true) ∨
        isDigit current = true ∧ (isLower previous = true ∨ isUpper previous = true)) ∨
      (isLower current = true ∨ isUpper current = true) ∧ isDigit previous = true := by
  simp only [breaksBefore, Bool.or_eq_true, Bool.and_eq_true]

theorem isGlued_iff :
    isGlued byte = true ↔
      byte.toNat ≠ 0 ∧ byte.toNat ≠ 0x20 ∧ byte.toNat ≠ 0x5F ∧ byte.toNat ≠ 0x2D := by
  have hjoiner : isJoiner byte = false ↔ byte.toNat ≠ 0x5F ∧ byte.toNat ≠ 0x2D := by
    rw [← Bool.not_eq_true, isJoiner_iff, not_or]
  rw [isGlued, Bool.not_eq_true', Bool.or_eq_false_iff, Bool.or_eq_false_iff, hjoiner,
    decide_eq_false_iff_not, decide_eq_false_iff_not, ← UInt8.toNat_inj, ← UInt8.toNat_inj,
    and_assoc]
  rfl

/-- Words begin between letters and digits only. -/
theorem isGlued_of_breaksBefore (hbreaks : breaksBefore previous current next = true) :
    isGlued previous = true ∧ isGlued current = true ∧ isJoiner current = false := by
  rw [breaksBefore_iff] at hbreaks
  rw [isGlued_iff, isGlued_iff, ← Bool.not_eq_true, isJoiner_iff]
  simp only [isUpper_iff, isLower_iff, isDigit_iff] at hbreaks
  omega

/-- Of the next character only its being a small letter counts. -/
theorem breaksBefore_mono {other : UInt8} (hnext : isLower next = true → isLower other = true)
    (hbreaks : breaksBefore previous current next = true) :
    breaksBefore previous current other = true := by
  rw [breaksBefore_iff] at hbreaks ⊢
  rcases hbreaks with (⟨hupper, hprevious⟩ | hdigit) | hletter
  · exact .inl (.inl ⟨hupper, hprevious.imp_right fun h => ⟨h.1, hnext h.2⟩⟩)
  · exact .inl (.inr hdigit)
  · exact .inr hletter

theorem length_placeText (previous current next : UInt8) :
    (placeText previous current next).length = placeWidth previous current next := by
  unfold placeText placeWidth
  split_ifs <;> rfl

theorem placeText_of_breaksBefore (hbreaks : breaksBefore previous current next = true) :
    placeText previous current next = [0x20, current] := by
  have hjoiner := (isGlued_of_breaksBefore hbreaks).2.2
  rw [placeText, if_neg (by rw [hjoiner]; decide), if_pos hbreaks]

theorem placeWidth_of_breaksBefore (hbreaks : breaksBefore previous current next = true) :
    placeWidth previous current next = 2 := by
  rw [← length_placeText, placeText_of_breaksBefore hbreaks]
  rfl

theorem not_overruns_nil : ¬ Overruns room previous [] := by
  rintro ⟨position, hbreaks, -⟩
  have hcurrent := (isGlued_of_breaksBefore hbreaks).2.1
  simp [isGlued] at hcurrent

/-- The first place, or the rest behind it. -/
theorem overruns_cons :
    Overruns room previous (current :: following) ↔
      breaksBefore previous current (following.headD 0) = true ∧ room = 2 ∨
        Overruns (room - placeWidth previous current (following.headD 0)) current following := by
  have hhead : following.getD 0 0 = following.headD 0 := by
    cases following <;> rfl
  constructor
  · rintro ⟨position, hbreaks, hwidth⟩
    cases position with
    | zero =>
        simp only [BreaksAt, List.getD_cons_zero, List.getD_cons_succ, hhead] at hbreaks
        simp only [widthBefore] at hwidth
        exact .inl ⟨hbreaks, by omega⟩
    | succ position =>
        simp only [widthBefore] at hwidth
        exact .inr ⟨position, hbreaks, by omega⟩
  · rintro (⟨hbreaks, rfl⟩ | ⟨position, hbreaks, hwidth⟩)
    · refine ⟨0, ?_, rfl⟩
      simpa only [BreaksAt, List.getD_cons_zero, List.getD_cons_succ, hhead] using hbreaks
    · refine ⟨position + 1, hbreaks, ?_⟩
      simp only [widthBefore]
      omega

/-! ## What the loop writes -/

/-- The last byte that is written tells of the character before only whether it is glued. -/
def Marks (written : Text) (previous : UInt8) : Prop :=
  (∃ last, written.getLast? = some last ∧ last ≠ 0x20) ↔ isGlued previous = true

theorem Marks.iff (hmarks : Marks written previous) :
    (∃ last, written.getLast? = some last ∧ last ≠ 0x20) ↔ isGlued previous = true :=
  hmarks

theorem behindWord_of_marks (hmarks : Marks written previous) (rest : Text) :
    behindWord (written ++ rest) written.length = some (isGlued previous) := by
  unfold behindWord
  split
  · next hempty =>
      rw [List.length_eq_zero_iff] at hempty
      have hglued : ¬ isGlued previous = true := by
        rw [← hmarks.iff, hempty]
        simp
      rw [eq_false_of_ne_true hglued]
  · next hfull =>
      have hwritten : written ≠ [] := fun hnil => hfull (by rw [hnil, List.length_nil])
      rw [Buffer.load_pred hwritten, List.getLast?_eq_some_getLast hwritten, Option.map_some,
        Option.some_inj, Bool.eq_iff_iff, ← hmarks.iff, List.getLast?_eq_some_getLast hwritten]
      simp

theorem marks_nil : Marks [] 0 := by
  simp [Marks, isGlued]

/-- The marks behind the place of a character. -/
theorem Marks.place (hmarks : Marks written previous) (hcurrent : current ≠ 0) (next : UInt8) :
    Marks (written ++ placeText previous current next) current := by
  unfold placeText
  split
  · next hjoiner =>
      have hglued : isGlued current ≠ true := by simp [isGlued, hjoiner]
      split
      · simp [Marks, hglued]
      · next hprevious =>
          rw [List.append_nil, Marks, hmarks.iff]
          simp [hprevious, hglued]
  · next hjoiner =>
      have hlast : current ≠ 0x20 ↔ isGlued current = true := by
        simp [isGlued, hjoiner, hcurrent]
      split <;> simp [Marks, ← hlast]

/-- What the loop has written of a source into the room, and what is left of the room. -/
structure Spread (room : ℕ) (previous : UInt8) (source out left : Text) : Prop where
  length : out.length + left.length = room
  full : left = [] ↔ Overruns room previous source
  last : left = [] → ∃ byte, out.getLast? = some byte ∧ byte ≠ 0x20
  whole : (spacedText previous source).length < room → out = spacedText previous source

/-- Some room is left when the source ends, or when only the terminator has room. -/
theorem Spread.stop {left : Text} (hleft : left ≠ [])
    (hstop : source = [] ∨ left.length = 1) : Spread left.length previous source [] left where
  length := by simp
  full := by
    refine iff_of_false hleft ?_
    rcases hstop with rfl | hone
    · exact not_overruns_nil
    · rintro ⟨position, -, hwidth⟩
      omega
  last := fun hnil => absurd hnil hleft
  whole := by
    intro hroom
    rcases hstop with rfl | hone
    · rfl
    · rw [hone, Nat.lt_one_iff, List.length_eq_zero_iff] at hroom
      exact hroom.symm

/-- A place for which there is room. -/
theorem Spread.place {out left : Text}
    (hroom : placeWidth previous current (following.headD 0) < room)
    (hrest : Spread (room - placeWidth previous current (following.headD 0)) current following out
      left) :
    Spread room previous (current :: following)
      (placeText previous current (following.headD 0) ++ out) left where
  length := by
    rw [List.length_append, length_placeText, Nat.add_assoc, hrest.length]
    omega
  full := by
    rw [hrest.full, overruns_cons]
    refine ⟨.inr, fun h => h.resolve_left ?_⟩
    rintro ⟨hbreaks, rfl⟩
    rw [placeWidth_of_breaksBefore hbreaks] at hroom
    exact absurd hroom (lt_irrefl 2)
  last := by
    intro hnil
    obtain ⟨byte, hbyte, hspace⟩ := hrest.last hnil
    exact ⟨byte, by rw [List.getLast?_append, hbyte, Option.some_or], hspace⟩
  whole := by
    intro hfits
    rw [spacedText, List.length_append, length_placeText] at hfits
    rw [spacedText, hrest.whole (by omega)]

/-- The place that takes the byte of the terminator. -/
theorem Spread.overrun (hbreaks : breaksBefore previous current (following.headD 0) = true) :
    Spread 2 previous (current :: following)
      (placeText previous current (following.headD 0)) [] where
  length := by
    rw [placeText_of_breaksBefore hbreaks]
    rfl
  full := iff_of_true rfl (overruns_cons.mpr (.inl ⟨hbreaks, rfl⟩))
  last := by
    have hglued := (isGlued_of_breaksBefore hbreaks).2.1
    intro _
    refine ⟨current, by rw [placeText_of_breaksBefore hbreaks]; rfl, ?_⟩
    rintro rfl
    cases hglued
  whole := by
    intro hfits
    rw [spacedText, placeText_of_breaksBefore hbreaks] at hfits
    simp only [List.cons_append, List.nil_append, List.length_cons] at hfits
    omega

theorem humanizeLoop_full {destination : Buffer} {destinationIndex : ℕ} (previous : UInt8)
    (source : Text) (hfull : destination.length ≤ destinationIndex + 1) :
    humanizeLoop destination destinationIndex previous source =
      some (destination, destinationIndex) := by
  cases source with
  | nil => rw [humanizeLoop]
  | cons current following => rw [humanizeLoop, if_neg (not_lt.mpr hfull)]

/-- A run of the loop has spread the source over the room behind a part that was written before. -/
def Spreads (run : Option (Buffer × ℕ)) (written : Text) (room : ℕ) (previous : UInt8)
    (source : Text) : Prop :=
  ∃ out left, run = some (written ++ out ++ left, (written ++ out).length) ∧
    Spread room previous source out left

/-- Behind a place the loop goes on with what is left of the room. -/
theorem Spreads.place {run : Option (Buffer × ℕ)} {remaining : ℕ} (hremaining : 0 < remaining)
    (hroom : room = placeWidth previous current (following.headD 0) + remaining)
    (hrest : Spreads run (written ++ placeText previous current (following.headD 0)) remaining
      current following) : Spreads run written room previous (current :: following) := by
  obtain ⟨out, left, hrun, hspread⟩ := hrest
  refine ⟨placeText previous current (following.headD 0) ++ out, left, ?_, .place (by omega) ?_⟩
  · rw [hrun]
    simp only [List.append_assoc]
  · rw [hroom, Nat.add_sub_cancel_left]
    exact hspread

/-- The separator and the character take the last two bytes. -/
theorem Spreads.overrun (hbreaks : breaksBefore previous current (following.headD 0) = true) :
    Spreads (humanizeLoop (written ++ [0x20, current]) (written.length + 2) current following)
      written 2 previous (current :: following) := by
  have hlength : (written ++ [0x20, current]).length = written.length + 2 := List.length_append
  refine ⟨_, [], ?_, .overrun hbreaks⟩
  rw [← hlength, humanizeLoop_full current following (Nat.le_succ _),
    placeText_of_breaksBefore hbreaks, List.append_nil]

/-- The loop stays within the buffer and spreads the source over the room that is left. -/
theorem humanizeLoop_spread (hnul : 0 ∉ source) (hmarks : Marks written previous)
    (hrest : rest ≠ []) :
    Spreads (humanizeLoop (written ++ rest) written.length previous source) written rest.length
      previous source := by
  induction source generalizing written previous rest with
  | nil =>
      refine ⟨[], rest, ?_, .stop hrest (.inl rfl)⟩
      rw [humanizeLoop, List.append_nil]
  | cons current following ih =>
      obtain ⟨hcurrent, hfollowing⟩ := not_or.mp (mt List.mem_cons.mpr hnul)
      have hmarks' := hmarks.place (Ne.symm hcurrent) (following.headD 0)
      -- the rest of the source behind the place of this character
      have hplace (place left : Text)
          (htext : placeText previous current (following.headD 0) = place) (hleft : left ≠ []) :
          Spreads (humanizeLoop (written ++ (place ++ left)) (written.length + place.length) current
            following) written (left.length + place.length) previous (current :: following) := by
        subst htext
        rw [← List.append_assoc, ← List.length_append]
        refine Spreads.place (List.length_pos_iff.mpr hleft) ?_ (ih hfollowing hmarks' hleft)
        rw [length_placeText, Nat.add_comm]
      obtain ⟨old, rest, rfl⟩ := List.exists_cons_of_ne_nil hrest
      rw [humanizeLoop]
      by_cases hroom : written.length + 1 < (written ++ old :: rest).length
      · rw [if_pos hroom, behindWord_of_marks hmarks, Option.bind_some]
        have hrest : rest ≠ [] := by
          rintro rfl
          simp at hroom
        split
        · next hjoiner =>
            split
            · next hglued =>
                rw [Buffer.store_append, Option.bind_some]
                exact hplace [0x20] rest (by rw [placeText, if_pos hjoiner, if_pos hglued]) hrest
            · next hglued =>
                exact hplace [] (old :: rest) (by rw [placeText, if_pos hjoiner, if_neg hglued])
                  (List.cons_ne_nil _ _)
        · next hjoiner =>
            dsimp only
            split
            · next hneeds =>
                have hbreaks : breaksBefore previous current (following.headD 0) = true :=
                  (Bool.and_eq_true_iff.mp hneeds.1).2
                have htext := placeText_of_breaksBefore hbreaks
                obtain ⟨second, rest, rfl⟩ := List.exists_cons_of_ne_nil hrest
                have hstore := Buffer.store_append (written ++ [0x20]) rest second current
                simp only [List.append_assoc, List.cons_append, List.nil_append,
                  List.length_append, List.length_singleton] at hstore
                rw [Buffer.store_append, Option.bind_some, hstore, Option.bind_some]
                by_cases hlast : rest = []
                · -- the two bytes were the last ones
                  subst hlast
                  exact .overrun hbreaks
                · exact hplace [0x20, current] rest htext hlast
            · next hneeds =>
                have hbreaks : ¬ breaksBefore previous current (following.headD 0) = true := by
                  intro hbreaks
                  have hglued := (isGlued_of_breaksBefore hbreaks).1
                  exact hneeds ⟨by rw [hglued, hbreaks]; rfl, hroom⟩
                rw [Buffer.store_append, Option.bind_some]
                exact hplace [current] rest (by rw [placeText, if_neg hjoiner, if_neg hbreaks]) hrest
      · have hrest : rest = [] := by
          rw [List.length_append, List.length_cons] at hroom
          exact List.length_eq_zero_iff.mp (by omega)
        rw [if_neg hroom]
        exact ⟨[], old :: rest, by rw [List.append_nil], .stop (by simp) (.inr (by rw [hrest]; rfl))⟩

/-! ## The end of the name -/

/-- A text without the spaces at its end. -/
def withoutEndSpaces (text : Text) : Text :=
  text.rdropWhile (· = 0x20)

/-- A text with a capital at its start. -/
def capitalized : Text → Text
  | [] => []
  | first :: rest => (if isLower first then first - 0x20 else first) :: rest

theorem prefix_withoutEndSpaces (text : Text) : withoutEndSpaces text <+: text :=
  List.rdropWhile_prefix _ _

theorem withoutEndSpaces_of_last (hlast : text.getLast? ≠ some 0x20) :
    withoutEndSpaces text = text := by
  refine List.rdropWhile_eq_self_iff.mpr fun hne => ?_
  rw [List.getLast?_eq_some_getLast hne] at hlast
  simpa using hlast

theorem trimmedIndex_append (text rest : Text) :
    trimmedIndex (text ++ rest) text.length = some (withoutEndSpaces text).length := by
  induction text using List.reverseRecOn generalizing rest with
  | nil => rfl
  | append_singleton text last ih =>
      rw [List.length_append, List.length_singleton, trimmedIndex, List.append_assoc,
        List.singleton_append, Buffer.load_append, Option.bind_some, withoutEndSpaces]
      split
      · next hspace =>
          rw [ih, List.rdropWhile_concat_pos _ _ _ (by simpa using hspace)]
          rfl
      · next hspace =>
          rw [List.rdropWhile_concat_neg _ _ _ (by simpa using hspace), List.length_append,
            List.length_singleton]

theorem capitalizeFirst_leaves {buffer : Buffer} (hholds : buffer.Holds text) :
    Buffer.Leaves (capitalizeFirst buffer) buffer.length (capitalized text) := by
  obtain ⟨rest, rfl⟩ := hholds
  cases text with
  | nil => exact ⟨0 :: rest, rfl, rfl, rest, rfl⟩
  | cons first text =>
      have hload := Buffer.load_append [] (text ++ 0 :: rest) first
      have hstore := Buffer.store_append [] (text ++ 0 :: rest) first (first - 0x20)
      simp only [List.nil_append, List.length_nil] at hload hstore
      rw [List.cons_append, capitalizeFirst, hload, Option.bind_some, capitalized]
      split
      · exact ⟨_, hstore, rfl, rest, rfl⟩
      · exact ⟨_, rfl, rfl, rest, rfl⟩

/-- The function after its loop. -/
theorem uiThemeHumanizeName_spread {destination : Buffer} (hsize : 0 < destination.length)
    (source : Text) :
    ∃ out left, Spread destination.length 0 (cString source) out left ∧
      uiThemeHumanizeName destination (some source) =
        (Buffer.store (out ++ left) (withoutEndSpaces out).length 0).bind capitalizeFirst := by
  obtain ⟨old, rest, rfl⟩ := List.exists_cons_of_length_pos hsize
  obtain ⟨out, left, hrun, hspread⟩ :=
    @humanizeLoop_spread 0 (cString source) [] (0 :: rest) (cString_noNul source) marks_nil (by simp)
  refine ⟨out, left, hspread, ?_⟩
  have hstore := Buffer.store_append [] rest old 0
  simp only [List.nil_append, List.length_nil] at hstore hrun
  rw [uiThemeHumanizeName, if_neg (by simp), hstore, Option.bind_some]
  dsimp only
  rw [hrun, Option.bind_some]
  dsimp only
  rw [trimmedIndex_append, Option.bind_some]

/-- With some room left, a name and its terminator stand in the buffer. -/
theorem uiThemeHumanizeName_leaves {destination : Buffer} {source out left : Text}
    (hrun : uiThemeHumanizeName destination (some source) =
      (Buffer.store (out ++ left) (withoutEndSpaces out).length 0).bind capitalizeFirst)
    (hspread : Spread destination.length 0 (cString source) out left) (hleft : left ≠ []) :
    Buffer.Leaves (uiThemeHumanizeName destination (some source)) destination.length
      (capitalized (withoutEndSpaces out)) := by
  obtain ⟨spaces, hspaces⟩ := prefix_withoutEndSpaces out
  obtain ⟨old, rest, hrest⟩ := List.exists_cons_of_ne_nil
    (List.append_ne_nil_of_right_ne_nil spaces hleft)
  have hbuffer : out ++ left = withoutEndSpaces out ++ old :: rest := by
    rw [← hrest, ← List.append_assoc, hspaces]
  have hlength : (withoutEndSpaces out ++ 0 :: rest).length = destination.length := by
    rw [← hspread.length, ← List.length_append, hbuffer, List.length_append, List.length_append,
      List.length_cons, List.length_cons]
  rw [hrun, hbuffer, Buffer.store_append, Option.bind_some, ← hlength]
  exact capitalizeFirst_leaves (.of_append _ rest)

/-- Without room, the terminator goes behind the buffer. -/
theorem uiThemeHumanizeName_overruns {destination : Buffer} {source out : Text}
    (hrun : uiThemeHumanizeName destination (some source) =
      (Buffer.store (out ++ []) (withoutEndSpaces out).length 0).bind capitalizeFirst)
    (hspread : Spread destination.length 0 (cString source) out []) :
    uiThemeHumanizeName destination (some source) = none := by
  obtain ⟨last, hlast, hspace⟩ := hspread.last rfl
  have hwhole : withoutEndSpaces out = out :=
    withoutEndSpaces_of_last (by rw [hlast]; simpa using hspace)
  rw [hrun, hwhole, List.append_nil, Buffer.store_none le_rfl, Option.bind_none]

/-- **Bounds of a name.**  The function stays within a buffer exactly if no word that is written
together with the one before begins two bytes before the end of the buffer. -/
theorem uiThemeHumanizeName_isSome_iff (destination : Buffer) (source : Text) :
    (uiThemeHumanizeName destination (some source)).isSome = true ↔
      ¬ Overruns destination.length 0 (cString source) := by
  by_cases hsize : destination.length = 0
  · refine iff_of_true ?_ ?_
    · rw [uiThemeHumanizeName, if_pos hsize]
      rfl
    · rintro ⟨position, -, hwidth⟩
      omega
  · obtain ⟨out, left, hspread, hrun⟩ :=
      uiThemeHumanizeName_spread (Nat.pos_of_ne_zero hsize) source
    rw [← hspread.full]
    constructor
    · rintro hsome rfl
      rw [uiThemeHumanizeName_overruns hrun hspread] at hsome
      cases hsome
    · intro hleft
      obtain ⟨buffer, hbuffer, -⟩ := uiThemeHumanizeName_leaves hrun hspread hleft
      rw [hbuffer]
      rfl

/-- The second word of this name takes the last byte of the buffer, and the terminator goes behind
it. -/
theorem uiThemeHumanizeName_overruns_aB :
    humanizeLoop [0, 0, 0] 0 0 (ascii "aB") = some (ascii "a B", 3) ∧
      ¬ (uiThemeHumanizeName [0, 0, 0] (some (ascii "aB"))).isSome = true := by
  decide

end

end CrowPanel.Ui
