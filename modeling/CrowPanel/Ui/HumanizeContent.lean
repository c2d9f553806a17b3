import CrowPanel.Ui.HumanizeName

/-!
# What a name for the screens keeps

With enough room `ui_theme_humanize_name` changes only the signs between words and the case of the first
letter, and a name that has been through it once comes out of it as it is.

A text is `Settled` if none of the rules of the loop applies to it.  What the loop writes is settled
(`spacedText_settled`): a space that it has put in goes in front of a character that is then the first
of its word, and a rule that looks ahead sees the same small letter in the text as in the source.
Neither the spaces that are taken back nor the capital changes that.
-/

namespace CrowPanel.Ui

open Library

/-- The characters of a name that belong to its words. -/
def content (text : Text) : Text :=
  text.filter fun byte => byte ≠ 0x20 && !isJoiner byte

/-- The texts are the same but for the case of the first character. -/
def SameButFirstCase (source text : Text) : Prop :=
  text = source ∨
    ∃ first rest, isLower first = true ∧ source = first :: rest ∧ text = (first - 0x20) :: rest

/-- No rule applies to the text behind a character. -/
def Settled (previous : UInt8) : Text → Prop
  | [] => True
  | current :: following =>
      isJoiner current = false ∧
        breaksBefore previous current (following.headD 0) = false ∧ Settled current following

variable {previous current next first : UInt8} {source text following rest : Text}

/-! ## The words -/

theorem content_append (first second : Text) :
    content (first ++ second) = content first ++ content second :=
  List.filter_append ..

theorem content_placeText (previous current next : UInt8) :
    content (placeText previous current next) = content [current] := by
  have hspace : content [0x20] = [] := by decide
  unfold placeText
  split
  · next hjoiner =>
      have hcurrent : content [current] = [] := by simp [content, hjoiner]
      rw [hcurrent]
      split
      · exact hspace
      · rfl
  · split
    · change content ([0x20] ++ [current]) = _
      rw [content_append, hspace, List.nil_append]
    · rfl

theorem content_spacedText (previous : UInt8) (source : Text) :
    content (spacedText previous source) = content source := by
  induction source generalizing previous with
  | nil => rfl
  | cons current following ih =>
      rw [spacedText, content_append, content_placeText, ih, ← content_append]
      rfl

theorem content_withoutEndSpaces (text : Text) : content (withoutEndSpaces text) = content text := by
  induction text using List.reverseRecOn with
  | nil => rfl
  | append_singleton text last ih =>
      unfold withoutEndSpaces at ih ⊢
      by_cases hspace : last = 0x20
      · rw [List.rdropWhile_concat_pos _ _ _ (by simpa using hspace), ih, content_append, hspace]
        exact (List.append_nil _).symm
      · rw [List.rdropWhile_concat_neg _ _ _ (by simpa using hspace)]

/-- A small letter and its capital. -/
theorem capital_of_lower (hlower : isLower first = true) :
    isUpper (first - 0x20) = true ∧ isLower (first - 0x20) = false ∧
      isJoiner (first - 0x20) = false ∧ first - 0x20 ≠ 0x20 := by
  rw [isLower_iff] at hlower
  have hspace : (0x20 : UInt8).toNat = 0x20 := rfl
  have hle : (0x20 : UInt8) ≤ first := by
    rw [UInt8.le_iff_toNat_le, hspace]
    omega
  have hnat := UInt8.toNat_sub_of_le _ _ hle
  rw [isUpper_iff, ← Bool.not_eq_true, ← Bool.not_eq_true, isLower_iff, isJoiner_iff, ne_eq,
    ← UInt8.toNat_inj, hnat, hspace]
  omega

theorem content_capitalized (text : Text) :
    SameButFirstCase (content text) (content (capitalized text)) := by
  cases text with
  | nil => exact .inl rfl
  | cons first rest =>
      rw [capitalized]
      split
      · next hlower =>
          obtain ⟨-, -, hjoiner, hspace⟩ := capital_of_lower hlower
          have hfirst : first ≠ 0x20 ∧ isJoiner first = false := by
            have hnat : (0x20 : UInt8).toNat = 0x20 := rfl
            rw [isLower_iff] at hlower
            rw [← Bool.not_eq_true, isJoiner_iff, ne_eq, ← UInt8.toNat_inj, hnat]
            omega
          refine .inr ⟨first, content rest, hlower, ?_, ?_⟩
          · rw [content, List.filter_cons_of_pos (by simp [hfirst])]
            rfl
          · rw [content, List.filter_cons_of_pos (by simp [hspace, hjoiner])]
            rfl
      · exact .inl rfl

/-! ## Settled texts -/

theorem Settled.spacedText_eq (hsettled : Settled previous text) :
    spacedText previous text = text := by
  induction text generalizing previous with
  | nil => rfl
  | cons current following ih =>
      obtain ⟨hjoiner, hbreaks, hrest⟩ := hsettled
      rw [spacedText, ih hrest, placeText, if_neg (Bool.not_eq_true _ ▸ hjoiner),
        if_neg (Bool.not_eq_true _ ▸ hbreaks)]
      rfl

theorem Settled.joiner_of_mem (hsettled : Settled previous text) :
    ∀ byte ∈ text, isJoiner byte = false := by
  induction text generalizing previous with
  | nil => simp
  | cons current following ih =>
      intro byte hbyte
      rcases List.mem_cons.mp hbyte with rfl | hrest
      · exact hsettled.1
      · exact ih hsettled.2.2 byte hrest

/-- What comes later can only make a rule apply, not stop it. -/
theorem Settled.of_prefix {front : Text} (hfront : front <+: text)
    (hsettled : Settled previous text) : Settled previous front := by
  induction front generalizing previous text with
  | nil => trivial
  | cons current following ih =>
      obtain ⟨back, rfl⟩ := hfront
      obtain ⟨hjoiner, hbreaks, hrest⟩ := hsettled
      refine ⟨hjoiner, ?_, ih (List.prefix_append _ back) hrest⟩
      by_contra happlies
      rw [Bool.not_eq_false] at happlies
      have hlower : isLower (following.headD 0) = true →
          isLower ((following.append back).headD 0) = true := by
        intro hlower
        cases following with
        | nil => cases hlower
        | cons head tail => exact hlower
      rw [breaksBefore_mono hlower happlies] at hbreaks
      cases hbreaks

/-- What the last byte that is written says to the rules. -/
def lastMark (previous : UInt8) : UInt8 :=
  if isGlued previous then previous else 0x20

theorem lastMark_of_joiner (hcurrent : isJoiner current = true) : lastMark current = 0x20 :=
  if_neg (by simp [isGlued, hcurrent])

/-- A space is its own mark. -/
theorem lastMark_of_not_joiner (hzero : current ≠ 0) (hcurrent : ¬ isJoiner current = true) :
    lastMark current = current := by
  unfold lastMark
  split
  · rfl
  · next hglued =>
      rw [isGlued_iff] at hglued
      rw [isJoiner_iff] at hcurrent
      have hne : current.toNat ≠ 0 := fun h => hzero (UInt8.toNat_inj.mp h)
      have hspace : (0x20 : UInt8).toNat = current.toNat := by
        change 0x20 = current.toNat
        omega
      exact UInt8.toNat_inj.mp hspace

/-- A mark that a word may follow is the byte itself. -/
theorem lastMark_of_glued (hprevious : isGlued (lastMark previous) = true) :
    lastMark previous = previous := by
  unfold lastMark at hprevious ⊢
  split
  · rfl
  · next hglued =>
      rw [if_neg hglued] at hprevious
      cases hprevious

theorem not_breaksBefore_of_previous (hprevious : isGlued previous = false) :
    breaksBefore previous current next = false := by
  by_contra hbreaks
  rw [Bool.not_eq_false] at hbreaks
  rw [(isGlued_of_breaksBefore hbreaks).1] at hprevious
  cases hprevious

theorem not_breaksBefore_of_current (hcurrent : isGlued current = false) :
    breaksBefore previous current next = false := by
  by_contra hbreaks
  rw [Bool.not_eq_false] at hbreaks
  rw [(isGlued_of_breaksBefore hbreaks).2.1] at hcurrent
  cases hcurrent

/-- A rule sees the small letter behind a word in the text only where it stands in the source. -/
theorem lower_headD_spacedText (hcurrent : isGlued current = true)
    (hlower : isLower ((spacedText current following).headD 0) = true) :
    isLower (following.headD 0) = true := by
  cases following with
  | nil => exact hlower
  | cons head tail =>
      rw [spacedText, placeText] at hlower
      split at hlower
      · cases hlower
      · split at hlower
        · cases hlower
        · exact hlower

/-- The loop leaves nothing to do for itself. -/
theorem spacedText_settled (hnul : 0 ∉ source) (previous : UInt8) :
    Settled (lastMark previous) (spacedText previous source) := by
  induction source generalizing previous with
  | nil => trivial
  | cons current following ih =>
      obtain ⟨hzero, hfollowing⟩ := not_or.mp (mt List.mem_cons.mpr hnul)
      have hrest := ih hfollowing current
      have hspace : isGlued 0x20 = false := by decide
      rw [spacedText, placeText]
      split
      · next hjoiner =>
          rw [lastMark_of_joiner hjoiner] at hrest
          split
          · exact ⟨by decide, not_breaksBefore_of_current hspace, hrest⟩
          · next hglued =>
              rw [lastMark, if_neg hglued]
              exact hrest
      · next hjoiner =>
          rw [lastMark_of_not_joiner (Ne.symm hzero) hjoiner] at hrest
          rw [Bool.not_eq_true] at hjoiner
          split
          · exact ⟨by decide, not_breaksBefore_of_current hspace, hjoiner,
              not_breaksBefore_of_previous hspace, hrest⟩
          · next hbreaks =>
              refine ⟨hjoiner, ?_, hrest⟩
              by_contra happlies
              rw [Bool.not_eq_false] at happlies
              obtain ⟨hprevious, hcurrent, -⟩ := isGlued_of_breaksBefore happlies
              rw [lastMark_of_glued hprevious] at happlies
              exact hbreaks (breaksBefore_mono (lower_headD_spacedText hcurrent) happlies)

/-- A capital at the start makes no rule apply. -/
theorem Settled.capitalized (hsettled : Settled 0 text) : Settled 0 (capitalized text) := by
  cases text with
  | nil => trivial
  | cons first rest =>
      obtain ⟨hjoiner, -, hrest⟩ := hsettled
      have hstart : isGlued 0 = false := by decide
      rw [Ui.capitalized]
      split
      · next hlower =>
          obtain ⟨hupper, hnotLower, hnotJoiner, -⟩ := capital_of_lower hlower
          refine ⟨hnotJoiner, not_breaksBefore_of_previous hstart, ?_⟩
          cases rest with
          | nil => trivial
          | cons second rest =>
              obtain ⟨hsecond, hbreaks, hlater⟩ := hrest
              refine ⟨hsecond, ?_, hlater⟩
              by_contra happlies
              rw [Bool.not_eq_false, breaksBefore_iff] at happlies
              rw [← Bool.not_eq_true, breaksBefore_iff] at hbreaks
              simp only [isUpper_iff, isLower_iff, isDigit_iff] at *
              omega
      · exact ⟨hjoiner, not_breaksBefore_of_previous hstart, hrest⟩

/-! ## The whole function -/

/-- The name that stands in a buffer with enough room. -/
def humanized (source : Text) : Text :=
  capitalized (withoutEndSpaces (spacedText 0 source))

theorem humanized_settled (hnul : 0 ∉ source) : Settled 0 (humanized source) := by
  have hspaced : Settled 0 (spacedText 0 source) := by
    cases source with
    | nil => trivial
    | cons current following =>
        have hmarked := spacedText_settled hnul 0
        generalize spacedText 0 (current :: following) = spaced at hmarked ⊢
        cases spaced with
        | nil => trivial
        | cons head tail =>
            exact ⟨hmarked.1, not_breaksBefore_of_previous (by decide), hmarked.2.2⟩
  exact (hspaced.of_prefix (prefix_withoutEndSpaces _)).capitalized

/-- A capital is not a space. -/
theorem getLast?_capitalized_ne_space (htext : text.getLast? ≠ some 0x20) :
    (capitalized text).getLast? ≠ some 0x20 := by
  rcases text with _ | ⟨first, _ | ⟨second, rest⟩⟩
  · simp [capitalized]
  · rw [capitalized, List.getLast?_singleton]
    split
    · next hlower =>
        intro hspace
        exact (capital_of_lower hlower).2.2.2 (Option.some.inj hspace)
    · exact htext
  · rw [capitalized, List.getLast?_cons_cons]
    rwa [List.getLast?_cons_cons] at htext

theorem getLast?_humanized_ne_space (source : Text) :
    (humanized source).getLast? ≠ some 0x20 := by
  refine getLast?_capitalized_ne_space fun hlast => ?_
  have hne : withoutEndSpaces (spacedText 0 source) ≠ [] := by
    intro hnil
    rw [hnil] at hlast
    cases hlast
  rw [List.getLast?_eq_some_getLast hne, Option.some_inj] at hlast
  exact List.rdropWhile_last_not _ _ hne (decide_eq_true hlast)

theorem capitalized_of_humanized (source : Text) :
    capitalized (humanized source) = humanized source := by
  unfold humanized
  cases withoutEndSpaces (spacedText 0 source) with
  | nil => rfl
  | cons first rest =>
      rw [capitalized]
      split
      · next hlower => rw [capitalized, (capital_of_lower hlower).2.1, if_neg Bool.false_ne_true]
      · next hlower => rw [capitalized, if_neg hlower]

/-- A name that has been through the function comes out of it as it is. -/
theorem humanized_humanized (hnul : 0 ∉ source) : humanized (humanized source) = humanized source := by
  have hspaced := (humanized_settled hnul).spacedText_eq
  have htrimmed := withoutEndSpaces_of_last (getLast?_humanized_ne_space source)
  calc
    humanized (humanized source)
        = capitalized (withoutEndSpaces (spacedText 0 (humanized source))) := rfl
    _ = capitalized (withoutEndSpaces (humanized source)) := by rw [hspaced]
    _ = humanized source := by rw [htrimmed, capitalized_of_humanized]

theorem noNul_spacedText (hnul : 0 ∉ source) (previous : UInt8) :
    0 ∉ spacedText previous source := by
  induction source generalizing previous with
  | nil => exact List.not_mem_nil
  | cons current following ih =>
      obtain ⟨hcurrent, hfollowing⟩ := not_or.mp (mt List.mem_cons.mpr hnul)
      rw [spacedText, List.mem_append, not_or]
      refine ⟨?_, ih hfollowing current⟩
      unfold placeText
      split_ifs <;> simp [hcurrent]

theorem noNul_humanized (hnul : 0 ∉ source) : 0 ∉ humanized source := by
  have hspaced : 0 ∉ withoutEndSpaces (spacedText 0 source) := fun hmem =>
    noNul_spacedText hnul 0 ((prefix_withoutEndSpaces _).subset hmem)
  unfold humanized
  generalize withoutEndSpaces (spacedText 0 source) = text at hspaced ⊢
  cases text with
  | nil => exact hspaced
  | cons first rest =>
      obtain ⟨hfirst, hrest⟩ := not_or.mp (mt List.mem_cons.mpr hspaced)
      rw [capitalized, List.mem_cons, not_or]
      refine ⟨?_, hrest⟩
      split
      · next hlower =>
          intro hzero
          have hupper := (capital_of_lower hlower).1
          rw [← hzero] at hupper
          cases hupper
      · exact hfirst

/-- Every character takes two bytes at most. -/
theorem length_spacedText_le (previous : UInt8) (source : Text) :
    (spacedText previous source).length ≤ 2 * source.length := by
  induction source generalizing previous with
  | nil => exact Nat.le_refl 0
  | cons current following ih =>
      have hplace : placeWidth previous current (following.headD 0) ≤ 2 := by
        unfold placeWidth
        split_ifs <;> omega
      have hrest := ih current
      rw [spacedText, List.length_append, length_placeText, List.length_cons]
      omega

/-- With room for the text between the words, the name stands in the buffer. -/
theorem uiThemeHumanizeName_humanized {destination : Buffer}
    (hroom : (spacedText 0 (cString source)).length < destination.length) :
    Buffer.Leaves (uiThemeHumanizeName destination (some source)) destination.length
      (humanized (cString source)) := by
  obtain ⟨out, left, hspread, hrun⟩ :=
    uiThemeHumanizeName_spread (Nat.zero_lt_of_lt hroom) source
  obtain rfl := hspread.whole hroom
  refine uiThemeHumanizeName_leaves hrun hspread ?_
  rintro rfl
  have hlength := hspread.length
  rw [List.length_nil] at hlength
  omega

/-- **Content of a name.**  With two bytes for every character the name in the buffer has the words of
the source but for the case of the first letter, no joiner, and no space at its end.  In any buffer with
room for it, the function leaves such a name as it is. -/
theorem uiThemeHumanizeName_content {destination : Buffer} {source : Text}
    (hroom : 2 * (cString source).length + 1 ≤ destination.length) :
    ∃ name, Buffer.Leaves (uiThemeHumanizeName destination (some source)) destination.length name ∧
      0 ∉ name ∧
      SameButFirstCase (content (cString source)) (content name) ∧
      name.getLast? ≠ some 0x20 ∧
      (∀ byte ∈ name, byte ≠ 0x5F ∧ byte ≠ 0x2D) ∧
      ∀ other : Buffer, name.length < other.length →
        Buffer.Leaves (uiThemeHumanizeName other (some name)) other.length name := by
  have hnul := cString_noNul source
  have hname := noNul_humanized hnul
  have hsettled := humanized_settled hnul
  have hlength := length_spacedText_le 0 (cString source)
  refine ⟨humanized (cString source), uiThemeHumanizeName_humanized (by omega), hname, ?_,
    getLast?_humanized_ne_space _, fun byte hbyte => ?_, fun other hother => ?_⟩
  · have hcontent := content_capitalized (withoutEndSpaces (spacedText 0 (cString source)))
    rwa [content_withoutEndSpaces, content_spacedText] at hcontent
  · simpa [isJoiner] using hsettled.joiner_of_mem byte hbyte
  · have hagain := @uiThemeHumanizeName_humanized (humanized (cString source)) other
    rw [cString_of_noNul hname, hsettled.spacedText_eq, humanized_humanized hnul] at hagain
    exact hagain hother

/-- A name in a buffer of the size that is asked for. -/
theorem uiThemeHumanizeName_content_pump :
    ∃ name, Buffer.Leaves
        (uiThemeHumanizeName (List.replicate 21 0) (some (ascii "_pump2Flow"))) 21 name ∧
      SameButFirstCase (content (ascii "_pump2Flow")) (content name) := by
  have hsource : cString (ascii "_pump2Flow") = ascii "_pump2Flow" := by decide
  have hroom : 2 * (cString (ascii "_pump2Flow")).length + 1 ≤
      (List.replicate 21 (0 : UInt8)).length := by decide
  obtain ⟨name, hleaves, -, hcontent, -⟩ := uiThemeHumanizeName_content hroom
  rw [hsource] at hcontent
  exact ⟨name, hleaves, hcontent⟩

end CrowPanel.Ui
