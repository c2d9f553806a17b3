import CrowPanel.Settings.UrlDecodeBuffer

/-!
# Looking up a field of a form

`form_get_value` looks from each cursor for the next `&` and, on its own, for the next `=`.  A `=` behind
the `&` belongs to a later segment and is passed over.  So for every body, well formed or not, the
function finds the first segment that has the key in front of its first `=`, and no other.

## Strategy

One pass handles one segment (`formGetValueFrom_segment`).  By induction along the cursors the loop is a
`find?` over the segments of the body (`formGetValueFrom_eq`).  What is then done to the buffer is
`memcpy` and the decoding in place.
-/

namespace CrowPanel.Settings

open Library

/-! ## The function with its buffer -/

/-- `form_get_value`, as it writes into the buffer `out`. -/
def formGetValueIn (body key : Text) (out : Buffer) : Option (Bool × Buffer) :=
  if out.length = 0 then some (false, out)
  else
    match formGetValueFrom key out.length (cString body) with
    | none => (out.store 0 0).map fun out => (false, out)
    | some value =>
        (out.copy 0 value).bind fun out =>
          (out.store value.length 0).bind fun out =>
            (urlDecodeInplaceIn out).map fun out => (true, out)

/-! ## Segments -/

/-- What stands between the ampersands of a body. -/
def segments (body : Text) : List Text :=
  body.splitOnP (· = 0x26)

/-- The text in front of the first equals sign of a segment is the key. -/
def HasKey (key segment : Text) : Prop :=
  0x3D ∈ segment ∧ segment.takeWhile (· ≠ 0x3D) = key

instance (key segment : Text) : Decidable (HasKey key segment) :=
  inferInstanceAs (Decidable (_ ∧ _))

/-- The text behind the first equals sign of a segment. -/
def fieldText (segment : Text) : Text :=
  (segment.dropWhile (· ≠ 0x3D)).drop 1

/-- The first segment with the key. -/
def firstSegment (key body : Text) : Option Text :=
  (segments body).find? fun segment => HasKey key segment

section

variable {key segment cursor following : Text} {outSize : ℕ}

/-- A segment at the end of the body. -/
theorem segments_last (hsegment : 0x26 ∉ segment) : segments segment = [segment] := by
  refine List.splitOnP_eq_singleton fun byte hbyte => ?_
  simpa using fun hsame : byte = 0x26 => hsegment (hsame ▸ hbyte)

/-- A segment in front of an ampersand. -/
theorem segments_append (hsegment : 0x26 ∉ segment) (rest : Text) :
    segments (segment ++ 0x26 :: rest) = segment :: segments rest := by
  refine List.splitOnP_append_cons_of_forall_mem (fun byte hbyte => ?_) _ (by decide) rest
  simpa using fun hsame : byte = 0x26 => hsegment (hsame ▸ hbyte)

theorem takeWhile_field {field : FormField} (hequals : 0x3D ∉ field.name) :
    field.text.takeWhile (· ≠ 0x3D) = field.name ∧ fieldText field.text = field.value := by
  have hname := decide_ne_of_notMem hequals
  unfold fieldText FormField.text
  rw [List.takeWhile_append_of_pos hname, List.dropWhile_append_of_pos hname]
  constructor <;> simp

/-- One pass of the loop, over a segment at the end of the body or before an ampersand. -/
theorem formGetValueFrom_segment (hsegment : 0x26 ∉ segment) {tail : Text}
    (htail : tail = [] ∨ ∃ rest, tail = 0x26 :: rest) (hcursor : segment ++ tail ≠ []) :
    formGetValueFrom key outSize (segment ++ tail) =
      if HasKey key segment then some ((fieldText segment).take (outSize - 1))
      else formGetValueFrom key outSize (tail.drop 1) := by
  by_cases hequals : 0x3D ∈ segment
  · obtain ⟨name, value, rfl, hname⟩ := List.eq_append_cons_of_mem hequals
    obtain ⟨htake, hvalue⟩ := @takeWhile_field ⟨name, value⟩ hname
    have hkey : HasKey key (name ++ 0x3D :: value) ↔ name = key := by
      rw [FormField.text] at htake
      rw [HasKey, and_iff_right hequals, htake]
    simp only [hkey]
    have hfield := @formGetValueFrom_field key outSize ⟨name, value⟩ hname hsegment tail htail
    rw [← hvalue] at hfield
    exact hfield
  · have hkey : ¬ HasKey key segment := fun hkey => hequals hkey.1
    rw [if_neg hkey]
    have hpair := takeWhile_ne_append hsegment htail
    have hfollowing : (segment ++ tail).drop (segment.length + 1) = tail.drop 1 :=
      List.drop_length_add_append 1
    -- an equals sign that is found stands behind the ampersand
    have hsep : ∀ valueSep, (segment ++ tail).findIdx? (· = 0x3D) = some valueSep →
        segment.length < valueSep := by
      intro valueSep hfound
      obtain ⟨hlt, hbyte, -⟩ := List.findIdx?_eq_some_iff_getElem.mp hfound
      by_contra hle
      rw [not_lt] at hle
      rcases hle.lt_or_eq with hless | hsame
      · rw [List.getElem_append_left hless] at hbyte
        exact hequals (of_decide_eq_true hbyte ▸ List.getElem_mem hless)
      · rcases htail with rfl | ⟨rest, rfl⟩
        · rw [List.append_nil] at hlt
          omega
        · rw [List.getElem_append_right hsame.ge] at hbyte
          simp [hsame] at hbyte
    obtain ⟨byte, bytes, hsplit⟩ := List.exists_cons_of_ne_nil hcursor
    rw [hsplit] at hpair hfollowing hsep ⊢
    rw [formGetValueFrom]
    dsimp only
    rw [hpair, hfollowing]
    cases hfound : (byte :: bytes).findIdx? (· = 0x3D) with
    | none => rfl
    | some valueSep => exact if_pos (hsep valueSep hfound)

/-- The loop finds the first segment with the key, and cuts its text to the size of the buffer. -/
theorem formGetValueFrom_eq (key : Text) (outSize : ℕ) (cursor : Text) :
    formGetValueFrom key outSize cursor =
      (firstSegment key cursor).map fun segment => (fieldText segment).take (outSize - 1) := by
  by_cases hcursor : cursor = []
  · subst hcursor
    have hnone : ¬ HasKey key [] := by simp [HasKey]
    rw [formGetValueFrom, firstSegment, segments_last List.not_mem_nil]
    simp [hnone]
  by_cases hampersand : 0x26 ∈ cursor
  · obtain ⟨segment, rest, rfl, hsegment⟩ := List.eq_append_cons_of_mem hampersand
    rw [formGetValueFrom_segment hsegment (.inr ⟨rest, rfl⟩) hcursor, firstSegment,
      segments_append hsegment, List.find?_cons, List.drop_one, List.tail_cons]
    by_cases hkey : HasKey key segment
    · simp [hkey]
    · have hrest := formGetValueFrom_eq key outSize rest
      simpa [hkey, firstSegment] using hrest
  · have hlast := @formGetValueFrom_segment key cursor outSize hampersand [] (.inl rfl)
      (by rwa [List.append_nil])
    rw [List.append_nil, List.drop_nil, formGetValueFrom] at hlast
    rw [hlast, firstSegment, segments_last hampersand, List.find?_cons]
    by_cases hkey : HasKey key cursor <;> simp [hkey]
termination_by cursor.length

theorem hasKey_of_firstSegment {body : Text} (hsegment : firstSegment key body = some segment) :
    segment ∈ segments body ∧ HasKey key segment := by
  unfold firstSegment at hsegment
  exact ⟨List.mem_of_find?_eq_some hsegment, by simpa using List.find?_some hsegment⟩

/-! ## The buffer -/

/-- A segment is a part of the body. -/
theorem mem_of_mem_segments {body : Text} (hsegment : segment ∈ segments body) :
    ∀ byte ∈ segment, byte ∈ body := by
  intro byte hbyte
  by_cases hampersand : 0x26 ∈ body
  · obtain ⟨first, rest, rfl, hfirst⟩ := List.eq_append_cons_of_mem hampersand
    rw [segments_append hfirst, List.mem_cons] at hsegment
    rcases hsegment with rfl | hlater
    · exact List.mem_append_left _ hbyte
    · exact List.mem_append_right _ (List.mem_cons_of_mem _ (mem_of_mem_segments hlater byte hbyte))
  · rw [segments_last hampersand, List.mem_singleton] at hsegment
    exact hsegment ▸ hbyte
termination_by body.length

/-- What is copied of a field is a C string that fits. -/
theorem noNul_of_firstSegment {body : Text} (hsegment : firstSegment key (cString body) = some segment)
    (count : ℕ) : 0 ∉ (fieldText segment).take count := by
  intro hzero
  have hfield := List.mem_of_mem_take hzero
  have hmem := (List.dropWhile_sublist _).subset (List.mem_of_mem_drop hfield)
  exact cString_noNul body (mem_of_mem_segments (hasKey_of_firstSegment hsegment).1 0 hmem)

/-- A field that is found stands decoded in the buffer. -/
theorem formGetValueIn_of_segment {body : Text} {out : Buffer} (hsize : 0 < out.length)
    (hsegment : firstSegment key (cString body) = some segment) :
    ∃ result, formGetValueIn body key out = some (true, result) ∧ result.length = out.length ∧
      result.Holds (urlDecode ((fieldText segment).take (out.length - 1))) := by
  have hnul := noNul_of_firstSegment hsegment (out.length - 1)
  have hlength := List.length_take_le (out.length - 1) (fieldText segment)
  have hfound := formGetValueFrom_eq key out.length (cString body)
  rw [hsegment, Option.map_some] at hfound
  generalize (fieldText segment).take (out.length - 1) = value at hnul hlength hfound ⊢
  obtain ⟨copied, hcopied, hcopiedLength, hholds⟩ :=
    @Buffer.leaves_copy_store out value (by omega)
  have htext : cString copied = value := hholds.cString_eq hnul
  have hterminated : 0 ∈ copied := by
    obtain ⟨rest, rfl⟩ := hholds
    exact List.mem_append_right _ List.mem_cons_self
  obtain ⟨result, hresult, hresultLength, hdecoded⟩ := urlDecodeIn_leaves hterminated
  rw [← urlDecodeInplaceIn_eq] at hresult
  rw [htext] at hdecoded
  refine ⟨result, ?_, hresultLength.trans hcopiedLength, hdecoded⟩
  obtain ⟨middle, hmiddle, hstore⟩ := Option.bind_eq_some_iff.mp hcopied
  rw [formGetValueIn, if_neg (by omega), hfound]
  dsimp only
  rw [hmiddle, Option.bind_some, hstore, Option.bind_some, hresult, Option.map_some]

/-- Without the key the buffer holds the empty text. -/
theorem formGetValueIn_of_none {body : Text} {out : Buffer} (hsize : 0 < out.length)
    (hnone : firstSegment key (cString body) = none) :
    ∃ result, formGetValueIn body key out = some (false, result) ∧ result.length = out.length ∧
      result.Holds [] := by
  have hfound := formGetValueFrom_eq key out.length (cString body)
  rw [hnone, Option.map_none] at hfound
  obtain ⟨old, rest, rfl⟩ := List.exists_cons_of_length_pos hsize
  rw [formGetValueIn, if_neg (by omega), hfound]
  exact ⟨0 :: rest, rfl, rfl, rest, rfl⟩

/-- **Form lookup.**  For every body the function ends within its buffer.  It finds the key exactly if
some segment has it in front of its first equals sign, and the buffer then holds the text of the first
such segment, cut to the buffer and decoded; otherwise it holds the empty text. -/
theorem formGetValueIn_lookup (body key : Text) (out : Buffer) (hsize : 0 < out.length) :
    ∃ found result, formGetValueIn body key out = some (found, result) ∧
      result.length = out.length ∧
      (found = true ↔ ∃ segment ∈ segments (cString body), HasKey key segment) ∧
      (found = false → result.Holds []) ∧
      ∀ segment, firstSegment key (cString body) = some segment →
        result.Holds (urlDecode ((fieldText segment).take (out.length - 1))) := by
  cases hsegment : firstSegment key (cString body) with
  | none =>
      obtain ⟨result, hrun, hlength, hholds⟩ := formGetValueIn_of_none hsize hsegment
      refine ⟨false, result, hrun, hlength, ?_, fun _ => hholds, fun segment hsome => nomatch hsome⟩
      refine iff_of_false Bool.false_ne_true ?_
      rintro ⟨segment, hmem, hkey⟩
      exact List.find?_eq_none.mp hsegment segment hmem (decide_eq_true hkey)
  | some segment =>
      obtain ⟨result, hrun, hlength, hholds⟩ := formGetValueIn_of_segment hsize hsegment
      refine ⟨true, result, hrun, hlength, iff_of_true rfl ?_, ?_, ?_⟩
      · exact ⟨segment, hasKey_of_firstSegment hsegment⟩
      · intro hfalse
        cases hfalse
      · intro other hother
        obtain rfl := Option.some.inj hother
        exact hholds

/-- A body with a segment that only shares a beginning with the key, one without an equals sign, and
two with the key. -/
theorem formGetValueIn_lookup_password :
    ∃ found result,
      formGetValueIn (ascii "pass=1&pa&password=a%20&password=b") (ascii "password")
          [1, 2, 3, 4, 5, 6] = some (found, result) ∧
        result.Holds (urlDecode (ascii "a%20")) := by
  have hfirst : firstSegment (ascii "password")
      (cString (ascii "pass=1&pa&password=a%20&password=b")) = some (ascii "password=a%20") := by
    decide +kernel
  obtain ⟨found, result, hrun, -, -, -, hholds⟩ :=
    formGetValueIn_lookup (ascii "pass=1&pa&password=a%20&password=b") (ascii "password")
      [1, 2, 3, 4, 5, 6] (by decide)
  exact ⟨found, result, hrun, hholds _ hfirst⟩

end

/-- A reader of the buffer sees what the portal goes on with. -/
theorem cString_formGetValueIn (body key : Text) (out : Buffer) [hpositive : NeZero out.length] :
    (formGetValueIn body key out).map (fun result => (result.1, cString result.2)) =
      some ((formGetValue body key out.length).1, (formGetValue body key out.length).2.text) := by
  have hsize : 0 < out.length := Nat.pos_of_ne_zero hpositive.out
  rw [formGetValue, formGetValueFrom_eq]
  cases hsegment : firstSegment key (cString body) with
  | none =>
      obtain ⟨result, hrun, -, hholds⟩ := formGetValueIn_of_none hsize hsegment
      rw [hrun, Option.map_some, hholds.cString_buffer]
      rfl
  | some segment =>
      obtain ⟨result, hrun, -, hholds⟩ := formGetValueIn_of_segment hsize hsegment
      rw [hrun, Option.map_some, hholds.cString_buffer]
      have hcopied := List.length_take_le (out.length - 1) (fieldText segment)
      rw [Option.map_some]
      generalize (fieldText segment).take (out.length - 1) = value at hcopied ⊢
      have hdecoded := length_urlDecode_le value
      have hread : (cString (urlDecode value)).length ≤ (urlDecode value).length :=
        (List.takeWhile_sublist _).length_le
      have hwhole : (cString (urlDecode value)).take (out.length - 1) = cString (urlDecode value) :=
        List.take_of_length_le (by omega)
      exact congrArg (fun text => some (true, text)) hwhole.symm

end CrowPanel.Settings
