import CrowPanel.Library.Buffer
import CrowPanel.Settings.CredentialForm
import Mathlib.Logic.Relation

/-!
# Decoding in place

`url_decode_inplace` and `url_decode` read and write one buffer.  Both have a position for each, and an
escape is looked at up to two bytes ahead of the position where the loop reads.

## Strategy

Each function is a loop over a step.  `DecodeStep` is what the loop needs of its step to end: it goes on,
in the same buffer.  `Sound` is the invariant: the loop writes behind where it reads, what it has not
read is as it was, and what it has written followed by the decoding of the rest is the decoding of the
whole.  One step keeps it (`Sound.step`), so every run does (`sound_of_reaches`), and at the terminator
it is the result (`decodeLoop_leaves`).
-/

namespace CrowPanel.Settings

open Library Relation

/-! ## The two functions -/

/-- The buffer and the positions of `src` and `dst` in it. -/
structure Decoding where
  buffer : Buffer
  src : ℕ
  dst : ℕ

/-- A byte is stored behind `dst`, and `src` goes on. -/
def Decoding.put (state : Decoding) (byte : UInt8) (count : ℕ) : Option Decoding :=
  (state.buffer.store state.dst byte).map fun buffer =>
    ⟨buffer, state.src + count, state.dst + 1⟩

/-- `*src == '%' && isxdigit(src[1]) && isxdigit(src[2])`; a byte that decides is the last one that is
read. -/
def Decoding.atEscape (state : Decoding) (byte : UInt8) : Option Bool :=
  if byte ≠ 0x25 then some false
  else
    (state.buffer.load (state.src + 1)).bind fun high =>
      if isHexDigit high = false then some false
      else (state.buffer.load (state.src + 2)).map isHexDigit

/-- `(char)strtol(hex, NULL, 16)` for the two digits behind `src`. -/
def Decoding.escaped (state : Decoding) : Option UInt8 :=
  (state.buffer.load (state.src + 1)).bind fun high =>
    (state.buffer.load (state.src + 2)).map fun low => 16 * hexValue high + hexValue low

/-- The body of the loop of `url_decode_inplace`. -/
def urlDecodeInplaceStep (state : Decoding) : Option Decoding := do
  let byte ← state.buffer.load state.src
  if byte = 0x2B then
    return ← state.put 0x20 1
  if ← state.atEscape byte then
    return ← state.put (← state.escaped) 3
  state.put byte 1

/-- The body of the loop of `url_decode`. -/
def urlDecodeStep (state : Decoding) : Option Decoding :=
  (state.buffer.load state.src).bind fun byte =>
    if byte = 0x2B then state.put 0x20 1
    else
      (state.atEscape byte).bind fun escape =>
        if escape then state.escaped.bind fun decoded => state.put decoded 3
        else state.put byte 1

theorem urlDecodeInplaceStep_eq (state : Decoding) :
    urlDecodeInplaceStep state = urlDecodeStep state := by
  unfold urlDecodeInplaceStep urlDecodeStep
  cases state.buffer.load state.src with
  | none => rfl
  | some byte =>
      by_cases hplus : byte = 0x2B
      · simp [hplus]
      · cases hescape : state.atEscape byte with
        | none => simp [hplus, hescape]
        | some escape => cases escape <;> simp [hplus, hescape]

/-! ## One step -/

section

variable {state next : Decoding} {byte high low : UInt8} {count : ℕ} {rest : Text}

theorem put_eq_some_iff :
    state.put byte count = some next ↔
      ∃ buffer, state.buffer.store state.dst byte = some buffer ∧
        next = ⟨buffer, state.src + count, state.dst + 1⟩ := by
  rw [Decoding.put, Option.map_eq_some_iff]
  exact exists_congr fun buffer => and_congr_right fun _ => eq_comm

theorem hexDigit?_of_not_isHexDigit (hbyte : isHexDigit byte = false) : hexDigit? byte = none := by
  rw [hexDigit?_eq, hbyte]
  rfl

theorem ne_zero_of_isHexDigit (hbyte : isHexDigit byte = true) : byte ≠ 0 := by
  rintro rfl
  cases hbyte

/-- A percent sign whose first or second companion is no digit. -/
theorem urlDecode_percent_of_first (hhigh : isHexDigit high = false) :
    urlDecode (0x25 :: cString (high :: rest)) = 0x25 :: urlDecode (cString (high :: rest)) := by
  refine urlDecode_isDecoder.broken fun first second tail htext => .inl ?_
  by_cases hzero : high = 0
  · rw [hzero, cString_zero_cons] at htext
    cases htext
  · rw [cString_cons hzero] at htext
    rw [← (List.cons.inj htext).1]
    exact hexDigit?_of_not_isHexDigit hhigh

theorem urlDecode_percent_of_second (hhigh : high ≠ 0) (hlow : isHexDigit low = false) :
    urlDecode (0x25 :: cString (high :: low :: rest)) =
      0x25 :: urlDecode (cString (high :: low :: rest)) := by
  refine urlDecode_isDecoder.broken fun first second tail htext => .inr ?_
  rw [cString_cons hhigh] at htext
  by_cases hzero : low = 0
  · rw [hzero, cString_zero_cons] at htext
    simp at htext
  · rw [cString_cons hzero] at htext
    rw [← (List.cons.inj (List.cons.inj htext).2).1]
    exact hexDigit?_of_not_isHexDigit hlow

/-- A step puts the byte for which the first code of the text stands, and goes on behind the code, in
front of the terminator. -/
def StepsOver (state : Decoding) (text : Text) : Prop :=
  ∃ out count, urlDecodeStep state = state.put out count ∧ 0 < count ∧
    0 ∈ state.buffer.drop (state.src + count) ∧
    urlDecode text = out :: urlDecode (cString (state.buffer.drop (state.src + count)))

variable {unread : Text}

theorem load_of_unread (hunread : state.buffer.drop state.src = unread) (count : ℕ) :
    state.buffer.load (state.src + count) = unread[count]? := by
  rw [Buffer.load_add, hunread]

theorem drop_of_unread (hunread : state.buffer.drop state.src = unread) (count : ℕ) :
    state.buffer.drop (state.src + count) = unread.drop count := by
  rw [← List.drop_drop, hunread]

/-- A byte that stands for itself. -/
theorem stepsOver_self (hunread : state.buffer.drop state.src = byte :: rest) (hterminated : 0 ∈ rest)
    (hplus : byte ≠ 0x2B) (hescape : state.atEscape byte = some false)
    (hdecode : urlDecode (byte :: cString rest) = byte :: urlDecode (cString rest)) :
    StepsOver state (byte :: cString rest) := by
  have hfirst : state.buffer.load state.src = some byte := load_of_unread hunread 0
  refine ⟨byte, 1, ?_, Nat.one_pos, ?_, ?_⟩
  · rw [urlDecodeStep, hfirst, Option.bind_some, if_neg hplus, hescape, Option.bind_some,
      if_neg (by decide)]
  · rw [drop_of_unread hunread]
    exact hterminated
  · rw [drop_of_unread hunread]
    exact hdecode

theorem stepsOver_plus (hunread : state.buffer.drop state.src = 0x2B :: rest)
    (hterminated : 0 ∈ rest) : StepsOver state (0x2B :: cString rest) := by
  have hfirst : state.buffer.load state.src = some 0x2B := load_of_unread hunread 0
  refine ⟨0x20, 1, ?_, Nat.one_pos, ?_, ?_⟩
  · rw [urlDecodeStep, hfirst, Option.bind_some, if_pos rfl]
  · rw [drop_of_unread hunread]
    exact hterminated
  · rw [drop_of_unread hunread]
    exact urlDecode_isDecoder.code (cString rest) .plus

/-- The second companion is read only behind a digit. -/
theorem atEscape_of_unread (hunread : state.buffer.drop state.src = 0x25 :: high :: rest) :
    state.atEscape 0x25 =
      if isHexDigit high = false then some false else rest.head?.map isHexDigit := by
  rw [Decoding.atEscape, if_neg (by decide), load_of_unread hunread, load_of_unread hunread,
    List.head?_eq_getElem?]
  rfl

theorem stepsOver_escape (hunread : state.buffer.drop state.src = 0x25 :: high :: low :: rest)
    (hterminated : 0 ∈ rest) (hhigh : isHexDigit high = true) (hlow : isHexDigit low = true) :
    StepsOver state (0x25 :: cString (high :: low :: rest)) := by
  have hfirst : state.buffer.load state.src = some 0x25 := load_of_unread hunread 0
  have hdigits : state.escaped = some (16 * hexValue high + hexValue low) := by
    rw [Decoding.escaped, load_of_unread hunread, load_of_unread hunread]
    rfl
  have hescape : state.atEscape 0x25 = some true := by
    rw [atEscape_of_unread hunread, if_neg (by rw [hhigh]; decide), List.head?_cons,
      Option.map_some, hlow]
  have hdigit {digit : UInt8} (hdigit : isHexDigit digit = true) :
      hexDigit? digit = some (hexValue digit) := by
    rw [hexDigit?_eq, if_pos hdigit]
  refine ⟨16 * hexValue high + hexValue low, 3, ?_, by decide, ?_, ?_⟩
  · rw [urlDecodeStep, hfirst, Option.bind_some, if_neg (by decide), hescape, Option.bind_some,
      if_pos rfl, hdigits, Option.bind_some]
  · rw [drop_of_unread hunread]
    exact hterminated
  · rw [drop_of_unread hunread, cString_cons (ne_zero_of_isHexDigit hhigh),
      cString_cons (ne_zero_of_isHexDigit hlow)]
    exact urlDecode_isDecoder.code (cString rest) (.escape (hdigit hhigh) (hdigit hlow))

/-- Every step in front of the terminator goes on behind a code.  It reads no further than to the
terminator. -/
theorem stepsOver (hunread : state.buffer.drop state.src = byte :: rest) (hbyte : byte ≠ 0)
    (hterminated : 0 ∈ rest) : StepsOver state (cString (byte :: rest)) := by
  rw [cString_cons hbyte]
  by_cases hplus : byte = 0x2B
  · subst hplus
    exact stepsOver_plus hunread hterminated
  by_cases hpercent : byte ≠ 0x25
  · refine stepsOver_self hunread hterminated hplus ?_
      (urlDecode_isDecoder.code (cString rest) (.plain hpercent hplus))
    rw [Decoding.atEscape, if_pos hpercent]
  rw [not_not] at hpercent
  subst hpercent
  -- a companion is there, be it the terminator
  obtain ⟨high, rest, rfl⟩ := List.exists_cons_of_ne_nil (List.ne_nil_of_mem hterminated)
  by_cases hhigh : isHexDigit high = false
  · refine stepsOver_self hunread hterminated hplus ?_ (urlDecode_percent_of_first hhigh)
    rw [atEscape_of_unread hunread, if_pos hhigh]
  rw [Bool.not_eq_false] at hhigh
  have hhighNul := ne_zero_of_isHexDigit hhigh
  have hbehindHigh := (List.mem_cons.mp hterminated).resolve_left (Ne.symm hhighNul)
  obtain ⟨low, rest, rfl⟩ := List.exists_cons_of_ne_nil (List.ne_nil_of_mem hbehindHigh)
  by_cases hlow : isHexDigit low = false
  · refine stepsOver_self hunread hterminated hplus ?_ (urlDecode_percent_of_second hhighNul hlow)
    rw [atEscape_of_unread hunread, if_neg (by rw [hhigh]; decide), List.head?_cons,
      Option.map_some, hlow]
  rw [Bool.not_eq_false] at hlow
  have hbehindLow :=
    (List.mem_cons.mp hbehindHigh).resolve_left (Ne.symm (ne_zero_of_isHexDigit hlow))
  exact stepsOver_escape hunread hbehindLow hhigh hlow

/-- A step that ends has put a byte and gone on. -/
theorem urlDecodeStep_cases (hstep : urlDecodeStep state = some next) :
    ∃ out count, 0 < count ∧ state.put out count = some next := by
  unfold urlDecodeStep at hstep
  obtain ⟨byte, -, hstep⟩ := Option.bind_eq_some_iff.mp hstep
  split at hstep
  · exact ⟨_, _, Nat.one_pos, hstep⟩
  · obtain ⟨escape, -, hstep⟩ := Option.bind_eq_some_iff.mp hstep
    split at hstep
    · obtain ⟨decoded, -, hstep⟩ := Option.bind_eq_some_iff.mp hstep
      exact ⟨_, _, by decide, hstep⟩
    · exact ⟨_, _, Nat.one_pos, hstep⟩

theorem urlDecodeStep_goesOn (hstep : urlDecodeStep state = some next) :
    state.src < next.src ∧ next.buffer.length = state.buffer.length := by
  obtain ⟨out, count, hcount, hput⟩ := urlDecodeStep_cases hstep
  obtain ⟨buffer, hstore, rfl⟩ := put_eq_some_iff.mp hput
  exact ⟨Nat.lt_add_of_pos_right hcount, Buffer.length_of_store hstore⟩

end

/-! ## The loops -/

/-- The body of a loop that goes through a buffer. -/
structure DecodeStep where
  run : Decoding → Option Decoding
  goesOn : ∀ {state next : Decoding}, run state = some next →
    state.src < next.src ∧ next.buffer.length = state.buffer.length

/-- The loop over a step, up to the terminator, and the terminator behind what it has written. -/
def decodeLoop (step : DecodeStep) (state : Decoding) : Option Buffer :=
  match _hload : state.buffer.load state.src with
  | none => none
  | some byte =>
      if byte = 0 then state.buffer.store state.dst 0
      else
        match _hstep : step.run state with
        | none => none
        | some next => decodeLoop step next
termination_by state.buffer.length - state.src
decreasing_by
  obtain ⟨hsrc, hlength⟩ := step.goesOn _hstep
  have hinside := Buffer.lt_of_load _hload
  omega

section

variable {step : DecodeStep} {state next : Decoding} {byte : UInt8}

theorem decodeLoop_end (hload : state.buffer.load state.src = some 0) :
    decodeLoop step state = state.buffer.store state.dst 0 := by
  rw [decodeLoop]
  split
  · next hnone =>
      rw [hload] at hnone
      cases hnone
  · next byte hsome =>
      obtain rfl := Option.some.inj (hload.symm.trans hsome)
      rw [if_pos rfl]

theorem decodeLoop_next (hload : state.buffer.load state.src = some byte) (hbyte : byte ≠ 0)
    (hstep : step.run state = some next) : decodeLoop step state = decodeLoop step next := by
  rw [decodeLoop]
  split
  · next hnone =>
      rw [hload] at hnone
      cases hnone
  · next other hsome =>
      obtain rfl := Option.some.inj (hload.symm.trans hsome)
      rw [if_neg hbyte]
      split
      · next hnone =>
          rw [hstep] at hnone
          cases hnone
      · next later hlater =>
          obtain rfl := Option.some.inj (hstep.symm.trans hlater)
          rfl

end

/-- `url_decode_inplace` -/
def urlDecodeInplaceIn (value : Buffer) : Option Buffer :=
  decodeLoop ⟨urlDecodeInplaceStep, fun hstep =>
    urlDecodeStep_goesOn ((urlDecodeInplaceStep_eq _).symm.trans hstep)⟩ ⟨value, 0, 0⟩

/-- `url_decode` -/
def urlDecodeIn (value : Buffer) : Option Buffer :=
  decodeLoop ⟨urlDecodeStep, urlDecodeStep_goesOn⟩ ⟨value, 0, 0⟩

/-- The two functions do the same to every buffer. -/
theorem urlDecodeInplaceIn_eq (value : Buffer) : urlDecodeInplaceIn value = urlDecodeIn value := by
  have hstep : urlDecodeInplaceStep = urlDecodeStep := funext urlDecodeInplaceStep_eq
  unfold urlDecodeInplaceIn urlDecodeIn
  congr 2

/-- A pass of the loop over a step. -/
def Pass (step : Decoding → Option Decoding) (state next : Decoding) : Prop :=
  (∃ byte, state.buffer.load state.src = some byte ∧ byte ≠ 0) ∧ step state = some next

/-- The states of a run. -/
abbrev Reaches (step : Decoding → Option Decoding) : Decoding → Decoding → Prop :=
  ReflTransGen (Pass step)

/-- The loop writes behind where it reads, and the terminator is ahead.  What it has not read is as it
was, and what it has written goes on with the decoding of that. -/
structure Sound (value : Buffer) (state : Decoding) : Prop where
  behind : state.dst ≤ state.src
  length : state.buffer.length = value.length
  unread : state.buffer.drop state.src = value.drop state.src
  terminated : 0 ∈ value.drop state.src
  decoded : state.buffer.take state.dst ++ urlDecode (cString (value.drop state.src)) =
    urlDecode (cString value)

section

variable {value : Buffer} {state next : Decoding} {byte : UInt8}

theorem sound_start (hterminated : 0 ∈ value) : Sound value ⟨value, 0, 0⟩ where
  behind := Nat.le_refl 0
  length := rfl
  unread := rfl
  terminated := hterminated
  decoded := rfl

theorem Sound.exists_load (hsound : Sound value state) :
    ∃ byte rest, state.buffer.load state.src = some byte ∧
      state.buffer.drop state.src = byte :: rest ∧ (byte ≠ 0 → 0 ∈ rest) := by
  obtain ⟨byte, rest, hrest⟩ := List.exists_cons_of_ne_nil (List.ne_nil_of_mem hsound.terminated)
  have hunread := hsound.unread.trans hrest
  refine ⟨byte, rest, ?_, hunread, fun hbyte => ?_⟩
  · have hload := Buffer.load_add state.buffer state.src 0
    rw [hunread, Nat.add_zero] at hload
    exact hload
  · have hterminated := hsound.terminated
    rw [hrest] at hterminated
    exact (List.mem_cons.mp hterminated).resolve_left (Ne.symm hbyte)

/-- Before the terminator, a step stays within the buffer and keeps the invariant. -/
theorem Sound.step (hsound : Sound value state)
    (hload : state.buffer.load state.src = some byte) (hbyte : byte ≠ 0) :
    ∃ next, urlDecodeStep state = some next ∧ Sound value next := by
  obtain ⟨read, rest, hread, hunread, hterminated⟩ := hsound.exists_load
  obtain rfl := Option.some.inj (hread.symm.trans hload)
  obtain ⟨out, count, hstep, hcount, hahead, hdecode⟩ :=
    stepsOver hunread hbyte (hterminated hbyte)
  have hinside := Buffer.lt_of_load hload
  obtain ⟨buffer, hstore⟩ := Buffer.exists_store (hsound.behind.trans_lt hinside) out
  refine ⟨⟨buffer, state.src + count, state.dst + 1⟩, ?_, ?_⟩
  · rw [hstep]
    exact put_eq_some_iff.mpr ⟨buffer, hstore, rfl⟩
  · have hbehind := hsound.behind
    have hsame : state.buffer.drop (state.src + count) = value.drop (state.src + count) := by
      rw [← List.drop_drop, hsound.unread, List.drop_drop]
    have hlater : buffer.drop (state.src + count) = state.buffer.drop (state.src + count) :=
      Buffer.drop_of_store hstore (by omega)
    exact
      { behind := by
          dsimp only
          omega
        length := (Buffer.length_of_store hstore).trans hsound.length
        unread := hlater.trans hsame
        terminated := hsame ▸ hahead
        decoded := by
          dsimp only
          rw [Buffer.take_of_store hstore, List.append_assoc, List.singleton_append, ← hsame,
            ← hdecode, ← hunread, hsound.unread]
          exact hsound.decoded }

/-- The invariant holds all along a run. -/
theorem sound_of_reaches (hterminated : 0 ∈ value)
    (hreaches : Reaches urlDecodeStep ⟨value, 0, 0⟩ state) : Sound value state := by
  induction hreaches with
  | refl => exact sound_start hterminated
  | tail _ hpass ih =>
      obtain ⟨⟨byte, hload, hbyte⟩, hstep⟩ := hpass
      obtain ⟨next, hnext, hsound⟩ := ih.step hload hbyte
      obtain rfl := Option.some.inj (hnext.symm.trans hstep)
      exact hsound

/-- From a sound state the loop ends at the terminator, with the decoding of the whole. -/
theorem decodeLoop_leaves {state : Decoding} (hsound : Sound value state) :
    Buffer.Leaves (decodeLoop ⟨urlDecodeStep, urlDecodeStep_goesOn⟩ state) value.length
      (urlDecode (cString value)) := by
  obtain ⟨byte, rest, hload, hunread, -⟩ := hsound.exists_load
  have hinside := Buffer.lt_of_load hload
  by_cases hbyte : byte = 0
  · -- nothing is left to decode
    subst hbyte
    rw [decodeLoop_end hload]
    obtain ⟨buffer, hstore⟩ := Buffer.exists_store (hsound.behind.trans_lt hinside) 0
    have hdecoded := hsound.decoded
    rw [← hsound.unread, hunread, cString_zero_cons, urlDecode, List.append_nil] at hdecoded
    refine ⟨buffer, hstore, (Buffer.length_of_store hstore).trans hsound.length,
      buffer.drop (state.dst + 1), ?_⟩
    calc
      buffer = buffer.take (state.dst + 1) ++ buffer.drop (state.dst + 1) :=
        (List.take_append_drop _ _).symm
      _ = urlDecode (cString value) ++ 0 :: buffer.drop (state.dst + 1) := by
        rw [Buffer.take_of_store hstore, hdecoded, List.append_assoc, List.singleton_append]
  · obtain ⟨next, hstep, hnext⟩ := hsound.step hload hbyte
    obtain ⟨hsrc, hlength⟩ := urlDecodeStep_goesOn hstep
    rw [@decodeLoop_next ⟨urlDecodeStep, urlDecodeStep_goesOn⟩ _ _ _ hload hbyte hstep]
    exact decodeLoop_leaves hnext
termination_by state.buffer.length - state.src
decreasing_by omega

/-- Each of the two functions stays within its buffer, ends, and leaves what the text in the buffer
stands for. -/
theorem urlDecodeIn_leaves (hterminated : 0 ∈ value) :
    Buffer.Leaves (urlDecodeIn value) value.length (urlDecode (cString value)) :=
  decodeLoop_leaves (sound_start hterminated)

end

/-- **Decoding in place.**  On every buffer with a terminator both functions end, with the same bytes in
the buffer, and no write of a loop reaches what is still to be read.  They find the text of every
encoding. -/
theorem urlDecodeInplaceIn_spec (value : Buffer) (hterminated : 0 ∈ value) :
    (∃ result, urlDecodeInplaceIn value = some result ∧ urlDecodeIn value = some result) ∧
      (∀ state, Reaches urlDecodeInplaceStep ⟨value, 0, 0⟩ state ∨
          Reaches urlDecodeStep ⟨value, 0, 0⟩ state →
        state.dst ≤ state.src ∧ state.buffer.drop state.src = value.drop state.src) ∧
      ∀ text, Encodes text (cString value) →
        Buffer.Leaves (urlDecodeInplaceIn value) value.length text := by
  obtain ⟨result, hrun, hlength, hholds⟩ := urlDecodeIn_leaves hterminated
  have hsame := (urlDecodeInplaceIn_eq value).trans hrun
  refine ⟨⟨result, hsame, hrun⟩, fun state hreaches => ?_, fun text hencodes => ?_⟩
  · have hstep : urlDecodeInplaceStep = urlDecodeStep := funext urlDecodeInplaceStep_eq
    rw [hstep, or_self] at hreaches
    have hsound := sound_of_reaches hterminated hreaches
    exact ⟨hsound.behind, hsound.unread⟩
  · rw [urlDecode_isDecoder.decode_encodes hencodes] at hholds
    exact ⟨result, hsame, hlength, hholds⟩

/-- An encoding with escapes and a plus sign, in a buffer with bytes behind it. -/
theorem urlDecodeInplaceIn_spec_word :
    0 ∈ percentEncode [0x61, 0x20] ++ [0x2B, 0, 7] ∧
      Buffer.Leaves (urlDecodeInplaceIn (percentEncode [0x61, 0x20] ++ [0x2B, 0, 7])) 9
        [0x61, 0x20, 0x20] := by
  have hterminated : 0 ∈ percentEncode [0x61, 0x20] ++ [0x2B, 0, 7] := by decide
  have hcode := Encodes.cons .plus .nil
  have hencodes : Encodes [0x61, 0x20, 0x20]
      (cString (percentEncode [0x61, 0x20] ++ [0x2B, 0, 7])) :=
    .cons (@Code.escape 0x36 0x31 6 1 (by decide) (by decide))
      (.cons (@Code.escape 0x32 0x30 2 0 (by decide) (by decide)) hcode)
  exact ⟨hterminated, (urlDecodeInplaceIn_spec _ hterminated).2.2 _ hencodes⟩

end CrowPanel.Settings
