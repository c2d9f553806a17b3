import CrowPanel.Library.CText

/-!
# Forms in URL encoding

`application/x-www-form-urlencoded` as a relation: `Encodes text encoded` says that `encoded` stands
for `text`.  Any byte may be escaped, with digits of either case, and a space may be a plus sign, so a
text has many encodings.  A decoder is given by what it does to each code (`IsDecoder`), and it inverts
every encoding (`IsDecoder.decode_encodes`).

A decoder that gets only a part of an encoding can be led astray by half an escape.
`IsDecoder.decode_take_iff` says when it still finds the whole text.
-/

namespace CrowPanel.Library

/-! ## Codes -/

/-- The value of a hexadecimal digit. -/
def hexDigit? (byte : UInt8) : Option UInt8 :=
  if 0x30 ≤ byte ∧ byte ≤ 0x39 then some (byte - 0x30)
  else if 0x41 ≤ byte ∧ byte ≤ 0x46 then some (byte - 0x37)
  else if 0x61 ≤ byte ∧ byte ≤ 0x66 then some (byte - 0x57)
  else none

/-- The ways to write a byte. -/
inductive Code : UInt8 → Text → Prop
  | plain {byte : UInt8} (hpercent : byte ≠ 0x25) (hplus : byte ≠ 0x2B) : Code byte [byte]
  | plus : Code 0x20 [0x2B]
  | escape {high low first second : UInt8} (hhigh : hexDigit? high = some first)
      (hlow : hexDigit? low = some second) : Code (16 * first + second) [0x25, high, low]

/-- The second text stands for the first. -/
inductive Encodes : Text → Text → Prop
  | nil : Encodes [] []
  | cons {byte : UInt8} {code text encoded : Text} (hcode : Code byte code)
      (hrest : Encodes text encoded) : Encodes (byte :: text) (code ++ encoded)

section

variable {byte : UInt8} {code text encoded rest : Text}

/-- A digit is one of three ranges of bytes. -/
theorem hexDigit?_toNat {byte value : UInt8} (hdigit : hexDigit? byte = some value) :
    value.toNat < 10 ∧ byte.toNat = value.toNat + 0x30 ∨
      10 ≤ value.toNat ∧ value.toNat < 16 ∧
        (byte.toNat = value.toNat + 0x37 ∨ byte.toNat = value.toNat + 0x57) := by
  have hoffset : ∀ {first last offset : UInt8}, first ≤ byte ∧ byte ≤ last → offset ≤ first →
      (byte - offset).toNat = byte.toNat - offset.toNat ∧ first.toNat ≤ byte.toNat ∧
        byte.toNat ≤ last.toNat := fun hrange hle =>
    ⟨UInt8.toNat_sub_of_le _ _ (UInt8.le_trans hle hrange.1), UInt8.le_iff_toNat_le.mp hrange.1,
      UInt8.le_iff_toNat_le.mp hrange.2⟩
  unfold hexDigit? at hdigit
  split_ifs at hdigit with hdecimal hupper hlower
  · obtain rfl := Option.some.inj hdigit
    have hvalue := hoffset hdecimal (by decide : (0x30 : UInt8) ≤ 0x30)
    simp at hvalue ⊢
    omega
  · obtain rfl := Option.some.inj hdigit
    have hvalue := hoffset hupper (by decide : (0x37 : UInt8) ≤ 0x41)
    simp at hvalue ⊢
    omega
  · obtain rfl := Option.some.inj hdigit
    have hvalue := hoffset hlower (by decide : (0x57 : UInt8) ≤ 0x61)
    simp at hvalue ⊢
    omega

/-- A byte with two decimal digits has one escape only. -/
theorem escape_decimal {high low first second : UInt8} (hhigh : hexDigit? high = some first)
    (hlow : hexDigit? low = some second) (hbyte : 16 * first + second = byte)
    (hdecimal : byte.toNat / 16 < 10 ∧ byte.toNat % 16 < 10) :
    high.toNat = byte.toNat / 16 + 0x30 ∧ low.toNat = byte.toNat % 16 + 0x30 := by
  have hfirst := hexDigit?_toNat hhigh
  have hsecond := hexDigit?_toNat hlow
  have hsum : (16 * first.toNat + second.toNat) % 256 = byte.toNat := by
    rw [← hbyte, UInt8.toNat_add, UInt8.toNat_mul]
    simp
  omega

theorem escape_percent {high low first second : UInt8} (hhigh : hexDigit? high = some first)
    (hlow : hexDigit? low = some second) (hbyte : 16 * first + second = 0x25) :
    high = 0x32 ∧ low = 0x35 := by
  obtain ⟨hhighNat, hlowNat⟩ := escape_decimal hhigh hlow hbyte (by decide)
  exact ⟨UInt8.toNat_inj.mp hhighNat, UInt8.toNat_inj.mp hlowNat⟩

/-- What can stand in a code. -/
theorem Code.mem (hcode : Code byte code) {other : UInt8} (hmem : other ∈ code) :
    other = byte ∨ other = 0x2B ∨ other = 0x25 ∨ (hexDigit? other).isSome = true := by
  cases hcode with
  | plain => exact .inl (by simpa using hmem)
  | plus => exact .inr (.inl (by simpa using hmem))
  | escape hhigh hlow =>
      simp only [List.mem_cons, List.not_mem_nil, or_false] at hmem
      rcases hmem with rfl | rfl | rfl
      · exact .inr (.inr (.inl rfl))
      · exact .inr (.inr (.inr (by simp [hhigh])))
      · exact .inr (.inr (.inr (by simp [hlow])))

/-- What can stand in an encoding. -/
theorem Encodes.mem (hencodes : Encodes text encoded) {other : UInt8} (hmem : other ∈ encoded) :
    other ∈ text ∨ other = 0x2B ∨ other = 0x25 ∨ (hexDigit? other).isSome = true := by
  induction hencodes with
  | nil => simp at hmem
  | cons hcode _ ih =>
      rcases List.mem_append.mp hmem with hcodeMem | hrest
      · rcases hcode.mem hcodeMem with rfl | hother
        · exact .inl List.mem_cons_self
        · exact .inr hother
      · exact (ih hrest).imp_left (List.mem_cons_of_mem _)

theorem Encodes.noNul (hencodes : Encodes text encoded) (hnul : 0 ∉ text) : 0 ∉ encoded := by
  intro hmem
  rcases hencodes.mem hmem with h | h | h | h
  · exact hnul h
  · exact absurd h (by decide)
  · exact absurd h (by decide)
  · exact absurd h (by decide)

/-- A text without the two special signs stands for itself. -/
theorem Encodes.self (hplain : ∀ byte ∈ text, byte ≠ 0x25 ∧ byte ≠ 0x2B) : Encodes text text := by
  induction text with
  | nil => exact .nil
  | cons byte text ih =>
      have hbyte := hplain byte List.mem_cons_self
      exact .cons (.plain hbyte.1 hbyte.2) (ih fun other hother =>
        hplain other (List.mem_cons_of_mem _ hother))

/-- A digit for a value below 16. -/
def upperHexDigit (value : UInt8) : UInt8 :=
  if value < 10 then 0x30 + value else 0x37 + value

/-- The encoding that escapes every byte. -/
def percentEncode : Text → Text
  | [] => []
  | byte :: text =>
      0x25 :: upperHexDigit (byte / 16) :: upperHexDigit (byte % 16) :: percentEncode text

theorem hexDigit?_upperHexDigit {value : UInt8} (hlt : value.toNat < 16) :
    hexDigit? (upperHexDigit value) = some value := by
  have hall : ∀ digit : Fin 16,
      hexDigit? (upperHexDigit (UInt8.ofNat digit)) = some (UInt8.ofNat digit) := by decide
  simpa using hall ⟨value.toNat, hlt⟩

theorem encodes_percentEncode (text : Text) : Encodes text (percentEncode text) := by
  induction text with
  | nil => exact .nil
  | cons byte text ih =>
      have hbound := byte.toNat_lt
      have hhigh : (byte / 16).toNat < 16 := by
        rw [UInt8.toNat_div]
        exact Nat.div_lt_of_lt_mul hbound
      have hlow : (byte % 16).toNat < 16 := by
        rw [UInt8.toNat_mod]
        exact Nat.mod_lt _ (by decide)
      have hbyte : 16 * (byte / 16) + byte % 16 = byte := by
        rw [← UInt8.toNat_inj]
        simp only [UInt8.toNat_add, UInt8.toNat_mul, UInt8.toNat_div, UInt8.toNat_mod,
          UInt8.reduceToNat]
        omega
      have hcode := Code.escape (hexDigit?_upperHexDigit hhigh) (hexDigit?_upperHexDigit hlow)
      rw [hbyte] at hcode
      exact .cons hcode ih

theorem Encodes.eq_nil (hencodes : Encodes [] encoded) : encoded = [] := by
  cases hencodes
  rfl

/-- A percent sign always begins a code. -/
theorem Encodes.split_percent {front : Text}
    (hencodes : Encodes text (front ++ 0x25 :: rest)) :
    ∃ first last, text = first ++ last ∧ Encodes first front ∧ Encodes last (0x25 :: rest) := by
  generalize hwhole : front ++ 0x25 :: rest = whole at hencodes
  induction hencodes generalizing front with
  | nil => simp at hwhole
  | @cons byte code text encoded hcode hrest ih =>
      cases front with
      | nil =>
          rw [List.nil_append] at hwhole
          exact ⟨[], byte :: text, rfl, .nil, by rw [hwhole]; exact .cons hcode hrest⟩
      | cons head front =>
          -- the code ends before the percent sign, which is neither of its digits
          have hfront : ∃ later, head :: front = code ++ later := by
            cases hcode with
            | plain | plus =>
                rw [(List.cons.inj hwhole).1]
                exact ⟨front, rfl⟩
            | escape hhigh hlow =>
                rcases front with _ | ⟨second, _ | ⟨third, front⟩⟩ <;>
                  simp only [List.cons_append, List.nil_append, List.cons.injEq] at hwhole
                · rw [← hwhole.2.1] at hhigh
                  cases hhigh
                · rw [← hwhole.2.2.1] at hlow
                  cases hlow
                · rw [hwhole.1, hwhole.2.1, hwhole.2.2.1]
                  exact ⟨front, rfl⟩
          obtain ⟨later, hlater⟩ := hfront
          rw [hlater, List.append_assoc, List.append_cancel_left_eq] at hwhole
          obtain ⟨first, last, htext, hfirst, hlast⟩ := ih hwhole
          exact ⟨byte :: first, last, by rw [htext, List.cons_append], hlater ▸ .cons hcode hfirst,
            hlast⟩

theorem encodes_two (hencodes : Encodes [0x32] encoded) :
    encoded = [0x32] ∨ encoded = ascii "%32" := by
  obtain _ | ⟨hcode, hrest⟩ := hencodes
  rw [hrest.eq_nil, List.append_nil]
  generalize hbyte : (0x32 : UInt8) = byte at hcode
  cases hcode with
  | plain => exact .inl rfl
  | plus => cases hbyte
  | @escape high low _ _ hhigh hlow =>
      obtain ⟨hhighNat, hlowNat⟩ := escape_decimal hhigh hlow hbyte.symm (by decide)
      obtain rfl : high = 0x33 := UInt8.toNat_inj.mp hhighNat
      obtain rfl : low = 0x32 := UInt8.toNat_inj.mp hlowNat
      exact .inr rfl

/-- The code in which a place lies. -/
theorem Encodes.exists_code (hencodes : Encodes text encoded) {place : ℕ}
    (hplace : place < encoded.length) :
    ∃ first byte last front code back, text = first ++ byte :: last ∧
      encoded = front ++ (code ++ back) ∧ Encodes first front ∧ Code byte code ∧
        Encodes last back ∧ front.length ≤ place ∧ place < front.length + code.length := by
  induction hencodes generalizing place with
  | nil => simp at hplace
  | @cons byte code text encoded hcode hrest ih =>
      by_cases hwithin : place < code.length
      · exact ⟨[], byte, text, [], code, encoded, rfl, rfl, .nil, hcode, hrest, Nat.zero_le _, by
          simpa using hwithin⟩
      · have hlater : place - code.length < encoded.length := by
          rw [List.length_append] at hplace
          omega
        obtain ⟨first, other, last, front, otherCode, back, htext, hencoded, hfirst, hother, hlast,
          hle, hlt⟩ := ih hlater
        refine ⟨byte :: first, other, last, code ++ front, otherCode, back, by rw [htext]; rfl,
          by rw [hencoded, List.append_assoc], .cons hcode hfirst, hother, hlast, ?_, ?_⟩
        · rw [List.length_append]
          omega
        · rw [List.length_append]
          omega

/-! ## Decoders -/

/-- What a decoder makes of a code, and of a percent sign that begins none. -/
structure IsDecoder (decode : Text → Text) : Prop where
  nil : decode [] = []
  code : ∀ {byte : UInt8} {code : Text} (rest : Text), Code byte code →
    decode (code ++ rest) = byte :: decode rest
  broken : ∀ {rest : Text}, (∀ high low tail, rest = high :: low :: tail →
    hexDigit? high = none ∨ hexDigit? low = none) → decode (0x25 :: rest) = 0x25 :: decode rest

/-- The encoding up to some place stands for the whole text: nothing is cut off, or the cut goes
through the escape of a percent sign, and what it leaves of the escape is the end of the text. -/
def HarmlessCut (count : ℕ) (encoded : Text) : Prop :=
  encoded.length ≤ count ∨ ∃ front,
    front.length + 1 = count ∧ encoded = front ++ ascii "%25" ∨
      front.length + 2 = count ∧
        (encoded = front ++ ascii "%252" ∨ encoded = front ++ ascii "%25%32")

namespace IsDecoder

variable {decode : Text → Text} (hdecode : IsDecoder decode)

include hdecode

theorem decode_append (hencodes : Encodes text encoded) (rest : Text) :
    decode (encoded ++ rest) = text ++ decode rest := by
  induction hencodes with
  | nil => rfl
  | cons hcode _ ih => rw [List.append_assoc, hdecode.code _ hcode, ih, List.cons_append]

/-- Decoding inverts every encoding. -/
theorem decode_encodes (hencodes : Encodes text encoded) : decode encoded = text := by
  have happend := hdecode.decode_append hencodes []
  rwa [List.append_nil, hdecode.nil, List.append_nil] at happend

theorem decode_percent : decode [0x25] = [0x25] := by
  rw [hdecode.broken (by simp), hdecode.nil]

theorem decode_escaped_percent (rest : Text) :
    decode (ascii "%25" ++ rest) = 0x25 :: decode rest :=
  hdecode.code rest (@Code.escape 0x32 0x35 2 5 (by decide) (by decide))

/-- A percent sign and one digit are taken as they are. -/
theorem decode_half {digit value : UInt8} (hdigit : hexDigit? digit = some value) :
    decode [0x25, digit] = [0x25, digit] := by
  have hpercent : digit ≠ 0x25 := by
    rintro rfl
    cases hdigit
  have hplus : digit ≠ 0x2B := by
    rintro rfl
    cases hdigit
  have hcode := hdecode.code [] (Code.plain hpercent hplus)
  rw [List.append_nil, hdecode.nil] at hcode
  rw [hdecode.broken (by simp), hcode]

/-- What is decoded from a part of an encoding: the codes before the cut, and then what the cut leaves
of an escape. -/
theorem decode_take_cases (hencodes : Encodes text encoded) {count : ℕ}
    (hcut : count < encoded.length) :
    ∃ first byte last front back, text = first ++ byte :: last ∧ Encodes last back ∧
      (decode (encoded.take count) = first ∨
        ∃ high low high' low', hexDigit? high = some high' ∧ hexDigit? low = some low' ∧
          16 * high' + low' = byte ∧ encoded = front ++ 0x25 :: high :: low :: back ∧
            (front.length + 1 = count ∧ decode (encoded.take count) = first ++ [0x25] ∨
              front.length + 2 = count ∧
                decode (encoded.take count) = first ++ [0x25, high])) := by
  obtain ⟨first, byte, last, front, code, back, rfl, rfl, hfirst, hcode, hlast, hle, hlt⟩ :=
    hencodes.exists_code hcut
  refine ⟨first, byte, last, front, back, rfl, hlast, ?_⟩
  have hkept : count - front.length ≤ code.length := by omega
  rw [List.take_append, List.take_of_length_le hle, List.take_append_of_le_length hkept,
    hdecode.decode_append hfirst]
  generalize hplace : count - front.length = place
  cases hcode with
  | plain | plus =>
      have hzero : place = 0 := by
        simp only [List.length_singleton] at hlt
        omega
      rw [hzero, List.take_zero, hdecode.nil, List.append_nil]
      exact .inl rfl
  | @escape high low high' low' hhigh hlow =>
      have hthree : place < 3 := by
        simp only [List.length_cons, List.length_nil] at hlt
        omega
      obtain rfl | rfl | rfl : place = 0 ∨ place = 1 ∨ place = 2 := by omega
      · rw [List.take_zero, hdecode.nil, List.append_nil]
        exact .inl rfl
      · exact .inr ⟨high, low, high', low', hhigh, hlow, rfl, rfl, .inl ⟨by omega,
          congrArg (first ++ ·) hdecode.decode_percent⟩⟩
      · exact .inr ⟨high, low, high', low', hhigh, hlow, rfl, rfl, .inr ⟨by omega,
          congrArg (first ++ ·) (hdecode.decode_half hhigh)⟩⟩

/-- No part of an encoding brings in a NUL. -/
theorem decode_take_noNul (hencodes : Encodes text encoded) (hnul : 0 ∉ text) (count : ℕ) :
    0 ∉ decode (encoded.take count) := by
  by_cases hwhole : encoded.length ≤ count
  · rwa [List.take_of_length_le hwhole, hdecode.decode_encodes hencodes]
  · obtain ⟨first, byte, last, front, back, rfl, -, hdecoded⟩ :=
      hdecode.decode_take_cases hencodes (not_le.mp hwhole)
    have hfirst : 0 ∉ first := fun hmem => hnul (List.mem_append_left _ hmem)
    rcases hdecoded with hdecoded | ⟨high, low, _, _, hhigh, -, -, -, ⟨-, hdecoded⟩ | ⟨-, hdecoded⟩⟩
    · rwa [hdecoded]
    · simpa [hdecoded] using hfirst
    · have hzero : 0 ≠ high := by
        rintro rfl
        cases hhigh
      simpa [hdecoded, hzero] using hfirst

theorem decode_take_iff (hencodes : Encodes text encoded) (count : ℕ) :
    decode (encoded.take count) = text ↔ HarmlessCut count encoded := by
  constructor
  · intro hdecoded
    by_cases hwhole : encoded.length ≤ count
    · exact .inl hwhole
    -- the cut is inside the code of `byte`
    obtain ⟨first, byte, last, front, back, rfl, hlast, hcases⟩ :=
      hdecode.decode_take_cases hencodes (not_le.mp hwhole)
    rw [hdecoded] at hcases
    rcases hcases with hnone | ⟨high, low, _, _, hhigh, hlow, hbyte, rfl, hhalf⟩
    · simp at hnone
    -- the half escape is read as it stands, so `byte` is a percent sign
    rcases hhalf with ⟨hplace, hleft⟩ | ⟨hplace, hleft⟩ <;>
      rw [List.append_cancel_left_eq, List.cons.injEq] at hleft <;>
      obtain ⟨rfl, rfl⟩ := hleft <;>
      obtain ⟨rfl, rfl⟩ := escape_percent hhigh hlow hbyte
    · rw [hlast.eq_nil]
      exact .inr ⟨front, .inl ⟨hplace, rfl⟩⟩
    · refine .inr ⟨front, .inr ⟨hplace, ?_⟩⟩
      rcases encodes_two hlast with rfl | rfl
      · exact .inl rfl
      · exact .inr rfl
  · rintro (hwhole | ⟨front, ⟨rfl, rfl⟩ | ⟨rfl, hencoded⟩⟩)
    · rw [List.take_of_length_le hwhole]
      exact hdecode.decode_encodes hencodes
    · obtain ⟨first, last, rfl, hfirst, hlast⟩ := hencodes.split_percent
      have hkept : (front ++ ascii "%25").take (front.length + 1) = front ++ [0x25] := by
        rw [List.take_length_add_append]
        rfl
      have hlastText : last = [0x25] := by
        rw [← hdecode.decode_encodes hlast]
        exact (hdecode.decode_escaped_percent []).trans (by rw [hdecode.nil])
      rw [hkept, hdecode.decode_append hfirst, hdecode.decode_percent, hlastText]
    · obtain ⟨tail, hdigit, rfl⟩ : ∃ tail, Encodes [0x32] tail ∧
          encoded = front ++ (ascii "%25" ++ tail) := by
        rcases hencoded with rfl | rfl
        · exact ⟨[0x32], .self (by decide), rfl⟩
        · exact ⟨ascii "%32", .cons (@Code.escape 0x33 0x32 3 2 (by decide) (by decide)) .nil, rfl⟩
      obtain ⟨first, last, rfl, hfirst, hlast⟩ := hencodes.split_percent
      have hlastText : last = [0x25, 0x32] := by
        rw [← hdecode.decode_encodes hlast]
        exact (hdecode.decode_escaped_percent tail).trans (by rw [hdecode.decode_encodes hdigit])
      have hkept : (front ++ (ascii "%25" ++ tail)).take (front.length + 2) =
          front ++ [0x25, 0x32] := by
        rw [List.take_length_add_append]
        rfl
      have hhalf : decode [0x25, 0x32] = [0x25, 0x32] :=
        @decode_half _ hdecode 0x32 2 (by decide)
      rw [hkept, hdecode.decode_append hfirst, hhalf, hlastText]

end IsDecoder

end

/-! ## Forms -/

/-- A name and a value, as they stand in a form. -/
structure FormField where
  name : Text
  value : Text
  deriving DecidableEq

namespace FormField

/-- The field as a part of the form. -/
def text (field : FormField) : Text :=
  field.name ++ 0x3D :: field.value

/-- The signs that separate fields and names, and NUL, do not stand in the field. -/
structure Separate (field : FormField) : Prop where
  equals_name : 0x3D ∉ field.name
  ampersand_name : 0x26 ∉ field.name
  ampersand_value : 0x26 ∉ field.value
  nul_name : 0 ∉ field.name
  nul_value : 0 ∉ field.value

instance (field : FormField) : Decidable field.Separate :=
  decidable_of_iff (0x3D ∉ field.name ∧ 0x26 ∉ field.name ∧ 0x26 ∉ field.value ∧
      0 ∉ field.name ∧ 0 ∉ field.value)
    ⟨fun h => ⟨h.1, h.2.1, h.2.2.1, h.2.2.2.1, h.2.2.2.2⟩,
      fun h => ⟨h.equals_name, h.ampersand_name, h.ampersand_value, h.nul_name, h.nul_value⟩⟩

theorem Separate.ampersand_text {field : FormField} (hseparate : field.Separate) :
    0x26 ∉ field.text := by
  simp [text, hseparate.ampersand_name, hseparate.ampersand_value]

theorem Separate.nul_text {field : FormField} (hseparate : field.Separate) : 0 ∉ field.text := by
  simp [text, hseparate.nul_name, hseparate.nul_value]

end FormField

/-- The fields one after the other. -/
def formBody : List FormField → Text
  | [] => []
  | [field] => field.text
  | field :: next :: fields => field.text ++ 0x26 :: formBody (next :: fields)

theorem formBody_noNul {fields : List FormField} (hseparate : ∀ field ∈ fields, field.Separate) :
    0 ∉ formBody fields := by
  fun_induction formBody fields with
  | case1 => simp
  | case2 field => exact (hseparate field List.mem_cons_self).nul_text
  | case3 field next fields ih =>
      have hfield := (hseparate field List.mem_cons_self).nul_text
      have hrest := ih fun other hother => hseparate other (List.mem_cons_of_mem _ hother)
      simp [hfield, hrest]

/-- The form has one field with the key, and it carries the value. -/
structure Carries (fields : List FormField) (key value : Text) (field : FormField) : Prop where
  mem : field ∈ fields
  name : Encodes key field.name
  value : Encodes value field.value
  only : ∀ other ∈ fields, Encodes key other.name → other = field

/-- A search for the key as it stands finds the field if its name is not encoded. -/
theorem Carries.find? {fields : List FormField} {key value : Text} {field : FormField}
    (hcarries : Carries fields key value field)
    (hplain : ∀ byte ∈ key, byte ≠ 0x25 ∧ byte ≠ 0x2B) :
    fields.find? (fun other => other.name = key) = if field.name = key then some field else none := by
  have honly : ∀ other ∈ fields, other.name = key → other = field := by
    intro other hother hname
    refine hcarries.only other hother ?_
    rw [hname]
    exact .self hplain
  split
  · next hname =>
      cases hfind : fields.find? (fun other => other.name = key) with
      | none => exact absurd (List.find?_eq_none.mp hfind field hcarries.mem) (by simpa using hname)
      | some found =>
          have hfound : found.name = key := by simpa using List.find?_some hfind
          rw [honly found (List.mem_of_find?_eq_some hfind) hfound]
  · next hname =>
      rw [List.find?_eq_none]
      intro other hother hsame
      have hkey : other.name = key := by simpa using hsame
      exact hname (honly other hother hkey ▸ hkey)

end CrowPanel.Library
