import CrowPanel.Library.CText

/-!
# JSON texts

The grammar of JSON over bytes, as a relation between values and the texts that write them.  A value has
many texts: blanks can stand around every token, and the characters of a string can be escaped.

`Writes` treats values, members and the lists of both as one family of forms, so that an induction over
a text is one induction.
-/

namespace CrowPanel.Library

/-- A JSON value.  A number is kept as it is written; the members of an object keep their order, and a
name can occur twice. -/
inductive Json
  | null
  | bool (value : Bool)
  | number (literal : Text)
  | string (text : Text)
  | array (items : List Json)
  | object (members : List (Text × Json))

namespace Json

/-- Insignificant whitespace. -/
def Blank (text : Text) : Prop :=
  ∀ byte ∈ text, byte ∈ [0x20, 0x09, 0x0A, (0x0D : UInt8)]

/-! ## Strings -/

/-- The value of a hexadecimal digit. -/
def hexDigit (byte : UInt8) : Option ℕ :=
  if 0x30 ≤ byte ∧ byte ≤ 0x39 then some (byte.toNat - 0x30)
  else if 0x41 ≤ byte ∧ byte ≤ 0x46 then some (byte.toNat - 0x37)
  else if 0x61 ≤ byte ∧ byte ≤ 0x66 then some (byte.toNat - 0x57)
  else none

/-- Four hexadecimal digits write a number. -/
def FourDigits (digits : Text) (code : ℕ) : Prop :=
  ∃ values : List ℕ, digits.map hexDigit = values.map some ∧ values.length = 4 ∧
    code = values.foldl (fun sum value => 16 * sum + value) 0

/-- The UTF-8 encoding of a code point. -/
def utf8 (code : ℕ) : Text :=
  if code < 0x80 then [code.toUInt8]
  else if code < 0x800 then [(0xC0 + code / 0x40).toUInt8, (0x80 + code % 0x40).toUInt8]
  else if code < 0x10000 then
    [(0xE0 + code / 0x1000).toUInt8, (0x80 + code / 0x40 % 0x40).toUInt8,
      (0x80 + code % 0x40).toUInt8]
  else
    [(0xF0 + code / 0x40000).toUInt8, (0x80 + code / 0x1000 % 0x40).toUInt8,
      (0x80 + code / 0x40 % 0x40).toUInt8, (0x80 + code % 0x40).toUInt8]

/-- The byte that a letter after a backslash stands for. -/
def escaped (letter : UInt8) : Option UInt8 :=
  if letter = 0x22 ∨ letter = 0x5C ∨ letter = 0x2F then some letter
  else if letter = 0x62 then some 0x08
  else if letter = 0x66 then some 0x0C
  else if letter = 0x6E then some 0x0A
  else if letter = 0x72 then some 0x0D
  else if letter = 0x74 then some 0x09
  else none

/-- A byte that stands for itself in a string. -/
def Plain (byte : UInt8) : Prop :=
  0x20 ≤ byte ∧ byte ≠ 0x22 ∧ byte ≠ 0x5C

instance (byte : UInt8) : Decidable (Plain byte) :=
  inferInstanceAs (Decidable (_ ∧ _ ∧ _))

/-- What stands between the quotes of a string, and the string. -/
inductive StringBody : Text → Text → Prop
  | nil : StringBody [] []
  | plain {byte : UInt8} {raw text : Text} (hplain : Plain byte) (hrest : StringBody raw text) :
      StringBody (byte :: raw) (byte :: text)
  | escape {letter byte : UInt8} {raw text : Text} (hescape : escaped letter = some byte)
      (hrest : StringBody raw text) : StringBody (0x5C :: letter :: raw) (byte :: text)
  | unicode {digits raw text : Text} {code : ℕ} (hdigits : FourDigits digits code)
      (hsurrogate : code < 0xD800 ∨ 0xE000 ≤ code) (hrest : StringBody raw text) :
      StringBody (0x5C :: 0x75 :: (digits ++ raw)) (utf8 code ++ text)
  | surrogates {first second raw text : Text} {high low : ℕ} (hfirst : FourDigits first high)
      (hsecond : FourDigits second low) (hhigh : 0xD800 ≤ high ∧ high < 0xDC00)
      (hlow : 0xDC00 ≤ low ∧ low < 0xE000) (hrest : StringBody raw text) :
      StringBody (0x5C :: 0x75 :: (first ++ 0x5C :: 0x75 :: (second ++ raw)))
        (utf8 (0x10000 + 0x400 * (high - 0xD800) + (low - 0xDC00)) ++ text)

def quoted (raw : Text) : Text :=
  0x22 :: (raw ++ [0x22])

/-! ## Numbers -/

def Digits (text : Text) : Prop :=
  text ≠ [] ∧ ∀ byte ∈ text, 0x30 ≤ byte ∧ byte ≤ 0x39

/-- The literal of a number: sign, integer, fraction and exponent. -/
def NumberLiteral (literal : Text) : Prop :=
  ∃ sign integer fraction exponent,
    literal = sign ++ integer ++ fraction ++ exponent ∧ (sign = [] ∨ sign = ascii "-") ∧
      Digits integer ∧ (integer.head? = some 0x30 → integer = ascii "0") ∧
      (fraction = [] ∨ ∃ digits, Digits digits ∧ fraction = 0x2E :: digits) ∧
      (exponent = [] ∨ ∃ letter exponentSign digits, (letter = 0x65 ∨ letter = 0x45) ∧
        exponentSign ∈ [[], ascii "+", ascii "-"] ∧ Digits digits ∧
        exponent = letter :: (exponentSign ++ digits))

/-! ## Values -/

/-- What a part of a text can stand for. -/
inductive Form
  | value (json : Json)
  /-- A value with blanks around it. -/
  | element (json : Json)
  | elements (items : List Json)
  | member (name : Text) (json : Json)
  | members (members : List (Text × Json))

/-- The texts of a form. -/
inductive Writes : Form → Text → Prop
  | null : Writes (.value .null) (ascii "null")
  | true : Writes (.value (.bool true)) (ascii "true")
  | false : Writes (.value (.bool false)) (ascii "false")
  | number {literal : Text} (hliteral : NumberLiteral literal) :
      Writes (.value (.number literal)) literal
  | string {raw text : Text} (hbody : StringBody raw text) :
      Writes (.value (.string text)) (quoted raw)
  | emptyArray {blank : Text} (hblank : Blank blank) :
      Writes (.value (.array [])) (0x5B :: (blank ++ [0x5D]))
  | array {items : List Json} {body : Text} (hbody : Writes (.elements items) body) :
      Writes (.value (.array items)) (0x5B :: (body ++ [0x5D]))
  | emptyObject {blank : Text} (hblank : Blank blank) :
      Writes (.value (.object [])) (0x7B :: (blank ++ [0x7D]))
  | object {members : List (Text × Json)} {body : Text} (hbody : Writes (.members members) body) :
      Writes (.value (.object members)) (0x7B :: (body ++ [0x7D]))
  | element {json : Json} {before text after : Text} (hbefore : Blank before)
      (hvalue : Writes (.value json) text) (hafter : Blank after) :
      Writes (.element json) (before ++ text ++ after)
  | lastElement {json : Json} {text : Text} (helement : Writes (.element json) text) :
      Writes (.elements [json]) text
  | elements {json : Json} {items : List Json} {text rest : Text}
      (helement : Writes (.element json) text) (hrest : Writes (.elements items) rest) :
      Writes (.elements (json :: items)) (text ++ 0x2C :: rest)
  | member {name raw before after text : Text} {json : Json} (hbefore : Blank before)
      (hname : StringBody raw name) (hafter : Blank after)
      (helement : Writes (.element json) text) :
      Writes (.member name json) (before ++ quoted raw ++ after ++ 0x3A :: text)
  | lastMember {name : Text} {json : Json} {text : Text} (hmember : Writes (.member name json) text) :
      Writes (.members [(name, json)]) text
  | members {name : Text} {json : Json} {members : List (Text × Json)} {text rest : Text}
      (hmember : Writes (.member name json) text) (hrest : Writes (.members members) rest) :
      Writes (.members ((name, json) :: members)) (text ++ 0x2C :: rest)

/-- A JSON text of a value. -/
def IsTextOf (text : Text) (json : Json) : Prop :=
  Writes (.element json) text

/-! ## Items of an object -/

/-- The first member with this name, in letters of either case. -/
def getObjectItem : Json → Text → Option Json
  | object members, name => (members.find? fun member => sameIgnoringCase member.1 name).map (·.2)
  | _, _ => none

/-- The value without the member that `getObjectItem` finds. -/
def deleteItem : Json → Text → Json
  | object members, name => object (members.eraseP fun member => sameIgnoringCase member.1 name)
  | other, _ => other

/-- The C string under a name, where a string stands there. -/
def stringItem (json : Json) (name : String) : Option Text :=
  match json.getObjectItem (ascii name) with
  | some (string text) => some (cString text)
  | _ => none

theorem noNul_of_stringItem {json : Json} {name : String} {text : Text}
    (hitem : json.stringItem name = some text) : 0 ∉ text := by
  unfold stringItem at hitem
  split at hitem
  · obtain rfl := Option.some.inj hitem
    exact cString_noNul _
  · cases hitem

/-! ## What all texts have in common -/

variable {text raw : Text}

theorem Blank.noNul (hblank : Blank text) : 0 ∉ text := by
  intro hmem
  have hbyte := hblank 0 hmem
  simp at hbyte

theorem FourDigits.noNul {code : ℕ} (hdigits : FourDigits text code) : 0 ∉ text := by
  obtain ⟨values, hvalues, -, -⟩ := hdigits
  intro hmem
  have hnone : none ∈ text.map hexDigit := List.mem_map.mpr ⟨0, hmem, rfl⟩
  rw [hvalues] at hnone
  simp at hnone

theorem StringBody.noNul {string : Text} (hbody : StringBody raw string) : 0 ∉ raw := by
  induction hbody with
  | nil => exact List.not_mem_nil
  | @plain byte raw text hplain hrest ih =>
      rw [List.mem_cons, not_or]
      refine ⟨?_, ih⟩
      rintro rfl
      exact absurd hplain (by decide)
  | @escape letter byte raw text hescape hrest ih =>
      rw [List.mem_cons, List.mem_cons, not_or, not_or]
      refine ⟨by decide, ?_, ih⟩
      rintro rfl
      exact absurd hescape (by simp [escaped])
  | unicode hdigits hsurrogate hrest ih =>
      simp only [List.mem_cons, List.mem_append, not_or]
      exact ⟨by decide, by decide, hdigits.noNul, ih⟩
  | surrogates hfirst hsecond hhigh hlow hrest ih =>
      simp only [List.mem_cons, List.mem_append, not_or]
      exact ⟨by decide, by decide, hfirst.noNul, by decide, by decide, hsecond.noNul, ih⟩

theorem quoted_noNul (hraw : 0 ∉ raw) : 0 ∉ quoted raw := by
  simp [quoted, hraw]

theorem Digits.noNul (hdigits : Digits text) : 0 ∉ text := by
  intro hmem
  exact absurd (hdigits.2 0 hmem).1 (by decide)

theorem NumberLiteral.noNul (hliteral : NumberLiteral text) : 0 ∉ text := by
  obtain ⟨sign, integer, fraction, exponent, rfl, hsign, hinteger, -, hfraction, hexponent⟩ := hliteral
  simp only [List.mem_append, not_or]
  refine ⟨⟨⟨?_, hinteger.noNul⟩, ?_⟩, ?_⟩
  · rcases hsign with rfl | rfl <;> decide
  · rcases hfraction with rfl | ⟨digits, hdigits, rfl⟩
    · exact List.not_mem_nil
    · rw [List.mem_cons, not_or]
      exact ⟨by decide, hdigits.noNul⟩
  · rcases hexponent with rfl | ⟨letter, exponentSign, digits, hletter, hexponentSign, hdigits, rfl⟩
    · exact List.not_mem_nil
    · simp only [List.mem_cons, List.mem_append, not_or]
      refine ⟨?_, ?_, hdigits.noNul⟩
      · rcases hletter with rfl | rfl <;> decide
      · simp only [List.mem_cons, List.not_mem_nil, or_false] at hexponentSign
        rcases hexponentSign with rfl | rfl | rfl <;> decide

/-- No text holds a NUL. -/
theorem Writes.noNul {form : Form} (hwrites : Writes form text) : 0 ∉ text := by
  induction hwrites with
  | null | true | false => decide
  | number hliteral => exact hliteral.noNul
  | string hbody => exact quoted_noNul hbody.noNul
  | emptyArray hblank | emptyObject hblank =>
      simp only [List.mem_cons, List.mem_append, List.not_mem_nil, or_false, not_or]
      exact ⟨by decide, hblank.noNul, by decide⟩
  | array hbody ih | object hbody ih =>
      simp only [List.mem_cons, List.mem_append, List.not_mem_nil, or_false, not_or]
      exact ⟨by decide, ih, by decide⟩
  | element hbefore hvalue hafter ih =>
      simp only [List.mem_append, not_or]
      exact ⟨⟨hbefore.noNul, ih⟩, hafter.noNul⟩
  | lastElement helement ih | lastMember hmember ih => exact ih
  | elements helement hrest ih ihrest | members hmember hrest ih ihrest =>
      simp only [List.mem_append, List.mem_cons, not_or]
      exact ⟨ih, by decide, ihrest⟩
  | member hbefore hname hafter helement ih =>
      simp only [List.mem_append, List.mem_cons, not_or]
      exact ⟨⟨⟨hbefore.noNul, quoted_noNul hname.noNul⟩, hafter.noNul⟩, by decide, ih⟩

/-- A text of an object begins with a brace, after blanks. -/
theorem IsTextOf.brace {members : List (Text × Json)} (htext : IsTextOf text (.object members)) :
    ∃ blank rest, Blank blank ∧ text = blank ++ 0x7B :: rest := by
  cases htext with
  | element hbefore hvalue hafter =>
      cases hvalue with
      | emptyObject hblank => exact ⟨_, _, hbefore, by rw [List.append_assoc]; rfl⟩
      | object hbody => exact ⟨_, _, hbefore, by rw [List.append_assoc]; rfl⟩

/-- A string of plain characters is written as it is. -/
theorem StringBody.of_plain (hplain : ∀ byte ∈ text, Plain byte) : StringBody text text := by
  induction text with
  | nil => exact .nil
  | cons byte bytes ih =>
      obtain ⟨hbyte, hbytes⟩ := List.forall_mem_cons.mp hplain
      exact .plain hbyte (ih hbytes)

end Json

end CrowPanel.Library
