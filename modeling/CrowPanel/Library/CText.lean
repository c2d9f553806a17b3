import Mathlib.Algebra.GroupWithZero.Nat
import Mathlib.Data.List.TakeWhile
import Mathlib.Tactic.Common

/-!
# C strings and character arrays

A C string is the sequence of its bytes before the terminating NUL.  A `CharArray size` is what a
terminated `char[size]` field holds: the text up to the first NUL, which therefore contains no NUL
and leaves room for one.  The bytes after the terminator are never observed and are not kept.

Copying a longer text into an array cuts it, as `snprintf(buffer, size, "%s", text)` does.  `strchr`
and `strstr` return the rest of the text from the place they find.
-/

namespace CrowPanel.Library

/-- The bytes of a C string, without the terminating NUL. -/
abbrev Text := List UInt8

/-- A property of the bytes of a text is decided along the text, not over all bytes. -/
instance decidableForallMemText (text : Text) (p : UInt8 → Prop) [DecidablePred p] :
    Decidable (∀ byte ∈ text, p byte) :=
  List.decidableBAll p text

/-- The text of an ASCII literal. -/
def ascii (literal : String) : Text :=
  literal.toList.map fun char => char.toNat.toUInt8

/-- The text which a terminated `char[size]` holds. -/
structure CharArray (size : ℕ) where
  text : Text
  noNul : 0 ∉ text
  fits : text.length < size
  deriving DecidableEq

/-- A text without a byte passes the test of a search for the byte. -/
theorem decide_ne_of_notMem {bytes : Text} {char : UInt8} (hchar : char ∉ bytes) :
    ∀ byte ∈ bytes, decide (byte ≠ char) = true := by
  intro byte hbyte
  exact decide_eq_true (ne_of_mem_of_not_mem hbyte hchar)

/-- What stands in front of the first place of a byte, or of the end. -/
theorem takeWhile_ne_append {front tail : Text} {char : UInt8} (hfront : char ∉ front)
    (htail : tail = [] ∨ ∃ rest, tail = char :: rest) :
    (front ++ tail).takeWhile (· ≠ char) = front := by
  rw [List.takeWhile_append_of_pos (decide_ne_of_notMem hfront)]
  rcases htail with rfl | ⟨rest, rfl⟩ <;> simp

/-- The C string at the front of some bytes. -/
def cString (bytes : Text) : Text :=
  bytes.takeWhile (· ≠ 0)

theorem cString_noNul (bytes : Text) : 0 ∉ cString bytes := by
  intro hmem
  simpa using List.mem_takeWhile_imp hmem

@[simp] theorem cString_of_noNul {bytes : Text} (hnul : 0 ∉ bytes) : cString bytes = bytes :=
  List.takeWhile_eq_self_iff.mpr (decide_ne_of_notMem hnul)

theorem cString_append {first : Text} (hnul : 0 ∉ first) (rest : Text) :
    cString (first ++ rest) = first ++ cString rest :=
  List.takeWhile_append_of_pos (decide_ne_of_notMem hnul)

theorem cString_cons {byte : UInt8} (hbyte : byte ≠ 0) (bytes : Text) :
    cString (byte :: bytes) = byte :: cString bytes :=
  List.takeWhile_cons_of_pos (by simpa using hbyte)

theorem cString_zero_cons (bytes : Text) : cString (0 :: bytes) = [] :=
  List.takeWhile_cons_of_neg (by simp)

def toLower (byte : UInt8) : UInt8 :=
  if 0x41 ≤ byte ∧ byte ≤ 0x5A then byte + 0x20 else byte

/-- Two C strings are the same but for the case of letters, as `strcasecmp` takes them. -/
def sameIgnoringCase (first second : Text) : Bool :=
  (cString first).map toLower = (cString second).map toLower

/-! Sizes of arrays, each under a name of its own, so that an array needs no proof where it is used. -/

instance neZero24 : NeZero 24 := ⟨by decide⟩

instance neZero32 : NeZero 32 := ⟨by decide⟩

instance neZero33 : NeZero 33 := ⟨by decide⟩

instance neZero48 : NeZero 48 := ⟨by decide⟩

instance neZero64 : NeZero 64 := ⟨by decide⟩

instance neZero65 : NeZero 65 := ⟨by decide⟩

instance neZero96 : NeZero 96 := ⟨by decide⟩

instance neZero128 : NeZero 128 := ⟨by decide⟩

instance neZero256 : NeZero 256 := ⟨by decide⟩

namespace CharArray

variable {size : ℕ}

theorem ext_text {first second : CharArray size} (htext : first.text = second.text) :
    first = second := by
  cases first
  cases second
  congr

/-- An array starting with the terminator. -/
def empty [NeZero size] : CharArray size where
  text := []
  noNul := by simp
  fits := Nat.pos_of_ne_zero (NeZero.ne size)

instance [NeZero size] : Inhabited (CharArray size) := ⟨empty⟩

/-- The text of a buffer that holds `bytes`, cut at the first NUL or at the last place that leaves
room for a terminator. -/
def ofText (size : ℕ) [NeZero size] (bytes : Text) : CharArray size where
  text := (bytes.takeWhile (· ≠ 0)).take (size - 1)
  noNul := by
    intro hmem
    simpa using List.mem_takeWhile_imp (List.mem_of_mem_take hmem)
  fits := by
    have hpos : size ≠ 0 := NeZero.ne size
    have hlength := List.length_take_le (size - 1) (bytes.takeWhile (· ≠ 0))
    omega

@[simp] theorem empty_text [NeZero size] : (empty : CharArray size).text = [] := rfl

/-- What is left of a C string in an array. -/
theorem ofText_text_take [NeZero size] {bytes : Text} (hnul : 0 ∉ bytes) :
    (ofText size bytes).text = bytes.take (size - 1) :=
  congrArg (List.take (size - 1)) (cString_of_noNul hnul)

/-- A text that fits and has no NUL is stored as it is. -/
theorem ofText_text [NeZero size] {bytes : Text} (hnul : 0 ∉ bytes) (hfits : bytes.length < size) :
    (ofText size bytes).text = bytes := by
  rw [ofText_text_take hnul]
  exact List.take_of_length_le (by omega)

theorem ofText_eq_iff [NeZero size] {bytes : Text} {array : CharArray size} (hnul : 0 ∉ bytes)
    (hfits : bytes.length < size) : ofText size bytes = array ↔ array.text = bytes := by
  constructor
  · rintro rfl
    exact ofText_text hnul hfits
  · intro htext
    exact ext_text ((ofText_text hnul hfits).trans htext.symm)

/-- Copying an array into one of the same size changes nothing. -/
@[simp] theorem ofText_self [NeZero size] (array : CharArray size) :
    ofText size array.text = array :=
  ext_text (ofText_text array.noNul array.fits)

/-- A text that starts with something that fits keeps it. -/
theorem ofText_append [NeZero size] {first : Text} (rest : Text) (hnul : 0 ∉ first)
    (hfits : first.length < size) :
    ∃ cut, (ofText size (first ++ rest)).text = first ++ cut ∧ ∀ byte ∈ cut, byte ∈ rest := by
  refine ⟨(cString rest).take (size - 1 - first.length), ?_, fun byte hbyte => ?_⟩
  · change (cString (first ++ rest)).take (size - 1) = _
    rw [cString_append hnul, List.take_append, List.take_of_length_le (Nat.le_sub_one_of_lt hfits)]
  · exact (List.takeWhile_sublist _).subset (List.mem_of_mem_take hbyte)

end CharArray

/-! ## Searching -/

/-- `strchr` -/
def strchr : Text → UInt8 → Option Text
  | [], _ => none
  | byte :: bytes, char => if byte = char then some (byte :: bytes) else strchr bytes char

/-- `strstr` -/
def strstr : Text → Text → Option Text
  | [], pattern => if pattern = [] then some [] else none
  | byte :: bytes, pattern =>
      if pattern.isPrefixOf (byte :: bytes) then some (byte :: bytes) else strstr bytes pattern

theorem strchr_append {first : Text} {char : UInt8} (rest : Text) (hfirst : char ∉ first) :
    strchr (first ++ char :: rest) char = some (char :: rest) := by
  induction first with
  | nil => simp [strchr]
  | cons byte bytes ih =>
      obtain ⟨hhead, htail⟩ := not_or.mp (mt List.mem_cons.mpr hfirst)
      rw [List.cons_append, strchr, if_neg (Ne.symm hhead)]
      exact ih htail

theorem strstr_prefix (pattern rest : Text) : (strstr (pattern ++ rest) pattern).isSome := by
  cases pattern with
  | nil => cases rest <;> simp [strstr]
  | cons byte bytes => simp [strstr]

theorem strstr_append {text pattern : Text} (first : Text) (hfound : (strstr text pattern).isSome) :
    (strstr (first ++ text) pattern).isSome := by
  induction first with
  | nil => exact hfound
  | cons byte bytes ih =>
      rw [List.cons_append, strstr]
      split
      · rfl
      · exact ih

/-- A text without one of the bytes of the pattern does not contain it. -/
theorem strstr_eq_none {text pattern : Text} {byte : UInt8} (hpattern : byte ∈ pattern)
    (htext : byte ∉ text) : strstr text pattern = none := by
  induction text with
  | nil => simp [strstr, List.ne_nil_of_mem hpattern]
  | cons head tail ih =>
      obtain ⟨hhead, htail⟩ := not_or.mp (mt List.mem_cons.mpr htext)
      rw [strstr, if_neg, ih htail]
      intro hfront
      have hmem := (List.isPrefixOf_iff_prefix.mp hfront).subset hpattern
      exact htext hmem

/-- The search ends at an occurrence of the pattern. -/
theorem strstr_eq_some {text pattern rest : Text} (hfound : strstr text pattern = some rest) :
    pattern <+: rest ∧ rest <:+ text := by
  induction text with
  | nil =>
      rw [strstr] at hfound
      split at hfound
      · next hnil =>
          obtain rfl := Option.some.inj hfound
          exact ⟨hnil ▸ List.prefix_rfl, List.suffix_rfl⟩
      · cases hfound
  | cons byte bytes ih =>
      rw [strstr] at hfound
      split at hfound
      · next hfront =>
          obtain rfl := Option.some.inj hfound
          exact ⟨List.isPrefixOf_iff_prefix.mp hfront, List.suffix_rfl⟩
      · obtain ⟨hfront, hsuffix⟩ := ih hfound
        exact ⟨hfront, hsuffix.trans (List.suffix_cons byte bytes)⟩

/-- Bytes with which the pattern does not begin are passed over. -/
theorem strstr_skip {first pattern : Text} (text : Text) {head : UInt8}
    (hpattern : pattern.head? = some head) (hfirst : head ∉ first) :
    strstr (first ++ text) pattern = strstr text pattern := by
  obtain ⟨tail, rfl⟩ := List.head?_eq_some_iff.mp hpattern
  induction first with
  | nil => rfl
  | cons byte bytes ih =>
      obtain ⟨hhead, hbytes⟩ := not_or.mp (mt List.mem_cons.mpr hfirst)
      rw [List.cons_append, strstr, if_neg]
      · exact ih hbytes
      · simp [List.isPrefixOf, hhead]

end CrowPanel.Library
