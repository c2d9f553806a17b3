import CrowPanel.Library.CText

/-!
# Buffers

A buffer is the list of its bytes, and its length is its size.  Reads and writes are partial: outside
the buffer they have no result.  A C function that fills the buffer of its caller is modelled in
`Option`, so that it has a result exactly if it stays within the buffer.

`Leaves run size text` is what such a function promises: it stays within a buffer of this size, which
then holds the text and a terminator.
-/

namespace CrowPanel.Library

/-- The bytes of a buffer. -/
abbrev Buffer := List UInt8

namespace Buffer

/-- `buffer[index]` -/
def load (buffer : Buffer) (index : ℕ) : Option UInt8 :=
  buffer[index]?

/-- `buffer[index] = byte` -/
def store (buffer : Buffer) (index : ℕ) (byte : UInt8) : Option Buffer :=
  if index < buffer.length then some (buffer.set index byte) else none

/-- `memcpy(buffer + offset, bytes, length)` -/
def copy (buffer : Buffer) (offset : ℕ) (bytes : Text) : Option Buffer :=
  if offset + bytes.length ≤ buffer.length then
    some (buffer.take offset ++ (bytes ++ buffer.drop (offset + bytes.length)))
  else none

/-- `snprintf(buffer + offset, capacity, ...)` for a text. -/
def print (buffer : Buffer) (offset capacity : ℕ) (text : Text) : Option Buffer :=
  if capacity = 0 then some buffer
  else buffer.copy offset (text.take (capacity - 1) ++ [0])

/-- The buffer starts with a text and its terminator. -/
def Holds (buffer : Buffer) (text : Text) : Prop :=
  ∃ rest, buffer = text ++ 0 :: rest

/-- What has run stayed within a buffer of this size and left a text and its terminator there. -/
def Leaves (run : Option Buffer) (size : ℕ) (text : Text) : Prop :=
  ∃ buffer, run = some buffer ∧ buffer.length = size ∧ Holds buffer text

variable {buffer next : Buffer} {written rest bytes text other : Text} {byte old : UInt8}
  {index size : ℕ}

/-! ## What the operations do behind a part that is written -/

theorem load_append (written rest : Text) (byte : UInt8) :
    load (written ++ byte :: rest) written.length = some byte := by
  rw [load, List.getElem?_append_right le_rfl, Nat.sub_self, List.getElem?_cons_zero]

/-- The byte that was written last. -/
theorem load_pred (hwritten : written ≠ []) (rest : Text) :
    load (written ++ rest) (written.length - 1) = written.getLast? := by
  have hpos := List.length_pos_iff.mpr hwritten
  rw [load, List.getElem?_append_left (by omega), List.getLast?_eq_getElem?]

/-- Reading behind a place is reading what is behind it. -/
theorem load_add (buffer : Buffer) (index count : ℕ) :
    load buffer (index + count) = (buffer.drop index)[count]? := by
  rw [load, List.getElem?_drop]

theorem lt_of_load (hload : load buffer index = some byte) : index < buffer.length :=
  (List.getElem?_eq_some_iff.mp hload).1

theorem store_append (written rest : Text) (old byte : UInt8) :
    store (written ++ old :: rest) written.length byte = some (written ++ byte :: rest) := by
  rw [store, if_pos]
  · rw [List.set_append_right _ _ le_rfl, Nat.sub_self, List.set_cons_zero]
  · rw [List.length_append, List.length_cons]
    omega

theorem store_none (hend : buffer.length ≤ index) : store buffer index byte = none :=
  if_neg (not_lt.mpr hend)

theorem length_of_store (hstore : store buffer index byte = some next) :
    next.length = buffer.length := by
  unfold store at hstore
  split at hstore
  · obtain rfl := Option.some.inj hstore
    rw [List.length_set]
  · cases hstore

/-- A write in front of a place leaves what is behind it. -/
theorem drop_of_store (hstore : store buffer index byte = some next) {place : ℕ}
    (hplace : index < place) : next.drop place = buffer.drop place := by
  unfold store at hstore
  split at hstore
  · obtain rfl := Option.some.inj hstore
    rw [List.drop_set_of_lt hplace]
  · cases hstore

theorem exists_store (hindex : index < buffer.length) (byte : UInt8) :
    ∃ next, store buffer index byte = some next :=
  ⟨_, if_pos hindex⟩

/-- A write adds a byte to the part in front of it. -/
theorem take_of_store (hstore : store buffer index byte = some next) :
    next.take (index + 1) = buffer.take index ++ [byte] := by
  unfold store at hstore
  split at hstore
  · next hindex =>
      obtain rfl := Option.some.inj hstore
      rw [List.take_add_one, List.take_set_of_le (Nat.le_refl index), List.getElem?_set_self hindex]
      rfl
  · cases hstore

theorem copy_append (hroom : bytes.length ≤ rest.length) :
    copy (written ++ rest) written.length bytes =
      some (written ++ (bytes ++ rest.drop bytes.length)) := by
  rw [copy, if_pos]
  · rw [List.take_left, List.drop_length_add_append]
  · rw [List.length_append]
    omega

/-- A write of one byte is a copy of it. -/
theorem store_eq_copy (buffer : Buffer) (index : ℕ) (byte : UInt8) :
    store buffer index byte = copy buffer index [byte] := by
  unfold store copy
  rw [List.length_singleton]
  by_cases hindex : index < buffer.length
  · rw [if_pos hindex, if_pos (Nat.succ_le_of_lt hindex), List.set_eq_take_append_cons_drop,
      if_pos hindex]
    rfl
  · rw [if_neg hindex, if_neg (by omega)]

theorem copy_zero (hroom : bytes.length ≤ buffer.length) :
    copy buffer 0 bytes = some (bytes ++ buffer.drop bytes.length) := by
  simpa using @copy_append [] buffer bytes hroom

/-! ## What a buffer holds -/

theorem Holds.of_append (written rest : Text) : Holds (written ++ 0 :: rest) written :=
  ⟨rest, rfl⟩

/-- A reader of the buffer sees the text, up to a NUL in it. -/
theorem Holds.cString_buffer (hholds : Holds buffer text) : cString buffer = cString text := by
  obtain ⟨rest, rfl⟩ := hholds
  induction text with
  | nil => exact cString_zero_cons rest
  | cons byte text ih =>
      by_cases hbyte : byte = 0
      · rw [hbyte, List.cons_append, cString_zero_cons, cString_zero_cons]
      · rw [List.cons_append, cString_cons hbyte, cString_cons hbyte, ih]

theorem Holds.cString_eq (hholds : Holds buffer text) (hnul : 0 ∉ text) :
    cString buffer = text := by
  rw [hholds.cString_buffer, cString_of_noNul hnul]

/-- A text in front of the terminator. -/
theorem leaves_store (written rest : Text) (old : UInt8) :
    Leaves (store (written ++ old :: rest) written.length 0) (written ++ old :: rest).length
      written := by
  rw [store_append]
  refine ⟨_, rfl, ?_, .of_append written rest⟩
  rw [List.length_append, List.length_append, List.length_cons, List.length_cons]

/-- `memcpy` and the terminator behind it. -/
theorem leaves_copy_store (hroom : bytes.length < buffer.length) :
    Leaves ((copy buffer 0 bytes).bind (store · bytes.length 0)) buffer.length bytes := by
  obtain ⟨old, rest, hrest⟩ : ∃ old rest, buffer.drop bytes.length = old :: rest := by
    refine List.exists_cons_of_ne_nil fun hnil => ?_
    rw [List.drop_eq_nil_iff] at hnil
    omega
  rw [copy_zero hroom.le, Option.bind_some, hrest]
  have hsize : (bytes ++ old :: rest).length = buffer.length := by
    rw [← hrest, List.length_append, List.length_drop]
    omega
  rw [← hsize]
  exact leaves_store bytes rest old

/-- `snprintf` cuts the text to what fits behind the part that is written. -/
theorem print_append (hroom : 0 < rest.length) :
    print (written ++ rest) written.length rest.length text =
      some (written ++ (text.take (rest.length - 1) ++
        0 :: rest.drop ((text.take (rest.length - 1)).length + 1))) := by
  have hlength := List.length_take_le (rest.length - 1) text
  rw [print, if_neg (by omega), copy_append]
  · simp only [List.length_append, List.length_singleton, List.append_assoc, List.cons_append,
      List.nil_append]
  · rw [List.length_append, List.length_singleton]
    omega

theorem leaves_print (hsize : 0 < buffer.length) :
    Leaves (print buffer 0 buffer.length text) buffer.length (text.take (buffer.length - 1)) := by
  have hprint := @print_append [] buffer text hsize
  have hlength := List.length_take_le (buffer.length - 1) text
  rw [List.nil_append, List.nil_append, List.length_nil] at hprint
  rw [hprint]
  refine ⟨_, rfl, ?_, .of_append _ _⟩
  rw [List.length_append, List.length_cons, List.length_drop]
  omega

/-- `snprintf` behind a text, which takes the place of its terminator. -/
theorem Holds.leaves_print (hholds : Holds buffer text)
    (hroom : text.length + bytes.length < buffer.length) :
    Leaves (print buffer text.length (buffer.length - text.length) bytes) buffer.length
      (text ++ bytes) := by
  obtain ⟨rest, rfl⟩ := hholds
  rw [List.length_append, List.length_cons] at hroom
  have hcapacity : (text ++ 0 :: rest).length - text.length = (0 :: rest).length := by
    rw [List.length_append, Nat.add_sub_cancel_left]
  have hwhole : bytes.take ((0 :: rest).length - 1) = bytes :=
    List.take_of_length_le (by rw [List.length_cons]; omega)
  rw [hcapacity, print_append (List.length_pos_iff.mpr (List.cons_ne_nil 0 rest)),
    hwhole]
  refine ⟨_, rfl, ?_, _, (List.append_assoc _ _ _).symm⟩
  simp only [List.length_append, List.length_cons, List.length_drop]
  omega

end Buffer

end CrowPanel.Library
