import Mathlib.Data.List.Induction
import Mathlib.Tactic.Common

/-!
# Sliding windows

A window holds the last `size` values of a stream in their order: a new value pushes the oldest one out.
After any number of values it is the end of the stream (`entries_pushAll`), and so are its last few
entries (`recent_pushAll`).
-/

namespace CrowPanel.Library

variable {α : Type*} {size : ℕ}

structure SlidingWindow (α : Type*) (size : ℕ) where
  entries : List α
  length_entries : entries.length = size

namespace SlidingWindow

/-- A window of one value. -/
def const (value : α) : SlidingWindow α size :=
  ⟨List.replicate size value, List.length_replicate⟩

/-- The window after one more value. -/
def push (window : SlidingWindow α size) (value : α) : SlidingWindow α size where
  entries := (window.entries ++ [value]).tail
  length_entries := by
    rw [List.length_tail, List.length_append, window.length_entries, List.length_singleton,
      Nat.add_sub_cancel]

def pushAll (window : SlidingWindow α size) (values : List α) : SlidingWindow α size :=
  values.foldl push window

/-- The last `count` entries. -/
def recent (window : SlidingWindow α size) (count : ℕ) : List α :=
  window.entries.drop (size - count)

@[simp] theorem entries_const (value : α) :
    (const value : SlidingWindow α size).entries = List.replicate size value :=
  rfl

theorem entries_push (window : SlidingWindow α size) (value : α) :
    (window.push value).entries = (window.entries ++ [value]).drop 1 :=
  List.drop_one.symm

theorem pushAll_concat (window : SlidingWindow α size) (values : List α) (value : α) :
    window.pushAll (values ++ [value]) = (window.pushAll values).push value := by
  rw [pushAll, List.foldl_append]
  rfl

/-- A window is the end of the stream that began with what it held at first. -/
theorem entries_pushAll (window : SlidingWindow α size) (values : List α) :
    (window.pushAll values).entries = (window.entries ++ values).drop values.length := by
  induction values using List.reverseRecOn with
  | nil => rw [List.append_nil, List.length_nil, List.drop_zero, pushAll, List.foldl_nil]
  | append_singleton values value ih =>
      have hlong : values.length ≤ (window.entries ++ values).length := by simp
      rw [pushAll_concat, entries_push, ih, ← List.append_assoc, List.length_append,
        List.length_singleton, ← List.drop_drop, List.drop_append_of_le_length hlong]

/-- The last entries are the end of the stream too. -/
theorem recent_pushAll (window : SlidingWindow α size) (values : List α) {count : ℕ}
    (hcount : count ≤ size) :
    (window.pushAll values).recent count =
      (window.recent count ++ values).drop values.length := by
  have hlength := window.length_entries
  have hlong : size - count ≤ window.entries.length := by omega
  rw [recent, recent, entries_pushAll, List.drop_drop, Nat.add_comm, ← List.drop_drop,
    List.drop_append_of_le_length hlong]

end SlidingWindow

end CrowPanel.Library
