import Mathlib.Algebra.Order.Group.MinMax
import Mathlib.Order.Interval.Set.UnorderedInterval
import Mathlib.Algebra.Order.Group.Unbundled.Abs
import Mathlib.Tactic.Abel

/-!
# Rate-limited motion

A quantity that follows a target by at most a given amount in each step.  `Approaches` says what such
a step does; whatever interval holds the quantity and its target holds the quantity afterwards.
-/

namespace CrowPanel.Library

variable {α : Type*} [AddCommGroup α] [LinearOrder α]

/-- The value goes from `current` towards `target` by `limit`, or all the way if that is less. -/
structure Approaches (limit current target next : α) : Prop where
  between : next ∈ Set.uIcc current target
  distance : |next - current| = min limit |target - current|

variable {limit current target next low high : α}

/-- An interval that holds the value and the target is not left. -/
theorem Approaches.mem_Icc (happroaches : Approaches limit current target next)
    (hcurrent : current ∈ Set.Icc low high) (htarget : target ∈ Set.Icc low high) :
    next ∈ Set.Icc low high :=
  Set.uIcc_subset_Icc hcurrent htarget happroaches.between

variable [IsOrderedAddMonoid α]

theorem Approaches.up (hlimit : 0 ≤ limit) (hbelow : current ≤ target) :
    Approaches limit current target (min (current + limit) target) where
  between := by
    rw [Set.uIcc_of_le hbelow]
    exact ⟨le_min (le_add_of_nonneg_right hlimit) hbelow, min_le_right _ _⟩
  distance := by
    have hgap : 0 ≤ target - current := sub_nonneg.mpr hbelow
    rw [← min_sub_sub_right, add_sub_cancel_left, abs_of_nonneg hgap,
      abs_of_nonneg (le_min hlimit hgap)]

theorem Approaches.down (hlimit : 0 ≤ limit) (habove : target ≤ current) :
    Approaches limit current target (max (current - limit) target) where
  between := by
    rw [Set.uIcc_of_ge habove]
    exact ⟨le_max_right _ _, max_le (sub_le_self current hlimit) habove⟩
  distance := by
    have hgap : 0 ≤ current - target := sub_nonneg.mpr habove
    have hmoved : current - max (current - limit) target = min limit (current - target) := by
      rw [← min_sub_sub_left, sub_sub_cancel]
    rw [abs_sub_comm, hmoved, abs_of_nonneg (le_min hlimit hgap), abs_sub_comm target current,
      abs_of_nonneg hgap]

end CrowPanel.Library
