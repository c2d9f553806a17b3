import Mathlib.Data.List.Destutter
import Mathlib.Tactic.Common

/-!
# Announcing changes

A variable is set by reports, and a report is announced only when its key differs from the key of the
report announced last.  What has been announced after some reports is their list with runs of equal
keys cut down to their first element (`changes`), and the report that the variable still goes by is
the last one announced (`current`), which has the key of the latest report (`key_current`).
-/

namespace CrowPanel.Library

variable {ρ κ : Type*} [DecidableEq κ] (key : ρ → κ) (first : ρ)

/-- The two reports have different keys. -/
abbrev Differs (before after : ρ) : Prop :=
  key before ≠ key after

/-- The reports that are announced, if the variable starts as if `first` had been announced. -/
def changes (reports : List ρ) : List ρ :=
  (reports.destutter' (Differs key) first).tail

/-- The report announced last. -/
def current (reports : List ρ) : ρ :=
  (reports.destutter' (Differs key) first).getLastD first

@[simp] theorem changes_nil : changes key first [] = [] := rfl

@[simp] theorem current_nil : current key first [] = first := rfl

variable {key first}

/-- The last one kept, whatever stands in for it in an empty list. -/
private theorem getLastD_destutter' (reports : List ρ) (default other : ρ) :
    (reports.destutter' (Differs key) first).getLastD default =
      (reports.destutter' (Differs key) first).getLastD other := by
  rcases hkept : reports.destutter' (Differs key) first with _ | ⟨report, rest⟩
  · exact absurd hkept (List.destutter'_ne_nil _ _)
  · rw [List.getLastD_cons, List.getLastD_cons]

/-- One more report is kept if its key differs from that of the last one kept. -/
theorem destutter'_concat (reports : List ρ) (report : ρ) :
    (reports ++ [report]).destutter' (Differs key) first =
      if Differs key (current key first reports) report then
        reports.destutter' (Differs key) first ++ [report]
      else reports.destutter' (Differs key) first := by
  induction reports generalizing first with
  | nil => by_cases hkey : key first = key report <;> simp [current, hkey]
  | cons next reports ih =>
      by_cases hkey : key first = key next
      · have hcurrent : current key first (next :: reports) = current key first reports := by
          simp [current, hkey]
        simpa [hcurrent, hkey] using ih
      · have hcurrent : current key first (next :: reports) = current key next reports := by
          rw [current, List.destutter'_cons_pos _ hkey, List.getLastD_cons, getLastD_destutter']
          rfl
        rw [List.cons_append, List.destutter'_cons_pos _ hkey, List.destutter'_cons_pos _ hkey,
          hcurrent, ih]
        split <;> simp

theorem changes_concat (reports : List ρ) (report : ρ) :
    changes key first (reports ++ [report]) =
      if key (current key first reports) ≠ key report then
        changes key first reports ++ [report]
      else changes key first reports := by
  unfold changes
  rw [destutter'_concat]
  split
  · rw [List.tail_append_of_ne_nil (List.destutter'_ne_nil _ _)]
  · rfl

theorem current_concat (reports : List ρ) (report : ρ) :
    current key first (reports ++ [report]) =
      if key (current key first reports) ≠ key report then report
      else current key first reports := by
  unfold current
  rw [destutter'_concat]
  split
  · next hkey => exact (List.getLastD_concat ..).trans (if_pos hkey).symm
  · next hkey => exact (if_neg hkey).symm

/-- The variable has the key of the latest report. -/
theorem key_current (reports : List ρ) :
    key (current key first reports) = key (reports.getLastD first) := by
  induction reports using List.reverseRecOn with
  | nil => rfl
  | append_singleton reports report ih =>
      rw [current_concat, List.getLastD_concat]
      split
      · rfl
      · next hkey => exact not_not.mp hkey

/-- Announcements that follow each other differ, and the first of them differs from the start. -/
theorem isChain_changes (reports : List ρ) :
    (first :: changes key first reports).IsChain (Differs key) := by
  have hchain := List.isChain_destutter' (Differs key) reports first
  have hhead : ∀ (reports : List ρ) (first : ρ),
      reports.destutter' (Differs key) first = first :: changes key first reports := by
    intro reports
    induction reports with
    | nil => intro first; rfl
    | cons report reports ih =>
        intro first
        by_cases hkey : key first = key report
        · simpa [changes, hkey] using ih first
        · simp [changes, hkey]
  rwa [hhead] at hchain

end CrowPanel.Library
