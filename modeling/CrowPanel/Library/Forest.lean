import Mathlib.Data.Finset.Card
import Mathlib.Data.List.Nodup
import Mathlib.Data.List.Pairwise
import Mathlib.Order.WellFounded

/-!
# Forests by their parents

A forest is given by the parent of each node, if it has one, such that no chain of parents goes on
for ever.  A node and its ancestors form a list that ends with the root of the node.

The ancestors of a node stand in the order of their depth.  So the deepest of some ancestors is
unique, and it is the first of them on the way up.

Programs climb a forest with a guard on the number of steps.  `climb` is the induction for such a walk
whose guard is no shorter than the way to the root, and `length_ancestors_le` says that the number of
nodes is long enough.
-/

namespace CrowPanel.Library

/-- A forest on the nodes of a type. -/
structure Forest (α : Type*) where
  parent : α → Option α
  wellFounded : WellFounded fun above below => parent below = some above

namespace Forest

variable {α : Type*} (F : Forest α) {node above other : α}

/-- A node and its ancestors, up to its root. -/
def ancestors (node : α) : List α :=
  node :: match _h : F.parent node with
    | none => []
    | some above => ancestors above
termination_by F.wellFounded.wrap node

/-- The number of proper ancestors. -/
def depth (node : α) : ℕ :=
  (F.ancestors node).tail.length

/-- The node is among those that are asked for, and none of them is deeper. -/
structure Deepest (asked : α → Prop) (above : α) : Prop where
  holds : asked above
  depth_le : ∀ other, asked other → F.depth other ≤ F.depth above

variable {F}

theorem ancestors_root (hroot : F.parent node = none) : F.ancestors node = [node] := by
  rw [ancestors]
  split
  · rfl
  · next hparent => rw [hroot] at hparent; cases hparent

theorem ancestors_child (hparent : F.parent node = some above) :
    F.ancestors node = node :: F.ancestors above := by
  rw [ancestors]
  split
  · next hroot => rw [hparent] at hroot; cases hroot
  · next hsame =>
      rw [hparent] at hsame
      rw [Option.some.inj hsame]

theorem self_mem_ancestors : node ∈ F.ancestors node := by
  rw [ancestors]
  exact List.mem_cons_self

/-- What holds of the roots, and of a node if it holds of its parent, holds of every node. -/
@[elab_as_elim]
theorem induction (F : Forest α) {P : α → Prop} (root : ∀ node, F.parent node = none → P node)
    (child : ∀ node above, F.parent node = some above → P above → P node) (node : α) : P node := by
  induction node using F.wellFounded.induction with
  | h node ih =>
      cases hparent : F.parent node with
      | none => exact root node hparent
      | some above => exact child node above hparent (ih above hparent)

/-- The same for a walk up which counts its steps, if the guard admits the way to the root. -/
theorem climb (F : Forest α) {P : ℕ → α → Prop}
    (root : ∀ guard node, F.parent node = none → P (guard + 1) node)
    (child : ∀ guard node above, F.parent node = some above → P guard above → P (guard + 1) node)
    {guard : ℕ} {node : α} (hguard : (F.ancestors node).length ≤ guard) : P guard node := by
  induction guard generalizing node with
  | zero =>
      have hself : node ∈ F.ancestors node := self_mem_ancestors
      rw [List.length_eq_zero_iff.mp (Nat.le_zero.mp hguard)] at hself
      exact absurd hself List.not_mem_nil
  | succ guard ih =>
      cases hparent : F.parent node with
      | none => exact root guard node hparent
      | some above =>
          rw [ancestors_child hparent, List.length_cons] at hguard
          exact child guard node above hparent (ih (by omega))

/-! ## Depth -/

theorem depth_root (hroot : F.parent node = none) : F.depth node = 0 := by
  rw [depth, ancestors_root hroot, List.tail_cons, List.length_nil]

theorem length_ancestors (node : α) : (F.ancestors node).length = F.depth node + 1 := by
  have hpositive : (F.ancestors node) ≠ [] := List.ne_nil_of_mem self_mem_ancestors
  rw [depth, List.length_tail]
  have := List.length_pos_iff.mpr hpositive
  omega

theorem depth_child (hparent : F.parent node = some above) : F.depth node = F.depth above + 1 := by
  rw [depth, ancestors_child hparent, List.tail_cons, length_ancestors]

/-- Ancestors come in the order of their depth. -/
theorem pairwise_ancestors (node : α) :
    (F.ancestors node).Pairwise fun below above => F.depth above < F.depth below := by
  have hbounded : ∀ node, ∀ above ∈ F.ancestors node, F.depth above ≤ F.depth node := by
    intro node
    induction node using F.induction with
    | root node hroot =>
        rw [ancestors_root hroot]
        exact List.forall_mem_singleton.mpr le_rfl
    | child node parent hparent ih =>
        rw [ancestors_child hparent, depth_child hparent]
        exact List.forall_mem_cons.mpr ⟨(depth_child hparent).le, fun above habove =>
          (ih above habove).trans (Nat.le_succ _)⟩
  induction node using F.induction with
  | root node hroot =>
      rw [ancestors_root hroot]
      exact List.pairwise_singleton _ _
  | child node parent hparent ih =>
      rw [ancestors_child hparent]
      refine List.pairwise_cons.mpr ⟨fun above habove => ?_, ih⟩
      have hle := hbounded parent above habove
      rw [depth_child hparent]
      omega

theorem nodup_ancestors (node : α) : (F.ancestors node).Nodup := by
  refine (pairwise_ancestors node).imp fun hlt hsame => ?_
  rw [hsame] at hlt
  exact lt_irrefl _ hlt

/-- A chain of ancestors is not longer than there are nodes. -/
theorem length_ancestors_le {members : Finset α} (hclosed : ∀ above ∈ F.ancestors node,
    above ∈ members) : (F.ancestors node).length ≤ members.card := by
  classical
  rw [← List.toFinset_card_of_nodup (nodup_ancestors node)]
  exact Finset.card_le_card fun above habove => hclosed above (List.mem_toFinset.mp habove)

/-- Ancestors of one node that have the same depth are the same. -/
theorem eq_of_depth_eq (habove : above ∈ F.ancestors node) (hother : other ∈ F.ancestors node)
    (hdepth : F.depth above = F.depth other) : above = other := by
  by_contra hne
  have hdistinct : (F.ancestors node).Pairwise fun first second =>
      F.depth first ≠ F.depth second := (pairwise_ancestors node).imp ne_of_gt
  have : Std.Symm fun first second => F.depth first ≠ F.depth second := ⟨fun _ _ => Ne.symm⟩
  exact hdistinct.forall habove hother hne hdepth

/-! ## The deepest ancestor -/

variable {asked : α → Prop}

/-- Among ancestors of a node only one is the deepest. -/
theorem Deepest.unique (hancestors : ∀ above, asked above → above ∈ F.ancestors node)
    (habove : F.Deepest asked above) (hother : F.Deepest asked other) : above = other :=
  eq_of_depth_eq (hancestors above habove.holds) (hancestors other hother.holds)
    (le_antisymm (hother.depth_le above habove.holds) (habove.depth_le other hother.holds))

/-- The first ancestor that is found on the way up is the deepest one. -/
theorem deepest_of_find {found : α → Bool}
    (hasked : ∀ above, asked above ↔ above ∈ F.ancestors node ∧ found above = true)
    (hfind : (F.ancestors node).find? found = some above) : F.Deepest asked above := by
  obtain ⟨hfound, before, after, hancestors, hbefore⟩ := List.find?_eq_some_iff_append.mp hfind
  refine ⟨(hasked above).mpr ⟨List.mem_of_find?_eq_some hfind, hfound⟩, fun other hother => ?_⟩
  obtain ⟨hmem, hother⟩ := (hasked other).mp hother
  have hordered := pairwise_ancestors (F := F) node
  rw [hancestors] at hmem hordered
  rcases List.mem_append.mp hmem with hearlier | hlater
  · exact absurd hother (by simpa using hbefore other hearlier)
  · rcases List.mem_cons.mp hlater with rfl | hafter
    · exact le_rfl
    · have hrest := (List.pairwise_append.mp hordered).2.1
      exact (List.rel_of_pairwise_cons hrest hafter).le

/-! ## Roots -/

/-- Every node has one root among its ancestors. -/
theorem exists_root (node : α) :
    ∃ root ∈ F.ancestors node, F.parent root = none ∧
      ∀ other ∈ F.ancestors node, F.parent other = none → other = root := by
  induction node using F.induction with
  | root node hroot =>
      refine ⟨node, self_mem_ancestors, hroot, fun other hother _ => ?_⟩
      rw [ancestors_root hroot] at hother
      exact List.mem_singleton.mp hother
  | child node above hparent ih =>
      obtain ⟨root, hmem, hroot, hunique⟩ := ih
      rw [ancestors_child hparent]
      refine ⟨root, List.mem_cons_of_mem _ hmem, hroot, ?_⟩
      refine List.forall_mem_cons.mpr ⟨fun hnone => ?_, hunique⟩
      rw [hparent] at hnone
      cases hnone

end Forest

end CrowPanel.Library
