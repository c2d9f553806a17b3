import Mathlib.Data.List.Induction
import Mathlib.Data.Set.Basic
import Mathlib.Tactic.Common

/-!
# Depth-first search with a depth limit

A depth-first search that enters some nodes at most once (the tracked ones) and cuts every route
at a fixed length does not find all that is within the limit: a tracked node may first be entered by
a long route, and its successors are then cut although a shorter route would have reached them.

This file states what such a search does find.  A route is the list of the branches taken from the
root.  `InTime` describes the nodes for which some chain of tracked nodes leaves the search no way to
enter a node of the chain too late; `InTime.found` says that they are found, by any search whose
records satisfy `Explored`.

When the search takes the branches of a node in their order (`ordered`), only the routes that are not
after the chain's own one in depth-first order can spoil it.
-/

namespace CrowPanel.Library

/-! ## The depth-first order of routes -/

/-- A route is not after another one: it is an initial part of it, or takes a smaller branch where
they part. -/
inductive NotAfter : List ℕ → List ℕ → Prop
  | nil (other : List ℕ) : NotAfter [] other
  | less {branch otherBranch : ℕ} (hless : branch < otherBranch) (route other : List ℕ) :
      NotAfter (branch :: route) (otherBranch :: other)
  | same (branch : ℕ) {route other : List ℕ} (hrest : NotAfter route other) :
      NotAfter (branch :: route) (branch :: other)

namespace NotAfter

variable {first second third : List ℕ}

theorem append (first rest : List ℕ) : NotAfter first (first ++ rest) := by
  induction first with
  | nil => exact .nil rest
  | cons branch first ih => exact .same branch ih

theorem refl (first : List ℕ) : NotAfter first first := by
  simpa using append first []

theorem trans (hfirst : NotAfter first second) (hsecond : NotAfter second third) :
    NotAfter first third := by
  induction hfirst generalizing third with
  | nil => exact .nil third
  | less hless route other =>
      cases hsecond with
      | less hother => exact .less (hless.trans hother) route _
      | same => exact .less hless route _
  | same branch hrest ih =>
      cases hsecond with
      | less hother => exact .less hother _ _
      | same _ hrest' => exact .same branch (ih hrest')

theorem append_left (start : List ℕ) (hrest : NotAfter first second) :
    NotAfter (start ++ first) (start ++ second) := by
  induction start with
  | nil => exact hrest
  | cons branch start ih => exact .same branch ih

theorem append_less (start : List ℕ) {branch otherBranch : ℕ} (hless : branch < otherBranch)
    (rest other : List ℕ) : NotAfter (start ++ branch :: rest) (start ++ otherBranch :: other) :=
  append_left start (.less hless rest other)

/-- Routes that part keep their order whatever follows. -/
theorem append_append (hfirst : NotAfter first second) (hpart : ¬ first <+: second)
    (rest other : List ℕ) : NotAfter (first ++ rest) (second ++ other) := by
  induction hfirst with
  | nil => exact absurd List.nil_prefix hpart
  | less hless route other' => exact .less hless _ _
  | same branch hrest ih =>
      exact .same branch (ih fun hprefix => hpart ((List.prefix_cons_inj branch).mpr hprefix))

end NotAfter

/-! ## Walks -/

/-- A graph with numbered branches, a root, and the nodes that a search enters at most once. -/
structure SearchSpace (V : Type*) where
  root : V
  branch : V → ℕ → Option V
  tracked : V → Prop
  root_untracked : ¬ tracked root

namespace SearchSpace

variable {V : Type*} (G : SearchSpace V)

/-- `Reaches node route`: the route leads from the root to the node. -/
inductive Reaches : V → List ℕ → Prop
  | root : Reaches G.root []
  | step {node next : V} {route : List ℕ} {index : ℕ} (hreaches : Reaches node route)
      (hbranch : G.branch node index = some next) : Reaches next (route ++ [index])

/-- `Walk node route entered`: the route leads from the root to the node and enters the tracked nodes
of the list, each of them once. -/
inductive Walk : V → List ℕ → List V → Prop
  | root : Walk G.root [] []
  | pass {node next : V} {route : List ℕ} {entered : List V} {index : ℕ}
      (hwalk : Walk node route entered) (hbranch : G.branch node index = some next)
      (huntracked : ¬ G.tracked next) : Walk next (route ++ [index]) entered
  | enter {node next : V} {route : List ℕ} {entered : List V} {index : ℕ}
      (hwalk : Walk node route entered) (hbranch : G.branch node index = some next)
      (htracked : G.tracked next) (hnew : next ∉ entered) :
      Walk next (route ++ [index]) (next :: entered)

/-- `Hop node route next`: the route leads from the node to the tracked node `next`, through
untracked nodes only. -/
inductive Hop : V → List ℕ → V → Prop
  | enter {node next : V} {index : ℕ} (hbranch : G.branch node index = some next)
      (htracked : G.tracked next) : Hop node [index] next
  | pass {node middle next : V} {index : ℕ} {route : List ℕ}
      (hbranch : G.branch node index = some middle) (huntracked : ¬ G.tracked middle)
      (hrest : Hop middle route next) : Hop node (index :: route) next

/-- `InTime node route`: the route leads to the node through a chain of tracked nodes, and no walk by
which the search could first enter a node of the chain is too long for the next hop. -/
inductive InTime (limit : ℕ) (ordered : Prop) : V → List ℕ → Prop
  | first {node : V} {route : List ℕ} (hhop : G.Hop G.root route node)
      (hlimit : route.length ≤ limit) : InTime limit ordered node route
  | next {node next : V} {route hop : List ℕ} (hbefore : InTime limit ordered node route)
      (hhop : G.Hop node hop next) (hwalk : ∃ entered, G.Walk node route entered)
      (htime : ∀ other entered, G.Walk node other entered → other.length ≤ limit →
        (ordered → NotAfter other route) → other.length + hop.length ≤ limit) :
      InTime limit ordered next (route ++ hop)

variable {G}

theorem Walk.reaches {node : V} {route : List ℕ} {entered : List V}
    (hwalk : G.Walk node route entered) : G.Reaches node route := by
  induction hwalk with
  | root => exact .root
  | pass _ hbranch _ ih => exact .step ih hbranch
  | enter _ hbranch _ _ ih => exact .step ih hbranch

/-- The last step of a walk. -/
theorem Walk.last {next : V} {route : List ℕ} {index : ℕ} {entered : List V}
    (hwalk : G.Walk next (route ++ [index]) entered) :
    ∃ node before, G.Walk node route before ∧ G.branch node index = some next ∧
      (¬ G.tracked next ∧ entered = before ∨
        G.tracked next ∧ next ∉ before ∧ entered = next :: before) := by
  generalize hwhole : route ++ [index] = whole at hwalk
  cases hwalk with
  | root => exact absurd hwhole (by simp)
  | @pass node _ before _ _ hwalk hbranch huntracked =>
      obtain ⟨rfl, hindex⟩ := List.append_inj' hwhole rfl
      obtain rfl := List.singleton_inj.mp hindex
      exact ⟨node, entered, hwalk, hbranch, .inl ⟨huntracked, rfl⟩⟩
  | @enter node _ _ before _ hwalk hbranch htracked hnew =>
      obtain ⟨rfl, hindex⟩ := List.append_inj' hwhole rfl
      obtain rfl := List.singleton_inj.mp hindex
      exact ⟨node, before, hwalk, hbranch, .inr ⟨htracked, hnew, rfl⟩⟩

/-- A route leads to one node only. -/
theorem Walk.unique {node other : V} {route : List ℕ} {entered otherEntered : List V}
    (hwalk : G.Walk node route entered) (hother : G.Walk other route otherEntered) :
    node = other ∧ entered = otherEntered := by
  induction hwalk generalizing other otherEntered with
  | root =>
      generalize hroute : ([] : List ℕ) = route at hother
      cases hother with
      | root => exact ⟨rfl, rfl⟩
      | pass => exact absurd hroute (by simp)
      | enter => exact absurd hroute (by simp)
  | pass _ hbranch huntracked ih =>
      obtain ⟨_, _, hbefore, hbranch', hlast⟩ := hother.last
      obtain ⟨rfl, rfl⟩ := ih hbefore
      obtain rfl := Option.some.inj (hbranch.symm.trans hbranch')
      exact ⟨rfl, (hlast.resolve_right fun h => huntracked h.1).2.symm⟩
  | enter _ hbranch htracked _ ih =>
      obtain ⟨_, _, hbefore, hbranch', hlast⟩ := hother.last
      obtain ⟨rfl, rfl⟩ := ih hbefore
      obtain rfl := Option.some.inj (hbranch.symm.trans hbranch')
      exact ⟨rfl, (hlast.resolve_left fun h => h.1 htracked).2.2.symm⟩

theorem Walk.mem_entered {node : V} {route : List ℕ} {entered : List V}
    (hwalk : G.Walk node route entered) (htracked : G.tracked node) : node ∈ entered := by
  cases hwalk with
  | root => exact absurd htracked G.root_untracked
  | pass _ _ huntracked => exact absurd htracked huntracked
  | enter => exact List.mem_cons_self

/-- The first part of a walk; what it has entered, the rest of the walk does not enter again. -/
theorem Walk.split {node : V} {first rest : List ℕ} {entered : List V}
    (hwalk : G.Walk node (first ++ rest) entered) :
    ∃ middle before, G.Walk middle first before ∧ before ⊆ entered ∧
      (rest ≠ [] → G.tracked node → node ∉ before) := by
  induction rest using List.reverseRecOn generalizing node entered with
  | nil => exact ⟨node, entered, by simpa using hwalk, fun _ h => h, fun h => absurd rfl h⟩
  | append_singleton rest index ih =>
      rw [← List.append_assoc] at hwalk
      obtain ⟨last, seen, hseen, _, hlast⟩ := hwalk.last
      obtain ⟨middle, before, hbefore, hsubset, _⟩ := ih hseen
      rcases hlast with ⟨huntracked, rfl⟩ | ⟨_, hnew, rfl⟩
      · exact ⟨middle, before, hbefore, hsubset, fun _ htracked => absurd htracked huntracked⟩
      · exact ⟨middle, before, hbefore, fun _ h => List.mem_cons_of_mem _ (hsubset h),
          fun _ _ hmem => hnew (hsubset hmem)⟩

/-- No walk to a tracked node continues to the same node. -/
theorem Walk.not_prefix {node : V} {route longer : List ℕ} {entered enteredLonger : List V}
    (htracked : G.tracked node) (hwalk : G.Walk node route entered)
    (hlonger : G.Walk node longer enteredLonger) (hne : route ≠ longer) : ¬ route <+: longer := by
  rintro ⟨rest, rfl⟩
  obtain ⟨middle, before, hbefore, _, hfresh⟩ := hlonger.split
  obtain ⟨rfl, rfl⟩ := hwalk.unique hbefore
  exact hfresh (by rintro rfl; simp at hne) htracked (hwalk.mem_entered htracked)

theorem Hop.tracked {node next : V} {route : List ℕ} (hhop : G.Hop node route next) :
    G.tracked next := by
  induction hhop with
  | enter _ htracked => exact htracked
  | pass _ _ _ ih => exact ih

/-- A hop starts with a branch. -/
theorem Hop.first_branch {node next : V} {route : List ℕ} (hhop : G.Hop node route next) :
    ∃ index rest, route = index :: rest ∧ ∃ child, G.branch node index = some child := by
  cases hhop with
  | enter hbranch => exact ⟨_, [], rfl, _, hbranch⟩
  | pass hbranch _ _ => exact ⟨_, _, rfl, _, hbranch⟩

theorem InTime.tracked {limit : ℕ} {ordered : Prop} {node : V} {route : List ℕ}
    (hintime : G.InTime limit ordered node route) : G.tracked node := by
  cases hintime with
  | first hhop => exact hhop.tracked
  | next _ hhop => exact hhop.tracked

/-! ## Records of a search -/

/-- The records which a part of a search adds: each new record is a walk within the limit, and what
is one hop further and still within the limit has a record too. -/
structure Explored (G : SearchSpace V) (limit : ℕ) (ordered : Prop)
    (before after : Set (V × List ℕ)) : Prop where
  grows : before ⊆ after
  expanded : ∀ node route, (node, route) ∈ after → (node, route) ∉ before →
    (∃ entered, G.Walk node route entered) ∧ route.length ≤ limit ∧
      ∀ hop next, G.Hop node hop next → route.length + hop.length ≤ limit →
        ∃ found, (next, found) ∈ after ∧ (ordered → NotAfter found (route ++ hop))

namespace Explored

variable {limit : ℕ} {ordered : Prop} {first second third : Set (V × List ℕ)}

theorem refl (records : Set (V × List ℕ)) : Explored G limit ordered records records where
  grows := subset_rfl
  expanded := fun _ _ hmem hnew => absurd hmem hnew

theorem trans (hfirst : Explored G limit ordered first second)
    (hsecond : Explored G limit ordered second third) : Explored G limit ordered first third where
  grows := hfirst.grows.trans hsecond.grows
  expanded := by
    intro node route hmem hnew
    by_cases hmiddle : (node, route) ∈ second
    · obtain ⟨hwalk, hlimit, hhops⟩ := hfirst.expanded node route hmiddle hnew
      refine ⟨hwalk, hlimit, fun hop next hhop hlength => ?_⟩
      obtain ⟨found, hfound, hafter⟩ := hhops hop next hhop hlength
      exact ⟨found, hsecond.grows hfound, hafter⟩
    · exact hsecond.expanded node route hmem hmiddle

end Explored

/-- A search that starts without records finds every node of a chain in time. -/
theorem InTime.found {limit : ℕ} {ordered : Prop} {records : Set (V × List ℕ)}
    (hexplored : Explored G limit ordered ∅ records)
    (hroot : ∀ hop next, G.Hop G.root hop next → hop.length ≤ limit →
      ∃ found, (next, found) ∈ records ∧ (ordered → NotAfter found hop))
    {node : V} {route : List ℕ} (hintime : G.InTime limit ordered node route) :
    ∃ found, (node, found) ∈ records ∧ (ordered → NotAfter found route) := by
  induction hintime with
  | first hhop hlimit => exact hroot _ _ hhop hlimit
  | @next node next route hop hbefore hhop hwalk htime ih =>
      obtain ⟨found, hfound, hafter⟩ := ih
      obtain ⟨⟨entered, hentered⟩, hlimit, hhops⟩ := hexplored.expanded node found hfound (by simp)
      obtain ⟨last, hlast, hnext⟩ :=
        hhops hop next hhop (htime found entered hentered hlimit hafter)
      refine ⟨last, hlast, fun hordered => (hnext hordered).trans ?_⟩
      obtain ⟨_, hwalk⟩ := hwalk
      by_cases hsame : found = route
      · exact hsame ▸ .refl _
      · -- the record is no part of the chain's own route, which enters the node only once
        exact (hafter hordered).append_append
          (hentered.not_prefix hbefore.tracked hwalk hsame) hop hop

end SearchSpace

end CrowPanel.Library
