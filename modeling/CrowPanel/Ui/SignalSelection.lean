import CrowPanel.Ui.Hierarchy
import Mathlib.Data.List.MinMax
import Mathlib.Data.Prod.Lex

/-!
# The signals of the overview

For each slot `select_signal_for_slot` takes the first role for which there is a measurement, and of
its measurements the one that stands for most of the plant.  `find_shared_signal_scope` then looks for
the object under which all the selected signals are.

## Strategy

Undisturbed, the loop over the tags is `List.argmin` for the order in which the comparison ranks its
candidates, and the keys of a candidate are facts about the hierarchy.  The two walks of
`find_shared_signal_scope` ask for membership among ancestors, so their result is the first ancestor of
the first owner that all others share (`Forest.deepest_of_find`).
-/

namespace CrowPanel.Ui

open Library DataModel Reads OrderDual

variable {records : Records}

/-! ## The keys of a signal -/

/-- What the object that owns a signal counts for. -/
def ownerScope (records : Records) (owner : Option ℕ) : ℕ :=
  (owner.bind fun place => records.equipment[place]?).elim 0 fun object =>
    signalScope object.entityKind

/-- The number of tags of an owner that could stand on the overview. -/
def ownerSignals (records : Records) (owner : Option ℕ) : ℕ :=
  records.tags.countP fun tag =>
    tag.equipmentIndex = owner && isNumericMeasurement tag && roleBelongsToOverviewSlots tag

/-- The depth of an owner; what is no object has depth zero. -/
def Hierarchy.ownerDepth (hierarchy : Hierarchy records) (owner : Option ℕ) : ℕ :=
  owner.elim 0 hierarchy.forest.depth

/-- The order of preference among the tags for a role, the smallest first: systems and processes
before equipment before anything else, then the smaller depth of the owner, then more signals of the
owner, then the smaller index. -/
def signalKey (hierarchy : Hierarchy records) (place : ℕ) (tag : Tag) :
    ℕᵒᵈ ×ₗ ℕ ×ₗ ℕᵒᵈ ×ₗ ℕ :=
  toLex (toDual (ownerScope records tag.equipmentIndex),
    toLex (hierarchy.ownerDepth tag.equipmentIndex,
      toLex (toDual (ownerSignals records tag.equipmentIndex), place)))

/-- The tag is a readable, non-writable numeric tag with the role. -/
def Measures (role : String) (tag : Tag) : Prop :=
  isNumericMeasurement tag = true ∧ tag.hasRole role = true

instance (role : String) (tag : Tag) : Decidable (Measures role tag) :=
  inferInstanceAs (Decidable (_ ∧ _))

/-! ## What the loops compute -/

theorem run_hierarchyDepthFrom (hierarchy : Hierarchy records) {guard place : ℕ}
    (hguard : (hierarchy.forest.ancestors place).length ≤ guard) :
    (hierarchyDepthFrom guard (some place)).run records = hierarchy.forest.depth place := by
  refine hierarchy.forest.climb (P := fun guard place =>
    (hierarchyDepthFrom guard (some place)).run records = hierarchy.forest.depth place)
    (fun guard place hroot => ?_) (fun guard place above hparent ih => ?_) hguard
  · rw [Forest.depth_root hroot, hierarchyDepthFrom, run_bind, readEquipment, run_read,
      Option.bind_some]
    rcases hierarchy.root_cases hroot with hobject | ⟨object, hobject, -, hparent⟩
    · rw [hobject]
      rfl
    · rw [hobject]
      simp only [hparent, true_or, if_true, run_pure]
  · obtain ⟨object, hobject, hindex, hparentIndex, hne⟩ := hierarchy.exists_object hparent
    rw [Forest.depth_child hparent, ← ih, hierarchyDepthFrom, run_bind, readEquipment, run_read,
      Option.bind_some, hobject]
    simp only [hparentIndex, hindex, Option.some_inj, hne, reduceCtorEq, or_self, if_false,
      run_bind, run_pure]

theorem run_equipmentHierarchyDepth (hierarchy : Hierarchy records) (owner : Option ℕ) :
    (equipmentHierarchyDepth owner).run records = hierarchy.ownerDepth owner := by
  rw [equipmentHierarchyDepth, run_bind, readObjectCount, run_read]
  cases owner with
  | none => cases records.equipment.length <;> rfl
  | some place =>
      rcases Nat.eq_zero_or_pos records.equipment.length with hempty | hobjects
      · have hroot := hierarchy.parent_of_length_le (hempty ▸ Nat.zero_le place)
        have hdepth : hierarchy.ownerDepth (some place) = 0 := Forest.depth_root hroot
        rw [hempty, hdepth]
        rfl
      · exact run_hierarchyDepthFrom hierarchy (hierarchy.length_ancestors_le hobjects place)

theorem run_countEquipmentOverviewSignals (owner : Option ℕ) :
    (countEquipmentOverviewSignals owner).run records = ownerSignals records owner := by
  rw [countEquipmentOverviewSignals, run_bind, readTagCount, run_read, run_countTags, ownerSignals]

/-- A tag as a candidate. -/
def candidateOf (hierarchy : Hierarchy records) (tag : Tag) : SignalCandidate where
  tagIndex := tag.index
  scope := ownerScope records tag.equipmentIndex
  coverage := ownerSignals records tag.equipmentIndex
  depth := hierarchy.ownerDepth tag.equipmentIndex

/-- The order in which candidates replace each other. -/
def SignalCandidate.rank (candidate : SignalCandidate) : ℕᵒᵈ ×ₗ ℕ ×ₗ ℕᵒᵈ :=
  toLex (toDual candidate.scope, toLex (candidate.depth, toDual candidate.coverage))

theorem SignalCandidate.replaces_iff {candidate best : SignalCandidate} :
    candidate.replaces best = true ↔ candidate.rank < best.rank := by
  rw [rank, rank, Prod.Lex.toLex_lt_toLex, Prod.Lex.toLex_lt_toLex]
  simp [replaces]

/-- One round of the loop keeps the better of two candidates. -/
theorem run_compareSignal (hierarchy : Hierarchy records) (role : String)
    (best : Option SignalCandidate) (index : ℕ) :
    (compareSignal role best index).run records =
      records.tags[index]?.elim best fun tag =>
        if Measures role tag then
          List.argAux (fun first second : SignalCandidate => first.rank < second.rank) best
            (candidateOf hierarchy tag)
        else best := by
  simp only [compareSignal, readTag, run_bind, run_read, Option.bind_some]
  cases records.tags[index]? with
  | none => rfl
  | some tag =>
      have hmeasures : (isNumericMeasurement tag && tag.hasRole role) = true ↔ Measures role tag :=
        Bool.and_eq_true_iff
      simp only [hmeasures, Option.elim_some]
      split
      · simp only [run_bind, readEquipment, run_read, run_countEquipmentOverviewSignals,
          run_equipmentHierarchyDepth hierarchy, run_pure]
        change (if best.all (candidateOf hierarchy tag).replaces then
          some (candidateOf hierarchy tag) else best) = _
        cases best with
        | none => rfl
        | some best =>
            simp only [Option.all_some, SignalCandidate.replaces_iff, List.argAux]
      · rfl

/-- The tags for a role, as candidates. -/
def candidatesFor (hierarchy : Hierarchy records) (role : String) : List SignalCandidate :=
  (records.tags.filter fun tag => Measures role tag).map (candidateOf hierarchy)

/-- Undisturbed, the first role with a candidate decides, and of its candidates the least. -/
theorem run_selectSignalForSlot (hierarchy : Hierarchy records) (slot : List String) :
    (selectSignalForSlot slot).run records =
      slot.findSome? fun role =>
        ((candidatesFor hierarchy role).argmin SignalCandidate.rank).map
          SignalCandidate.tagIndex := by
  have hloop : ∀ role, ((List.range records.tags.length).foldlM (compareSignal role) none).run
      records = (candidatesFor hierarchy role).argmin SignalCandidate.rank := by
    intro role
    simp only [run_foldlM, run_compareSignal hierarchy]
    refine (foldl_range_getElem? records.tags (fun best tag => tag.elim best fun tag =>
      if Measures role tag then
        List.argAux (fun first second : SignalCandidate => first.rank < second.rank) best
          (candidateOf hierarchy tag)
      else best) none).trans ?_
    rw [List.argmin, candidatesFor, List.foldl_map, List.foldl_filter]
    simp only [Option.elim_some, decide_eq_true_eq]
  rw [selectSignalForSlot, run_bind, run_findSomeM?, readTagCount, run_read]
  simp only [run_bind, run_pure, hloop]

/-! ## The selection is optimal -/

/-- The candidates stand in the order of their indices. -/
theorem pairwise_candidates (hierarchy : Hierarchy records) (role : String) :
    (candidatesFor hierarchy role).Pairwise fun first second =>
      ∀ place other, first.tagIndex = some place → second.tagIndex = some other → place < other := by
  have htags : records.tags.Pairwise fun first second =>
      ∀ place other, first.index = some place → second.index = some other → place < other := by
    refine List.pairwise_iff_getElem.mpr fun place other hplace hother hlt => ?_
    have hfirst := hierarchy.tags_indexed place _ (List.getElem?_eq_getElem hplace)
    have hsecond := hierarchy.tags_indexed other _ (List.getElem?_eq_getElem hother)
    intro first second hfirst' hsecond'
    rw [hfirst, Option.some_inj] at hfirst'
    rw [hsecond, Option.some_inj] at hsecond'
    omega
  exact List.pairwise_map.mpr (htags.filter _)

/-- Of two entries of an ordered list the one that is found first comes first. -/
theorem rel_of_idxOf_le {α : Type} [DecidableEq α] {R : α → α → Prop} {entries : List α}
    {first second : α} (hordered : entries.Pairwise R) (hfirst : first ∈ entries)
    (hsecond : second ∈ entries) (hle : entries.idxOf first ≤ entries.idxOf second) :
    first = second ∨ R first second := by
  rcases Nat.eq_or_lt_of_le hle with hsame | hlt
  · exact .inl (List.idxOf_inj hfirst |>.mp hsame)
  · have hrel := List.pairwise_iff_getElem.mp hordered _ _ (List.idxOf_lt_length_of_mem hfirst)
      (List.idxOf_lt_length_of_mem hsecond) hlt
    rw [List.getElem_idxOf, List.getElem_idxOf] at hrel
    exact .inr hrel

/-- The rank and then the index make the key. -/
theorem signalKey_le_iff (hierarchy : Hierarchy records) {place other : ℕ} {tag otherTag : Tag} :
    signalKey hierarchy place tag ≤ signalKey hierarchy other otherTag ↔
      (candidateOf hierarchy tag).rank < (candidateOf hierarchy otherTag).rank ∨
        (candidateOf hierarchy tag).rank = (candidateOf hierarchy otherTag).rank ∧
          place ≤ other := by
  simp only [signalKey, SignalCandidate.rank, candidateOf, Prod.Lex.toLex_le_toLex,
    Prod.Lex.toLex_lt_toLex, toDual_lt_toDual, EmbeddingLike.apply_eq_iff_eq,
    Prod.mk.injEq]
  tauto

theorem mem_candidatesFor (hierarchy : Hierarchy records) {role : String}
    {candidate : SignalCandidate} :
    candidate ∈ candidatesFor hierarchy role ↔ ∃ (place : ℕ) (tag : Tag),
      records.tags[place]? = some tag ∧ Measures role tag ∧ candidateOf hierarchy tag = candidate ∧
        candidate.tagIndex = some place := by
  simp only [candidatesFor, List.mem_map, List.mem_filter, decide_eq_true_eq]
  constructor
  · rintro ⟨tag, ⟨htag, hmeasures⟩, rfl⟩
    obtain ⟨place, hplace⟩ := List.mem_iff_getElem?.mp htag
    exact ⟨place, tag, hplace, hmeasures, rfl, hierarchy.tags_indexed place tag hplace⟩
  · rintro ⟨place, tag, hplace, hmeasures, hcandidate, -⟩
    exact ⟨tag, ⟨List.mem_of_getElem? hplace, hmeasures⟩, hcandidate⟩

theorem candidatesFor_eq_nil_iff (hierarchy : Hierarchy records) {role : String} :
    candidatesFor hierarchy role = [] ↔ ∀ tag ∈ records.tags, ¬Measures role tag := by
  rw [candidatesFor, List.map_eq_nil_iff, List.filter_eq_nil_iff]
  simp only [decide_eq_true_eq]

/-- The least candidate for a role has the least key. -/
theorem argmin_candidates (hierarchy : Hierarchy records) {role : String} {best : SignalCandidate}
    (hbest : (candidatesFor hierarchy role).argmin SignalCandidate.rank = some best) :
    ∃ (place : ℕ) (tag : Tag), best.tagIndex = some place ∧ records.tags[place]? = some tag ∧
      Measures role tag ∧ ∀ (other : ℕ) (otherTag : Tag), records.tags[other]? = some otherTag →
        Measures role otherTag →
          signalKey hierarchy place tag ≤ signalKey hierarchy other otherTag := by
  obtain ⟨hmem, hle, hfirst⟩ := List.argmin_eq_some_iff.mp hbest
  obtain ⟨place, tag, hplace, hmeasures, rfl, hindex⟩ := (mem_candidatesFor hierarchy).mp hmem
  refine ⟨place, tag, hindex, hplace, hmeasures, fun other otherTag hother hotherMeasures => ?_⟩
  have hotherIndex := hierarchy.tags_indexed other otherTag hother
  have hotherMem : candidateOf hierarchy otherTag ∈ candidatesFor hierarchy role :=
    (mem_candidatesFor hierarchy).mpr ⟨other, otherTag, hother, hotherMeasures, rfl, hotherIndex⟩
  rw [signalKey_le_iff]
  rcases lt_or_eq_of_le (hle _ hotherMem) with hlt | hsame
  · exact .inl hlt
  · -- of candidates with the same rank the first is taken
    refine .inr ⟨hsame, ?_⟩
    have hposition := hfirst _ hotherMem hsame.ge
    rcases rel_of_idxOf_le (pairwise_candidates hierarchy role) hmem hotherMem hposition with
      heq | hlt
    · have hindices := congrArg SignalCandidate.tagIndex heq
      rw [hindex] at hindices
      exact (Option.some.inj (hindices.trans hotherIndex)).le
    · exact (hlt place other hindex hotherIndex).le

/-- **Signal selection.**  A signal is selected exactly if there is a measurement for some role of the
slot.  It is one for the first such role, and no other measurement for this role has a smaller key. -/
theorem selectSignalForSlot_best (hierarchy : Hierarchy records) (slot : List String) :
    (((selectSignalForSlot slot).run records).isSome = true ↔
        ∃ role ∈ slot, ∃ tag ∈ records.tags, Measures role tag) ∧
      ∀ selected, (selectSignalForSlot slot).run records = some selected →
        ∃ (before after : List String) (role : String) (place : ℕ) (tag : Tag),
          slot = before ++ role :: after ∧
            (∀ earlier ∈ before, ∀ other ∈ records.tags, ¬Measures earlier other) ∧
            selected = some place ∧ records.tags[place]? = some tag ∧ Measures role tag ∧
            ∀ (other : ℕ) (otherTag : Tag), records.tags[other]? = some otherTag →
              Measures role otherTag →
                signalKey hierarchy place tag ≤ signalKey hierarchy other otherTag := by
  have hnone : ∀ role, ((candidatesFor hierarchy role).argmin SignalCandidate.rank).map
      SignalCandidate.tagIndex = none ↔ ∀ tag ∈ records.tags, ¬Measures role tag := fun role => by
    rw [Option.map_eq_none_iff, List.argmin_eq_none, candidatesFor_eq_nil_iff]
  rw [run_selectSignalForSlot hierarchy]
  constructor
  · rw [← not_iff_not, Bool.not_eq_true, Option.isSome_eq_false_iff, Option.isNone_iff_eq_none,
      List.findSome?_eq_none_iff]
    simp only [hnone]
    push Not
    rfl
  · intro selected hselected
    obtain ⟨before, role, after, rfl, hrole, hbefore⟩ :=
      List.findSome?_eq_some_iff.mp hselected
    obtain ⟨best, hbest, rfl⟩ := Option.map_eq_some_iff.mp hrole
    obtain ⟨place, tag, hindex, hplace, hmeasures, hle⟩ := argmin_candidates hierarchy hbest
    exact ⟨before, after, role, place, tag, rfl, fun earlier hearlier =>
      (hnone earlier).mp (hbefore earlier hearlier), hindex, hplace, hmeasures, hle⟩

/-! ## The scope of the selected signals -/

/-- The place of the object that owns a tag, as the tag has it. -/
def tagOwner (records : Records) (tagIndex : ℕ) : Option ℕ :=
  records.tags[tagIndex]?.bind Tag.equipmentIndex

/-- The object at the place owns each of the tags, or one of the ancestors of their owners is it. -/
def SharedScope (hierarchy : Hierarchy records) (tagIndices : List ℕ) (scope : ℕ) : Prop :=
  scope < records.equipment.length ∧ ∀ tagIndex ∈ tagIndices,
    ∃ owner, tagOwner records tagIndex = some owner ∧ scope ∈ hierarchy.forest.ancestors owner

theorem run_sourceInScopeFrom (hierarchy : Hierarchy records) {candidate : Equipment}
    {scope guard place : ℕ} (hcandidate : records.equipment[scope]? = some candidate)
    (hguard : (hierarchy.forest.ancestors place).length ≤ guard) :
    (sourceInScopeFrom candidate guard (some place)).run records =
      decide (scope ∈ hierarchy.forest.ancestors place) := by
  have hscope := hierarchy.objects_indexed scope candidate hcandidate
  refine hierarchy.forest.climb (P := fun guard place =>
    (sourceInScopeFrom candidate guard (some place)).run records =
      decide (scope ∈ hierarchy.forest.ancestors place))
    (fun guard place hroot => ?_) (fun guard place above hparent ih => ?_) hguard
  · rw [Forest.ancestors_root hroot, sourceInScopeFrom, run_bind, readEquipment, run_read,
      Option.bind_some]
    rcases hierarchy.root_cases hroot with hobject | ⟨source, hobject, hindex, hparent⟩
    · -- the scope is an object, so it is not at this place
      have hne : scope ≠ place := by
        rintro rfl
        rw [hcandidate] at hobject
        cases hobject
      simp [hobject, hne]
    · rw [hobject]
      simp only [hindex, hscope, Option.some_inj, hparent, true_or, if_true, List.mem_singleton]
      by_cases hsame : place = scope
      · simp only [hsame, if_true, run_pure, decide_true]
      · simp only [hsame, Ne.symm hsame, if_false, run_pure, decide_false]
  · obtain ⟨source, hobject, hindex, hparentIndex, hne⟩ := hierarchy.exists_object hparent
    rw [Forest.ancestors_child hparent, sourceInScopeFrom, run_bind, readEquipment, run_read,
      Option.bind_some, hobject]
    simp only [hparentIndex, hindex, hscope, Option.some_inj, hne, reduceCtorEq, or_self, if_false,
      List.mem_cons]
    by_cases hsame : place = scope
    · simp only [hsame, if_true, run_pure, true_or, decide_true]
    · simp only [hsame, Ne.symm hsame, if_false, false_or, ih]

/-- The inner walk, from the owner of a tag. -/
theorem run_sourceInScope (hierarchy : Hierarchy records) {candidate : Equipment} {scope : ℕ}
    (hcandidate : records.equipment[scope]? = some candidate) (owner : Option ℕ) :
    (sourceInScopeFrom candidate records.equipment.length owner).run records =
      owner.any fun place => scope ∈ hierarchy.forest.ancestors place := by
  obtain ⟨hlt, -⟩ := List.getElem?_eq_some_iff.mp hcandidate
  cases owner with
  | none => cases records.equipment.length <;> rfl
  | some place =>
      exact run_sourceInScopeFrom hierarchy hcandidate
        (hierarchy.length_ancestors_le (Nat.zero_lt_of_lt hlt) place)

/-- The test of a candidate: the other tags are in its scope. -/
def containsAll (hierarchy : Hierarchy records) (tagIndices : List ℕ) (scope : ℕ) : Bool :=
  tagIndices.all fun tagIndex => (tagOwner records tagIndex).any fun owner =>
    scope ∈ hierarchy.forest.ancestors owner

/-- One round of the outer walk. -/
theorem run_sharedScopeFrom_succ (hierarchy : Hierarchy records) (tagIndices : List ℕ)
    {candidate : Equipment} {guard place : ℕ}
    (hcandidate : records.equipment[place]? = some candidate) :
    (sharedScopeFrom records.equipment.length (tagIndices.map some) (guard + 1)
        (some place)).run records =
      if containsAll hierarchy tagIndices place then some candidate
      else if candidate.parentIndex = none ∨ candidate.parentIndex = candidate.index then none
      else (sharedScopeFrom records.equipment.length (tagIndices.map some) guard
        candidate.parentIndex).run records := by
  have htest : ∀ {test : Option ℕ → Lookup Bool},
      (∀ tagIndex, (test (some tagIndex)).run records =
        (tagOwner records tagIndex).any fun owner =>
          place ∈ hierarchy.forest.ancestors owner) →
      ((tagIndices.map some).allM test).run records = containsAll hierarchy tagIndices place := by
    intro test htest
    rw [run_allM, List.all_map, containsAll]
    congr 1
    funext tagIndex
    exact htest tagIndex
  rw [sharedScopeFrom, run_bind, readEquipment, run_read, Option.bind_some, hcandidate]
  dsimp only
  rw [run_bind, htest fun tagIndex => ?_]
  · split
    · rfl
    · split <;> rfl
  · simp only [readTag, run_bind, run_read, Option.bind_some, tagOwner]
    cases records.tags[tagIndex]? with
    | none => rfl
    | some tag => exact run_sourceInScope hierarchy hcandidate tag.equipmentIndex

theorem run_sharedScopeFrom (hierarchy : Hierarchy records) (tagIndices : List ℕ)
    {guard place : ℕ} (hguard : (hierarchy.forest.ancestors place).length ≤ guard) :
    (sharedScopeFrom records.equipment.length (tagIndices.map some) guard (some place)).run records =
      ((hierarchy.forest.ancestors place).find? (containsAll hierarchy tagIndices)).bind
        fun scope => records.equipment[scope]? := by
  refine hierarchy.forest.climb (P := fun guard place =>
    (sharedScopeFrom records.equipment.length (tagIndices.map some) guard (some place)).run records =
      ((hierarchy.forest.ancestors place).find? (containsAll hierarchy tagIndices)).bind
        fun scope => records.equipment[scope]?)
    (fun guard place hroot => ?_) (fun guard place above hparent ih => ?_) hguard
  · rw [Forest.ancestors_root hroot, List.find?_singleton]
    rcases hierarchy.root_cases hroot with hobject | ⟨candidate, hobject, -, hparent⟩
    · rw [sharedScopeFrom, run_bind, readEquipment, run_read, Option.bind_some, hobject]
      cases containsAll hierarchy tagIndices place with
      | true => exact hobject.symm
      | false => rfl
    · rw [run_sharedScopeFrom_succ hierarchy tagIndices hobject]
      simp only [hparent, true_or, if_true]
      cases containsAll hierarchy tagIndices place with
      | true => exact hobject.symm
      | false => rfl
  · obtain ⟨candidate, hobject, hindex, hparentIndex, hne⟩ := hierarchy.exists_object hparent
    rw [Forest.ancestors_child hparent, run_sharedScopeFrom_succ hierarchy tagIndices hobject]
    simp only [hparentIndex, hindex, Option.some_inj, hne, reduceCtorEq, or_self, if_false,
      List.find?_cons]
    cases containsAll hierarchy tagIndices place with
    | true => exact hobject.symm
    | false => exact ih

/-- The search is for the first ancestor of the first owner that all others share. -/
theorem run_findSharedSignalScope (hierarchy : Hierarchy records) (first : ℕ) (others : List ℕ) :
    (findSharedSignalScope ((first :: others).map some)).run records =
      (tagOwner records first).bind fun owner =>
        ((hierarchy.forest.ancestors owner).find? (containsAll hierarchy others)).bind
          fun scope => records.equipment[scope]? := by
  rw [List.map_cons, findSharedSignalScope, run_bind, readTag, run_read, Option.bind_some, tagOwner]
  cases records.tags[first]? with
  | none => rfl
  | some tag =>
      dsimp only
      rw [run_bind, readObjectCount, run_read, Option.bind_some]
      cases tag.equipmentIndex with
      | none => cases records.equipment.length <;> rfl
      | some owner =>
          rcases Nat.eq_zero_or_pos records.equipment.length with hempty | hobjects
          · have hroot := hierarchy.parent_of_length_le (hempty ▸ Nat.zero_le owner)
            have hobject : records.equipment[owner]? = none :=
              List.getElem?_eq_none (hempty ▸ Nat.zero_le owner)
            rw [hempty, Option.bind_some, Forest.ancestors_root hroot, List.find?_singleton]
            cases containsAll hierarchy others owner with
            | true => exact hobject.symm
            | false => rfl
          · exact run_sharedScopeFrom hierarchy others
              (hierarchy.length_ancestors_le hobjects owner)

theorem containsAll_iff (hierarchy : Hierarchy records) {tagIndices : List ℕ} {scope : ℕ} :
    containsAll hierarchy tagIndices scope = true ↔ ∀ tagIndex ∈ tagIndices,
      ∃ owner, tagOwner records tagIndex = some owner ∧
        scope ∈ hierarchy.forest.ancestors owner := by
  simp only [containsAll, List.all_eq_true, Option.any_eq_true, decide_eq_true_eq]

/-- The shared scopes are those ancestors of the first owner that pass the test. -/
theorem sharedScope_cons_iff (hierarchy : Hierarchy records) {first owner : ℕ} {others : List ℕ}
    (howner : tagOwner records first = some owner) (hlt : owner < records.equipment.length)
    (scope : ℕ) :
    SharedScope hierarchy (first :: others) scope ↔
      scope ∈ hierarchy.forest.ancestors owner ∧ containsAll hierarchy others scope = true := by
  rw [SharedScope, List.forall_mem_cons, containsAll_iff]
  constructor
  · rintro ⟨-, ⟨found, hfound, hmem⟩, hothers⟩
    rw [howner, Option.some_inj] at hfound
    exact ⟨hfound ▸ hmem, hothers⟩
  · rintro ⟨hmem, hothers⟩
    exact ⟨hierarchy.ancestors_lt hlt scope hmem, ⟨owner, howner, hmem⟩, hothers⟩

/-- A shared scope is not missed by the walk, although it may find a deeper one. -/
theorem SharedScope.find (hierarchy : Hierarchy records) {first scope : ℕ} {others : List ℕ}
    (hshared : SharedScope hierarchy (first :: others) scope) :
    ∃ owner found, tagOwner records first = some owner ∧ owner < records.equipment.length ∧
      (hierarchy.forest.ancestors owner).find? (containsAll hierarchy others) = some found := by
  obtain ⟨owner, howner, hmem⟩ := hshared.2 first List.mem_cons_self
  have hlt := hierarchy.lt_of_mem_ancestors hmem hshared.1
  have hcontains := ((sharedScope_cons_iff hierarchy howner hlt scope).mp hshared).2
  obtain ⟨found, hfound⟩ := Option.isSome_iff_exists.mp
    (List.find?_isSome.mpr ⟨scope, hmem, hcontains⟩)
  exact ⟨owner, found, howner, hlt, hfound⟩

/-- The result is the deepest shared scope. -/
theorem findSharedSignalScope_eq_some_iff (hierarchy : Hierarchy records) {tagIndices : List ℕ}
    (hnonempty : tagIndices ≠ []) {object : Equipment} :
    (findSharedSignalScope (tagIndices.map some)).run records = some object ↔
      ∃ scope, records.equipment[scope]? = some object ∧
        hierarchy.forest.Deepest (SharedScope hierarchy tagIndices) scope := by
  obtain ⟨first, others, rfl⟩ := List.exists_cons_of_ne_nil hnonempty
  rw [run_findSharedSignalScope hierarchy]
  constructor
  · intro hresult
    obtain ⟨owner, howner, hresult⟩ := Option.bind_eq_some_iff.mp hresult
    obtain ⟨scope, hfind, hobject⟩ := Option.bind_eq_some_iff.mp hresult
    obtain ⟨hscope, -⟩ := List.getElem?_eq_some_iff.mp hobject
    have hlt := hierarchy.lt_of_mem_ancestors (List.mem_of_find?_eq_some hfind) hscope
    exact ⟨scope, hobject,
      Forest.deepest_of_find (sharedScope_cons_iff hierarchy howner hlt) hfind⟩
  · rintro ⟨scope, hobject, hdeepest⟩
    obtain ⟨owner, found, howner, hlt, hfind⟩ := SharedScope.find hierarchy hdeepest.holds
    have hasked := @sharedScope_cons_iff _ hierarchy _ _ others howner hlt
    have hsame := hdeepest.unique (fun above habove => ((hasked above).mp habove).1)
      (Forest.deepest_of_find hasked hfind)
    rw [howner, Option.bind_some, hfind, Option.bind_some, ← hsame, hobject]

/-- **The shared scope.**  There is a result exactly if the owners of all the tags have a common
ancestor, where an object is one of its own.  It is then the deepest one, whatever the order of the
tags. -/
theorem findSharedSignalScope_deepest (hierarchy : Hierarchy records) {tagIndices : List ℕ}
    (hnonempty : tagIndices ≠ []) :
    (((findSharedSignalScope (tagIndices.map some)).run records).isSome = true ↔
        ∃ scope, SharedScope hierarchy tagIndices scope) ∧
      (∀ object, (findSharedSignalScope (tagIndices.map some)).run records = some object →
        ∃ scope, records.equipment[scope]? = some object ∧
          hierarchy.forest.Deepest (SharedScope hierarchy tagIndices) scope) ∧
      ∀ reordered : List ℕ, reordered.Perm tagIndices →
        (findSharedSignalScope (reordered.map some)).run records =
          (findSharedSignalScope (tagIndices.map some)).run records := by
  refine ⟨⟨fun hsome => ?_, fun ⟨scope, hshared⟩ => ?_⟩, fun object => ?_, fun reordered hperm => ?_⟩
  · obtain ⟨object, hobject⟩ := Option.isSome_iff_exists.mp hsome
    obtain ⟨scope, -, hdeepest⟩ := (findSharedSignalScope_eq_some_iff hierarchy hnonempty).mp hobject
    exact ⟨scope, hdeepest.holds⟩
  · obtain ⟨first, others, rfl⟩ := List.exists_cons_of_ne_nil hnonempty
    obtain ⟨owner, found, howner, hlt, hfind⟩ := hshared.find hierarchy
    have hfound := hierarchy.ancestors_lt hlt found (List.mem_of_find?_eq_some hfind)
    rw [run_findSharedSignalScope hierarchy, howner, Option.bind_some, hfind, Option.bind_some,
      List.getElem?_eq_getElem hfound]
    rfl
  · exact (findSharedSignalScope_eq_some_iff hierarchy hnonempty).mp
  · have hreordered : reordered ≠ [] := by
      rintro rfl
      exact hnonempty hperm.symm.eq_nil
    have hsame : SharedScope hierarchy reordered = SharedScope hierarchy tagIndices := by
      funext scope
      simp only [SharedScope, hperm.mem_iff]
    apply Option.ext
    intro object
    rw [findSharedSignalScope_eq_some_iff hierarchy hreordered,
      findSharedSignalScope_eq_some_iff hierarchy hnonempty, hsame]

/-- The pressure of the compressor is preferred to that of its motor, and to any temperature. -/
theorem selectSignalForSlot_best_plant :
    (selectSignalForSlot ["pressure", "temperature"]).run plant = some (some 1) ∧
      ∃ (before after : List String) (role : String) (place : ℕ) (tag : Tag),
        ["pressure", "temperature"] = before ++ role :: after ∧
          (∀ earlier ∈ before, ∀ other ∈ plant.tags, ¬Measures earlier other) ∧
          some 1 = some place ∧ plant.tags[place]? = some tag ∧ Measures role tag ∧
          ∀ (other : ℕ) (otherTag : Tag), plant.tags[other]? = some otherTag →
            Measures role otherTag →
              signalKey plant_hierarchy place tag ≤ signalKey plant_hierarchy other otherTag := by
  have hselected : (selectSignalForSlot ["pressure", "temperature"]).run plant =
      some (some 1) := by decide +kernel
  exact ⟨hselected, (selectSignalForSlot_best plant_hierarchy _).2 _ hselected⟩

/-- The compressor and the tank share the station. -/
theorem findSharedSignalScope_deepest_plant :
    (findSharedSignalScope ([1, 2].map some)).run plant = some (plantObject 0 none .system) ∧
      ∃ scope, plant.equipment[scope]? = some (plantObject 0 none .system) ∧
        plant_hierarchy.forest.Deepest (SharedScope plant_hierarchy [1, 2]) scope := by
  have hfound : (findSharedSignalScope ([1, 2].map some)).run plant =
      some (plantObject 0 none .system) := by decide +kernel
  exact ⟨hfound,
    (findSharedSignalScope_deepest plant_hierarchy (List.cons_ne_nil 1 [2])).2.1 _ hfound⟩

end CrowPanel.Ui
