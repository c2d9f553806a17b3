import Mathlib.Data.List.Forall2
import Mathlib.Data.List.ReduceOption
import Mathlib.Order.Defs.Unbundled
import Mathlib.Tactic.Common

/-!
# Programs of atomic reads

A task that looks at a shared state in many separate reads, while other tasks keep changing it.  Each
read is atomic, and between two reads the state moves along a preorder `Rely`, which says what the
others may do.

`Reads σ α` is the type of such programs with result `α`.  `run` gives the result when nothing happens
in between.  `Ensures Rely program state Post` says that, started in `state`, the program ends with a
result for which `Post` holds from then on, whatever the others do meanwhile.

The rules follow the structure of a program.  The important one is `ensures_through`: what a program
has gathered over its reads is what it would gather at once from a later state, provided that the part
of the state which it looks at has been kept in between.  `Observation` is what has to be known about
that part: a bound, taken when the program starts, that later states can only break.
-/

namespace CrowPanel.Library

variable {σ τ α β γ : Type}

/-- A program that reads a state of type `σ` and results in an `α`. -/
inductive Reads (σ α : Type) : Type 1
  | done (result : α)
  | ask {β : Type} (query : σ → β) (next : β → Reads σ α)

namespace Reads

/-- One program after another. -/
def bind : Reads σ α → (α → Reads σ β) → Reads σ β
  | done result, following => following result
  | ask query next, following => ask query fun answer => (next answer).bind following

instance : Monad (Reads σ) where
  pure := done
  bind := bind

/-- A single read. -/
def read (query : σ → α) : Reads σ α :=
  ask query done

/-- The result of a program when the state does not change. -/
def run : Reads σ α → σ → α
  | done result, _ => result
  | ask query next, state => (next (query state)).run state

/-- The program on a state of which it sees only a view. -/
def through (view : τ → σ) : Reads σ α → Reads τ α
  | done result => done result
  | ask query next => ask (fun state => query (view state)) fun answer => (next answer).through view

/-! ## Undisturbed runs -/

@[simp] theorem run_pure (result : α) (state : σ) : (pure result : Reads σ α).run state = result :=
  rfl

@[simp] theorem run_read (query : σ → α) (state : σ) : (read query).run state = query state := rfl

@[simp] theorem run_bind (program : Reads σ α) (following : α → Reads σ β) (state : σ) :
    (program >>= following).run state = (following (program.run state)).run state := by
  induction program with
  | done result => rfl
  | ask query next ih => exact ih (query state)

theorem run_read_bind (query : σ → α) (following : α → Reads σ β) (state : σ) :
    (read query >>= following).run state = (following (query state)).run state := rfl

@[simp] theorem run_through (view : τ → σ) (program : Reads σ α) (state : τ) :
    (program.through view).run state = program.run (view state) := by
  induction program with
  | done result => rfl
  | ask query next ih => exact ih (query (view state))

@[simp] theorem run_foldlM (step : β → α → Reads σ β) (first : β) (items : List α) (state : σ) :
    (items.foldlM step first).run state =
      items.foldl (fun result item => (step result item).run state) first := by
  induction items generalizing first with
  | nil => rfl
  | cons item items ih => rw [List.foldlM_cons, run_bind, ih, List.foldl_cons]

/-- What each step of a loop keeps holds after the loop. -/
theorem run_foldlM_induction {step : β → α → Reads σ β} {first : β} {items : List α} {state : σ}
    (P : β → Prop) (hfirst : P first)
    (hstep : ∀ result item, P result → P ((step result item).run state)) :
    P ((items.foldlM step first).run state) := by
  rw [run_foldlM]
  exact List.foldlRecOn items _ hfirst fun result hresult item _ => hstep result item hresult

@[simp] theorem run_mapM' (visit : α → Reads σ β) (items : List α) (state : σ) :
    (items.mapM' visit).run state = items.map fun item => (visit item).run state := by
  induction items with
  | nil => rfl
  | cons item items ih =>
      simp only [List.mapM'_cons, run_bind, ih, run_pure, List.map_cons]

@[simp] theorem run_findSomeM? (visit : α → Reads σ (Option β)) (items : List α) (state : σ) :
    (items.findSomeM? visit).run state = items.findSome? fun item => (visit item).run state := by
  induction items with
  | nil => rfl
  | cons item items ih =>
      rw [List.findSomeM?, run_bind, List.findSome?_cons]
      cases (visit item).run state with
      | none => exact ih
      | some result => rfl

@[simp] theorem run_allM (test : α → Reads σ Bool) (items : List α) (state : σ) :
    (items.allM test).run state = items.all fun item => (test item).run state := by
  induction items with
  | nil => rfl
  | cons item items ih =>
      rw [List.allM, run_bind, List.all_cons]
      cases (test item).run state with
      | false => rfl
      | true => exact ih

/-- A search by index through a list that does not change is a search through its entries. -/
theorem findSome?_range_getElem? (entries : List α) (visit : α → Option β) :
    (List.range entries.length).findSome? (fun index => entries[index]?.bind visit) =
      entries.findSome? visit := by
  induction entries with
  | nil => rfl
  | cons entry entries ih =>
      rw [List.length_cons, List.range_succ_eq_map, List.findSome?_cons, List.findSome?_map,
        List.findSome?_cons]
      simp only [List.getElem?_cons_zero, Option.bind_some, Function.comp_def,
        Nat.succ_eq_add_one, List.getElem?_cons_succ, ih]

/-- Likewise a loop by index is a loop over the entries. -/
theorem foldl_range_getElem? (entries : List α) (step : β → Option α → β) (first : β) :
    (List.range entries.length).foldl (fun result index => step result entries[index]?) first =
      entries.foldl (fun result entry => step result (some entry)) first := by
  induction entries generalizing first with
  | nil => rfl
  | cons entry entries ih =>
      rw [List.length_cons, List.range_succ_eq_map, List.foldl_cons, List.foldl_map, List.foldl_cons]
      simpa only [List.getElem?_cons_zero, Nat.succ_eq_add_one, List.getElem?_cons_succ]
        using ih (step first (some entry))

/-- The entries of a list, read one after the other. -/
theorem reduceOption_map_range_getElem? (entries : List α) :
    ((List.range entries.length).map fun index => entries[index]?).reduceOption = entries := by
  induction entries with
  | nil => rfl
  | cons entry entries ih =>
      rw [List.length_cons, List.range_succ_eq_map, List.map_cons, List.map_map]
      simp only [List.getElem?_cons_zero, Function.comp_def, Nat.succ_eq_add_one,
        List.getElem?_cons_succ, List.reduceOption_cons_of_some, ih]

/-! ## Runs among others -/

section

variable (Rely : σ → σ → Prop)

/-- Whatever the others do, the program ends with a result that satisfies `Post` from then on. -/
def Ensures : Reads σ α → σ → (α → σ → Prop) → Prop
  | done result, state, Post => ∀ later, Rely state later → Post result later
  | ask query next, state, Post =>
      ∀ later, Rely state later → Ensures (next (query later)) later Post

variable {Rely} [IsPreorder σ Rely] {program : Reads σ α} {state later : σ}
  {Post : α → σ → Prop}

/-- What a program ensures does not depend on when it is started. -/
theorem Ensures.after (hensures : Ensures Rely program state Post) (hlater : Rely state later) :
    Ensures Rely program later Post := by
  cases program with
  | done result => exact fun final hfinal => hensures final (trans_of Rely hlater hfinal)
  | ask query next => exact fun final hfinal => hensures final (trans_of Rely hlater hfinal)

omit [IsPreorder σ Rely] in
theorem ensures_pure {result : α} (hpost : ∀ later, Rely state later → Post result later) :
    Ensures Rely (pure result) state Post :=
  hpost

/-- A stronger result, which may use that the state has moved on. -/
theorem Ensures.imp {Weaker : α → σ → Prop} (hensures : Ensures Rely program state Post)
    (himp : ∀ result later, Rely state later → Post result later → Weaker result later) :
    Ensures Rely program state Weaker := by
  induction program generalizing state with
  | done result => exact fun later hlater => himp result later hlater (hensures later hlater)
  | ask query next ih =>
      exact fun later hlater => ih (query later) (hensures later hlater)
        fun result final hfinal => himp result final (trans_of Rely hlater hfinal)

omit [IsPreorder σ Rely] in
/-- Every program ends. -/
theorem ensures_true : Ensures Rely program state fun _ _ => True := by
  induction program generalizing state with
  | done result => exact fun _ _ => trivial
  | ask query next ih => exact fun later _ => ih (query later)

/-- The rule of sequence.  What holds of the first result goes on to hold. -/
theorem Ensures.bind {following : α → Reads σ β} {Final : β → σ → Prop}
    (hfirst : Ensures Rely program state Post)
    (hsecond : ∀ result later, Rely state later → (∀ final, Rely later final → Post result final) →
      Ensures Rely (following result) later Final) :
    Ensures Rely (program >>= following) state Final := by
  induction program generalizing state with
  | done result => exact hsecond result state (refl_of Rely state) hfirst
  | ask query next ih =>
      exact fun later hlater => ih (query later) (hfirst later hlater)
        fun result final hfinal => hsecond result final (trans_of Rely hlater hfinal)

omit [IsPreorder σ Rely] in
/-- The rule of sequence after a read. -/
theorem Ensures.read_bind {query : σ → α} {following : α → Reads σ β} {Final : β → σ → Prop}
    (hsecond : ∀ later, Rely state later → Ensures Rely (following (query later)) later Final) :
    Ensures Rely (read query >>= following) state Final :=
  hsecond

/-- The rule for a loop over the items of a list. -/
theorem ensures_mapM' {visit : α → Reads σ β} {items : List α} {Item : α → β → σ → Prop}
    (hvisit : ∀ item ∈ items, ∀ later, Rely state later →
      Ensures Rely (visit item) later (Item item)) :
    Ensures Rely (items.mapM' visit) state
      fun results later => List.Forall₂ (fun item result => Item item result later) items results := by
  induction items generalizing state with
  | nil => exact ensures_pure fun _ _ => .nil
  | cons item items ih =>
      refine Ensures.bind (hvisit item List.mem_cons_self state (refl_of Rely state))
        fun result later hlater hresult => ?_
      refine Ensures.bind (ih fun other hother final hfinal =>
        hvisit other (List.mem_cons_of_mem _ hother) final (trans_of Rely hlater hfinal))
        fun results final hfinal hresults => ?_
      exact ensures_pure fun last hlast =>
        .cons (hresult last (trans_of Rely hfinal hlast)) (hresults last hlast)

/-- An undisturbed run is one of the runs. -/
theorem Ensures.run (hensures : Ensures Rely program state Post) :
    Post (program.run state) state := by
  induction program generalizing state with
  | done result => exact hensures state (refl_of Rely state)
  | ask query next ih => exact ih (query state) (hensures state (refl_of Rely state))

variable (Rely) in
/-- `Kept start later` holds as long as the view has not changed since `start`.  It may be lost for
good, and then says nothing. -/
structure Observation (view : σ → τ) (Kept : σ → σ → Prop) : Prop where
  restart : ∀ {start middle final}, Rely start middle → Kept start final → Kept middle final
  same : ∀ {start final}, Rely start final → Kept start final → view start = view final

/-- What a program has gathered from a view is what it would gather from the view of any later state
at once, as long as the view has been kept since the start. -/
theorem ensures_through {view : σ → τ} {Kept : σ → σ → Prop}
    (hview : Observation Rely view Kept) (program : Reads τ α) (state : σ) :
    Ensures Rely (program.through view) state
      fun result later => Kept state later → result = program.run (view later) := by
  induction program generalizing state with
  | done result => exact fun _ _ _ => rfl
  | ask query next ih =>
      intro middle hmiddle
      refine (ih (query (view middle)) middle).imp fun result later hlater hresult hkept => ?_
      have hkept : Kept middle later := hview.restart hmiddle hkept
      rw [hresult hkept, run, hview.same hlater hkept]

end

end Reads

end CrowPanel.Library
