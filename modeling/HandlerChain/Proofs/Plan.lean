import HandlerChain.Action.Meaning
import HandlerChain.Action.Plan
import HandlerChain.Proofs.Entries

/-!
# Plans list the inputs of actions

A plan is built one binding after the other; what it is in the end is said without the building.  Each binding that
is planned goes to the end of the list, and its slot goes into the table beside it.  That the two stay in step is
what one more binding preserves, and so what every plan has: a look-up in the table finds the position in the list.

From then on only the list counts.  Its bindings are the first ones of the inputs of the action, in order, and the
slot of a binding is the position of its input.

## Main Definitions

* `Plan.InStep` says that the list and the table of a plan agree.
* `Plan.Covers` is what holds of a plan after some bindings: it names their inputs, by their first ones.

## Main Results

* `Plan.InStep.add` and `Plan.InStep.foldl`: planning keeps the list and the table in step.
* `Plan.InStep.slotOf?_eq`: what the table says, in terms of the list.
* `Action.slotOf?_plan`: the plan of an action has every input of the action in its slot.
* `Action.getElem?_plan`: what stands in a slot is the first binding that is its input.
-/

namespace HandlerChain

namespace Binding

variable {σ : Type} {b first : Binding σ}

theorem type_eq_of_identity (same : first.identity = b.identity) : first.type.ty = b.type.ty :=
  congrArg Identity.type same

end Binding

/-- The entry of the table for a parameter. -/
def PlannedParameter.entry {σ : Type} (q : PlannedParameter σ) : Identity × Nat := (q.binding.identity, q.slot)

namespace Plan

variable {σ : Type} {p : Plan σ} {b : Binding σ}

/-- The list and the table of a plan are in step: the slots of the parameters count from one without gaps, no input
is planned twice, and the table has the entries of the parameters, in any order. -/
structure InStep (p : Plan σ) : Prop where
  numbered : p.params.map PlannedParameter.slot = List.range' 1 p.params.length
  distinct : (p.bindings.map Binding.identity).Nodup
  entries : p.slots.Perm (p.params.map PlannedParameter.entry)

theorem inStep_empty : (empty : Plan σ).InStep := ⟨rfl, List.nodup_nil, .nil⟩

theorem map_entry_fst (p : Plan σ) :
    (p.params.map PlannedParameter.entry).map Prod.fst = p.bindings.map Binding.identity := by
  rw [bindings, List.map_map, List.map_map]
  rfl

namespace InStep

theorem length_slots (inStep : p.InStep) : p.slots.length = p.params.length := by
  rw [inStep.entries.length_eq, List.length_map]

/-- Each input is a key of the table once. -/
theorem nodup_keys (inStep : p.InStep) : (p.slots.map Prod.fst).Nodup := by
  rw [(inStep.entries.map Prod.fst).nodup_iff, map_entry_fst]
  exact inStep.distinct

/-- The table has what the parameters have. -/
theorem mem_slots_iff (inStep : p.InStep) {key : Identity} {i : Nat} :
    (key, i) ∈ p.slots ↔ ∃ q ∈ p.params, q.slot = i ∧ q.binding.identity = key := by
  rw [inStep.entries.mem_iff, List.mem_map]
  simp only [PlannedParameter.entry, Prod.mk.injEq, and_comm]

/-- A look-up finds the slot of the parameter that is the same input. -/
theorem slotOf?_eq_some_iff (inStep : p.InStep) {i : Nat} :
    p.slotOf? b = some i ↔ ∃ q ∈ p.params, q.slot = i ∧ q.binding.identity = b.identity := by
  rw [slotOf?, lookup_eq_some_iff_mem inStep.nodup_keys, inStep.mem_slots_iff]

/-- The parameters are the bindings, numbered from one. -/
theorem getElem?_params (inStep : p.InStep) (j : Nat) :
    p.params[j]? = p.bindings[j]?.map fun b => ⟨j + 1, b⟩ := by
  rw [bindings, List.getElem?_map, Option.map_map]
  cases stands : p.params[j]? with
  | none => rfl
  | some q =>
      obtain ⟨inside, -⟩ := List.getElem?_eq_some_iff.mp stands
      have slot := congrArg (·[j]?) inStep.numbered
      simp only [List.getElem?_map, stands, Option.map_some, List.getElem?_range' inside,
        Option.some.injEq] at slot
      have number : q.slot = j + 1 := by rw [slot, Nat.one_mul, Nat.add_comm]
      simp [← number]

/-- **What the table says, in terms of the list**: the slot of a binding is the position of its input. -/
theorem slotOf?_eq (inStep : p.InStep) (b : Binding σ) :
    p.slotOf? b =
      if b.identity ∈ p.bindings.map Binding.identity then
        some ((p.bindings.map Binding.identity).idxOf b.identity + 1) else none := by
  by_cases known : b.identity ∈ p.bindings.map Binding.identity
  · rw [if_pos known, inStep.slotOf?_eq_some_iff]
    have stands := List.getElem?_idxOf known
    obtain ⟨first, found, same⟩ := Option.map_eq_some_iff.mp (List.getElem?_map.symm.trans stands)
    have param := (inStep.getElem?_params _).trans (congrArg _ found)
    exact ⟨_, List.mem_of_getElem? param, rfl, same⟩
  · rw [if_neg known, Option.eq_none_iff_forall_ne_some]
    intro i found
    obtain ⟨q, member, -, same⟩ := inStep.slotOf?_eq_some_iff.mp found
    exact known (same ▸ List.mem_map_of_mem (List.mem_map_of_mem member))

end InStep

theorem add_of_not_isMethodLevel (level : b.isMethodLevel = false) : p.add b = p := by
  simp [add, level]

theorem add_of_isSome (known : (p.slotOf? b).isSome) : p.add b = p := by
  simp [add, known]

/-- A new input gets the next slot, in the list and in the table. -/
theorem add_of_eq_none (level : b.isMethodLevel = true) (new : p.slotOf? b = none) :
    p.add b = ⟨p.params ++ [⟨p.params.length + 1, b⟩], (b.identity, p.params.length + 1) :: p.slots⟩ := by
  simp [add, level, new]

namespace InStep

theorem add_of_mem (inStep : p.InStep) (old : b.identity ∈ p.bindings.map Binding.identity) : p.add b = p :=
  add_of_isSome (by rw [inStep.slotOf?_eq, if_pos old, Option.isSome_some])

theorem add_of_notMem (inStep : p.InStep) (level : b.isMethodLevel = true)
    (new : b.identity ∉ p.bindings.map Binding.identity) :
    p.add b = ⟨p.params ++ [⟨p.params.length + 1, b⟩], (b.identity, p.params.length + 1) :: p.slots⟩ :=
  add_of_eq_none level (by rw [inStep.slotOf?_eq, if_neg new])

theorem bindings_add (inStep : p.InStep) (level : b.isMethodLevel = true)
    (new : b.identity ∉ p.bindings.map Binding.identity) : (p.add b).bindings = p.bindings ++ [b] := by
  rw [inStep.add_of_notMem level new]
  simp [bindings]

/-- **One more binding keeps the list and the table in step.** -/
theorem add (inStep : p.InStep) (b : Binding σ) : (p.add b).InStep := by
  cases level : b.isMethodLevel with
  | false => rwa [add_of_not_isMethodLevel level]
  | true =>
      by_cases old : b.identity ∈ p.bindings.map Binding.identity
      · rwa [inStep.add_of_mem old]
      have grown := inStep.bindings_add level old
      rw [inStep.add_of_notMem level old] at grown ⊢
      refine ⟨?_, ?_, ?_⟩
      -- The new slot is the next number.
      · simp [inStep.numbered, List.range'_1_concat, Nat.add_comm 1]
      · rw [grown, List.map_append]
        exact inStep.distinct.append (List.nodup_singleton _) (by simpa using old)
      · rw [List.map_append]
        exact (inStep.entries.cons _).trans (List.perm_append_singleton _ _).symm

theorem foldl (inStep : p.InStep) (bs : List (Binding σ)) : (bs.foldl Plan.add p).InStep := by
  induction bs generalizing p with
  | nil => exact inStep
  | cons b rest ih => exact ih (inStep.add b)

end InStep

/-- A plan covers some bindings if it is in step, has their inputs in the order in which they are first named, and
holds for each the first binding that names it. -/
structure Covers (p : Plan σ) (bs : List (Binding σ)) : Prop where
  inStep : p.InStep
  subset : p.bindings ⊆ bs
  identities : p.bindings.map Binding.identity = (bs.map Binding.identity).eraseDups
  first : ∀ key, (p.bindings.find? fun b => b.identity = key) = bs.find? fun b => b.identity = key

namespace Covers

variable {bs : List (Binding σ)}

theorem mem_identities (covers : p.Covers bs) (key : Identity) :
    key ∈ p.bindings.map Binding.identity ↔ key ∈ bs.map Binding.identity := by
  rw [covers.identities, List.mem_eraseDups]

/-- One more binding: either its input is there already, or it is the first of a new one. -/
theorem add (covers : p.Covers bs) (level : b.isMethodLevel = true) : (p.add b).Covers (bs ++ [b]) := by
  have inStep := covers.inStep
  by_cases old : b.identity ∈ bs.map Binding.identity
  -- A known input leaves the plan as it is, and `b` is not the first binding that names it.
  · rw [inStep.add_of_mem ((covers.mem_identities _).mpr old)]
    refine ⟨inStep, fun c member => List.mem_append_left [b] (covers.subset member), ?_, ?_⟩
    · rw [covers.identities, List.map_append, List.eraseDups_append]
      simp [List.cons_removeAll, old]
    · intro key
      rw [covers.first key, List.find?_append]
      by_cases here : b.identity = key
      · obtain ⟨c, member, named⟩ := List.mem_map.mp old
        have found : (bs.find? fun b => b.identity = key).isSome :=
          List.find?_isSome.mpr ⟨c, member, by simpa using named.trans here⟩
        rw [Option.or_of_isSome found]
      · simp [here]
  -- A new one goes to the end, where it cannot come before the first binding of another input.
  · have unknown : b.identity ∉ p.bindings.map Binding.identity :=
      fun known => old ((covers.mem_identities _).mp known)
    have grown := inStep.bindings_add level unknown
    refine ⟨inStep.add b, ?_, ?_, ?_⟩
    · rw [grown]
      refine List.append_subset.mpr ⟨?_, List.subset_append_right bs [b]⟩
      exact fun c member => List.mem_append_left [b] (covers.subset member)
    · rw [grown, List.map_append, covers.identities, List.map_append, List.eraseDups_append]
      simp [List.cons_removeAll, List.eraseDups_cons, old]
    · intro key
      rw [grown, List.find?_append, List.find?_append, covers.first key]

theorem foldl (covers : p.Covers bs) {more : List (Binding σ)}
    (level : ∀ b ∈ more, b.isMethodLevel = true) : (more.foldl Plan.add p).Covers (bs ++ more) := by
  induction more generalizing p bs with
  | nil => simpa using covers
  | cons b rest ih =>
      have next := ih (covers.add (level b List.mem_cons_self))
        fun c member => level c (List.mem_cons_of_mem b member)
      simpa using next

end Covers

/-- Bindings that read no input leave a plan as it is. -/
theorem foldl_add_filter (p : Plan σ) (bs : List (Binding σ)) :
    bs.foldl add p = (bs.filter Binding.isMethodLevel).foldl add p := by
  induction bs generalizing p with
  | nil => rfl
  | cons b rest ih =>
      cases level : b.isMethodLevel with
      | false =>
          rw [List.filter_cons_of_neg (by simp [level]), List.foldl_cons, add_of_not_isMethodLevel level, ih]
      | true => rw [List.filter_cons_of_pos level, List.foldl_cons, List.foldl_cons, ih]

end Plan

namespace Action

variable {σ : Type}

/-- **The plan of an action covers its inputs.** -/
theorem plan_covers (a : Action σ) : a.plan.Covers a.inputBindings := by
  have start : (Plan.empty : Plan σ).Covers [] := ⟨Plan.inStep_empty, List.Subset.refl [], rfl, fun _ => rfl⟩
  rw [plan, Plan.foldl_add_filter]
  exact start.foldl fun b member => (List.mem_filter.mp member).2

/-- **The list and the table of every plan are in step.** -/
theorem plan_inStep (a : Action σ) : a.plan.InStep := Plan.inStep_empty.foldl _

theorem plan_identities (a : Action σ) : a.plan.bindings.map Binding.identity = a.inputs :=
  a.plan_covers.identities

variable {a : Action σ} {b : Binding σ}

theorem mem_inputBindings_of_mem_plan (member : b ∈ a.plan.bindings) : b ∈ a.inputBindings :=
  a.plan_covers.subset member

theorem isMethodLevel_of_mem_plan (member : b ∈ a.plan.bindings) : b.isMethodLevel = true :=
  (List.mem_filter.mp (mem_inputBindings_of_mem_plan member)).2

theorem identity_mem_inputs (member : b ∈ a.inputBindings) : b.identity ∈ a.inputs :=
  List.mem_eraseDups.mpr (List.mem_map_of_mem member)

theorem slotOf?_plan (member : b ∈ a.inputBindings) : a.plan.slotOf? b = some (a.slotOf b) := by
  rw [a.plan_inStep.slotOf?_eq, plan_identities, if_pos (identity_mem_inputs member), slotOf]

theorem getElem?_plan (a : Action σ) (b : Binding σ) :
    a.plan.bindings[a.inputs.idxOf b.identity]? = a.firstOf? b := by
  have index : a.inputs.idxOf b.identity = a.plan.bindings.findIdx fun c => c.identity = b.identity := by
    rw [← plan_identities, List.idxOf, List.findIdx_map]
    rfl
  rw [index, ← List.find?_eq_getElem?_findIdx, a.plan_covers.first, firstOf?]

/-- A binding of the plan stands in its slot. -/
theorem slotOf_of_getElem?_plan {i : Nat} (stands : a.plan.bindings[i]? = some b) :
    a.slotOf b = i + 1 := by
  have named : a.inputs[i]? = some b.identity := by
    rw [← plan_identities, List.getElem?_map, stands, Option.map_some]
  obtain ⟨inside, same⟩ := List.getElem?_eq_some_iff.mp named
  have nodup : a.inputs.Nodup := a.plan_identities ▸ a.plan_inStep.distinct
  rw [slotOf, ← same, nodup.idxOf_getElem]

/-- The first binding of an input is one of the bindings that read it. -/
theorem firstOf?_of_mem (member : b ∈ a.inputBindings) :
    ∃ first, a.firstOf? b = some first ∧ first ∈ a.plan.bindings ∧ first.identity = b.identity := by
  cases found : a.firstOf? b with
  | none =>
      rw [firstOf?, List.find?_eq_none] at found
      exact absurd (by simp) (found b member)
  | some first =>
      refine ⟨first, rfl, ?_, by simpa using List.find?_some found⟩
      exact List.mem_of_getElem? ((a.getElem?_plan b).trans found)

end Action

end HandlerChain
