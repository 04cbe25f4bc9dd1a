import HandlerChain.Proofs.Compilation

/-!
# Slots in the order of the inputs

The plan of an action is built with a look-up for each binding; what comes out is a list operation on its
bindings.  The first binding of each input stays, the others go, and the slots count what is left.  The table in
which slots are looked up has the same ones, since each binding that is planned goes into both.  And since a
binding only ever goes to the end of a plan, an action that is extended keeps the slots that it has.

## Main Definitions

* `Step.Extended` relates the steps of an action to those that appending steps, and bindings to the last
  step, makes of them.

## Main Results

* `Plan.InStep.foldl_add_bindings`: planning erases all but the first binding of each input.
* `Plan.InStep.slotOf?_of_prefix`: a slot does not depend on what comes behind it.
* `Action.plan_slots` puts these together for the plan of an action, and for the parameters that are made of it.
-/

namespace HandlerChain

namespace Plan

variable {σ : Type} {p : Plan σ}

/-- **Planning erases all but the first binding of each input**, and those of inputs that the plan has
already. -/
theorem InStep.foldl_add_bindings (inStep : p.InStep) {bs : List (Binding σ)}
    (level : ∀ b ∈ bs, b.isMethodLevel = true) :
    (bs.foldl Plan.add p).bindings =
      p.bindings ++ (bs.filter fun b => b.identity ∉ p.bindings.map Binding.identity).eraseDupsBy
        fun b c => b.identity == c.identity := by
  induction bs generalizing p with
  | nil => simp
  | cons b rest ih =>
      have later := fun c member => level c (List.mem_cons_of_mem b member)
      rw [List.foldl_cons, ih (inStep.add b) later]
      by_cases old : b.identity ∈ p.bindings.map Binding.identity
      · rw [inStep.add_of_mem old, List.filter_cons_of_neg (by simp [old])]
      -- What is left of the rest is what is neither in the plan nor the input of `b`, in either order.
      · rw [inStep.bindings_add (level b List.mem_cons_self) old, List.filter_cons_of_pos (by simp [old]),
          List.eraseDupsBy_cons, List.filter_filter, List.append_assoc, List.singleton_append]
        congr 3
        refine List.filter_congr fun c _ => ?_
        simp [List.map_append, or_comm]

/-- A plan only grows at its end. -/
theorem prefix_foldl_add (p : Plan σ) (bs : List (Binding σ)) : p.ordered <+: (bs.foldl add p).ordered := by
  induction bs generalizing p with
  | nil => exact List.prefix_rfl
  | cons b rest ih =>
      refine List.IsPrefix.trans ?_ (ih (p.add b))
      unfold add
      split_ifs
      · exact List.prefix_rfl
      · exact List.prefix_rfl
      · exact List.prefix_append p.params _

/-- **A slot does not depend on what comes behind it.** -/
theorem InStep.slotOf?_of_prefix {p' : Plan σ} (inStep : p.InStep) (inStep' : p'.InStep)
    (grown : p.ordered <+: p'.ordered) {b : Binding σ} {i : Nat} (slot : p.slotOf? b = some i) :
    p'.slotOf? b = some i := by
  obtain ⟨q, member, found⟩ := inStep.slotOf?_eq_some_iff.mp slot
  exact inStep'.slotOf?_eq_some_iff.mpr ⟨q, grown.subset member, found⟩

end Plan

/-- Steps are extended by steps behind them, by bindings of the last step, and by both in any order. -/
inductive Step.Extended {σ : Type} : List (Step σ) → List (Step σ) → Prop where
  | steps (before more : List (Step σ)) : Extended before (before ++ more)
  | bindings (before : List (Step σ)) (last : Step σ) (more : List (Binding σ)) :
      Extended (before ++ [last]) (before ++ [{ last with bindings := last.bindings ++ more }])
  | trans {steps steps' steps'' : List (Step σ)} :
      Extended steps steps' → Extended steps' steps'' → Extended steps steps''

namespace Action

variable {σ : Type} {a a' : Action σ}

theorem bindingsFrom_append (i : Nat) (steps more : List (Step σ)) :
    bindingsFrom i (steps ++ more) =
      bindingsFrom i steps ++ bindingsFrom (i + steps.length) more := by
  induction steps generalizing i with
  | nil => simp [bindingsFrom]
  | cons s rest ih =>
      rw [List.cons_append, bindingsFrom, bindingsFrom, ih, List.append_assoc, List.length_cons,
        Nat.add_assoc, Nat.add_comm 1]

/-- What is appended to the steps comes behind all their bindings. -/
theorem bindingsFrom_of_extended {steps steps' : List (Step σ)} (extended : Step.Extended steps steps') :
    bindingsFrom 0 steps <+: bindingsFrom 0 steps' := by
  induction extended with
  | steps before more =>
      rw [bindingsFrom_append]
      exact List.prefix_append _ _
  | bindings before last more =>
      rw [bindingsFrom_append, bindingsFrom_append, List.prefix_append_right_inj]
      simp [bindingsFrom]
  | trans _ _ first second => exact first.trans second

/-- An extended action has the plan of the action at the start of its own. -/
theorem plan_of_extended (extended : Step.Extended a.steps a'.steps) :
    a.plan.ordered <+: a'.plan.ordered := by
  obtain ⟨more, split⟩ := bindingsFrom_of_extended extended
  have later : a'.plan = (more.map Prod.snd).foldl Plan.add a.plan := by
    rw [plan, allBindings, ← split, List.map_append, List.foldl_append]
    rfl
  rw [later]
  exact a.plan.prefix_foldl_add _

theorem plan_bindings (a : Action σ) :
    a.plan.bindings = a.inputBindings.eraseDupsBy fun b c => b.identity == c.identity := by
  have level : ∀ b ∈ a.inputBindings, b.isMethodLevel = true := fun b member =>
    (List.mem_filter.mp member).2
  rw [plan, Plan.foldl_add_filter]
  refine (Plan.inStep_empty.foldl_add_bindings level).trans ?_
  simp [Plan.empty, Plan.bindings]

theorem slotOf?_plan_eq_none_iff {b : Binding σ} :
    a.plan.slotOf? b = none ↔ ∀ c ∈ a.inputBindings, c.identity ≠ b.identity := by
  rw [a.plan_inStep.slotOf?_eq, ite_eq_right_iff]
  simp [a.plan_covers.mem_identities]

/-- A slot holds the first binding of its input. -/
theorem slotOf?_plan_eq_some_iff {b : Binding σ} {i : Nat} :
    a.plan.slotOf? b = some i ↔
      ∃ first, ⟨i, first⟩ ∈ a.plan.ordered ∧
        a.inputBindings.find? (fun c => c.identity = b.identity) = some first := by
  rw [a.plan_inStep.slotOf?_eq_some_iff]
  constructor
  · rintro ⟨⟨i, c⟩, member, rfl, same⟩
    have planned : c ∈ a.plan.bindings := List.mem_map_of_mem member
    obtain ⟨first, found, planned', same'⟩ := firstOf?_of_mem (mem_inputBindings_of_mem_plan planned)
    obtain rfl := List.inj_on_of_nodup_map a.plan_inStep.distinct planned' planned same'
    exact ⟨first, member, by rw [← found, firstOf?, same]⟩
  · rintro ⟨first, listed, found⟩
    exact ⟨_, listed, rfl, by simpa using List.find?_some found⟩

end Action

theorem synthesize_parameters {σ : Type} {config : CompilerConfig} {w w' : Workshop σ} {a : Action σ}
    {plan : Plan σ} {e : Endpoint σ} {events : List Event}
    (made : synthesize config w a plan = (.ok e, w', events)) :
    Parameter.ofPlanned plan.ordered = .ok e.unit.parameters := by
  unfold synthesize at made
  cases prepared : prepareAction a plan with
  | error e => simp [prepared] at made
  | ok r =>
      obtain ⟨parameters, calls⟩ := r
      simp only [prepared, Prod.mk.injEq, Except.ok.injEq] at made
      obtain ⟨rfl, -, -⟩ := made
      exact (prepareAction_eq_ok_iff.mp prepared).1

/-- **A plan gives slots in order, and for good.**  The parameters that are planned for an action are its input
bindings with all but the first of each input erased, and their slots count from one.  The table beside them is in
step: what it has under an input is the slot of the parameter for this input, and nothing else is in it.  So the slot
of a binding holds the first binding that is the same input, with the spelling and the default that it has, and a
binding that is no input of the action has none.  When steps are appended, or bindings to the last step, the plan
grows at its end and every slot stays.  The parameters of a unit are the plan, position for slot. -/
theorem Action.plan_slots {σ : Type} (a : Action σ) :
    a.plan.ordered.map PlannedParameter.binding =
        a.inputBindings.eraseDupsBy (fun b c => b.identity == c.identity) ∧
      a.plan.ordered.map PlannedParameter.slot = List.range' 1 a.plan.ordered.length ∧
      ((a.plan.slots.map Prod.fst).Nodup ∧ a.plan.slots.length = a.plan.ordered.length ∧
        ∀ key i, (key, i) ∈ a.plan.slots ↔ ∃ q ∈ a.plan.ordered, q.slot = i ∧ q.binding.identity = key) ∧
      (∀ b i, a.plan.slotOf? b = some i ↔
        ∃ first, ⟨i, first⟩ ∈ a.plan.ordered ∧
          a.inputBindings.find? (fun c => c.identity = b.identity) = some first) ∧
      (∀ b, a.plan.slotOf? b = none ↔ ∀ c ∈ a.inputBindings, c.identity ≠ b.identity) ∧
      (∀ a' : Action σ, Step.Extended a.steps a'.steps → a.plan.ordered <+: a'.plan.ordered ∧
        ∀ b i, a.plan.slotOf? b = some i → a'.plan.slotOf? b = some i) ∧
      ∃ ps, Parameter.ofPlanned a.plan.ordered = .ok ps ∧
        ps.map (fun p => ⟨p.position, p.binding⟩) = a.plan.ordered ∧
          ∀ config w e w' events, synthesize config w a a.plan = (.ok e, w', events) →
            e.unit.parameters = ps := by
  have inStep := a.plan_inStep
  obtain ⟨ps, made⟩ := a.exists_parameters
  refine ⟨a.plan_bindings, inStep.numbered, ⟨inStep.nodup_keys, inStep.length_slots, fun key i => inStep.mem_slots_iff⟩,
    fun b i => slotOf?_plan_eq_some_iff, fun b => slotOf?_plan_eq_none_iff, ?_,
    ps, made, Parameter.map_ofPlanned made, ?_⟩
  · intro a' extended
    have grown := plan_of_extended extended
    exact ⟨grown, fun b i slot => inStep.slotOf?_of_prefix a'.plan_inStep grown slot⟩
  · intro config w e w' events synthesized
    exact Except.ok.inj ((synthesize_parameters synthesized).symm.trans made)

end HandlerChain
