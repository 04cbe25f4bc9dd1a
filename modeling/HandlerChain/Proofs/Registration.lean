import HandlerChain.Proofs.Compilation

/-!
# What compilation registers

Every check of an action comes before the first handler is stored, so an action that is refused leaves
nothing behind.  One that compiles leaves one entry for each step that calls a handler: the keys were free
and differ from each other, and nothing else in the registry changes.

A step that renders calls no handler and takes no key, whatever its other fields hold.

## Main Definitions

* `Registry.Gains` relates a registry to the one that storing some handlers makes of it, with their keys.

## Main Results

* `Workshop.register_gains`: what registering makes of a registry, for the keys that it puts into calls.
* `compile_registers`: compilation changes the registry as a whole or not at all.
-/

namespace HandlerChain

namespace Registry

variable {σ : Type} {r r' r'' : Registry σ} {keys keys' : List HandlerKey}

/-- `r.Gains keys r'` if `r'` has one more entry for each of the keys, in their order, and is otherwise
like `r`. -/
structure Gains (r : Registry σ) (keys : List HandlerKey) (r' : Registry σ) : Prop where
  keys_eq : r'.keys = keys.reverse ++ r.keys
  nodup : keys.Nodup
  fresh : ∀ key ∈ keys, key ∉ r.keys
  kept : ∀ key, key ∉ keys → r'.get? key = r.get? key

namespace Gains

theorem refl (r : Registry σ) : r.Gains [] r where
  keys_eq := rfl
  nodup := List.nodup_nil
  fresh _ none := absurd none List.not_mem_nil
  kept _ _ := rfl

theorem add (r : Registry σ) (s : KeySource) (l : Logic σ) :
    r.Gains [(r.add s l).1] (r.add s l).2.1 where
  keys_eq := rfl
  nodup := List.nodup_singleton _
  fresh key member := List.mem_singleton.mp member ▸ r.add_fst_notMem s l
  kept key other := by
    have different : key ≠ (r.add s l).1 := fun same => other (List.mem_singleton.mpr same)
    rw [get?, add_entries, List.lookup_cons, beq_false_of_ne different, get?]

/-- The second keys are not among the first, since these are taken by then. -/
theorem trans (first : r.Gains keys r') (second : r'.Gains keys' r'') : r.Gains (keys ++ keys') r'' := by
  have taken : ∀ key ∈ keys', key ∉ keys ∧ key ∉ r.keys := by
    intro key member
    have free := second.fresh key member
    rwa [first.keys_eq, List.mem_append, List.mem_reverse, not_or] at free
  refine ⟨?_, ?_, ?_, ?_⟩
  · rw [second.keys_eq, first.keys_eq, List.reverse_append, List.append_assoc]
  · refine first.nodup.append second.nodup ?_
    exact List.disjoint_right.mpr fun key member => (taken key member).1
  · intro key member
    rcases List.mem_append.mp member with old | new
    · exact first.fresh key old
    · exact (taken key new).2
  · intro key outside
    rw [List.mem_append, not_or] at outside
    rw [second.kept key outside.2, first.kept key outside.1]

end Gains

end Registry

/-- Registering stores a handler for each call that comes with one, under the key that the call gets. -/
theorem Workshop.register_gains {σ : Type} (w : Workshop σ) (i : Nat)
    {calls : List (StepCall × Option (Logic σ))} (blank : ∀ call ∈ calls, call.1.key? = none) :
    w.registry.Gains ((w.register i calls).1.filterMap StepCall.key?)
      (w.register i calls).2.1.registry := by
  induction calls generalizing w i with
  | nil => exact .refl w.registry
  | cons call rest ih =>
      obtain ⟨here, later⟩ := List.forall_mem_cons.mp blank
      obtain ⟨call, _ | l⟩ := call
      · rw [register, List.filterMap_cons_none here]
        exact ih w (i + 1) later
      · have added := Registry.Gains.add w.registry w.keys l
        exact added.trans (ih { w with
          registry := (w.registry.add w.keys l).2.1, keys := (w.registry.add w.keys l).2.2 } (i + 1) later)

section

variable {σ : Type} {config : CompilerConfig} {w w' : Workshop σ} {a : Action σ} {events : List Event}

theorem Step.prepare_key? {s : Step σ} {i : Nat} {plan : Plan σ} {call : StepCall × Option (Logic σ)}
    (ready : s.prepare i plan = .ok call) : call.1.key? = none := by
  obtain ⟨-, args, -, ⟨-, t, -, rfl⟩ | ⟨-, l, -, -, rfl⟩⟩ := Step.prepare_eq_ok_iff.mp ready <;> rfl

/-- A call has no key before it is registered. -/
theorem prepareSteps_key? {plan : Plan σ} {i : Nat} {steps : List (Step σ)}
    {calls : List (StepCall × Option (Logic σ))} (prepared : prepareSteps plan i steps = .ok calls) :
    ∀ call ∈ calls, call.1.key? = none := by
  have ready := prepareSteps_forall₂ prepared
  clear prepared
  induction ready with
  | nil => exact fun _ none => absurd none List.not_mem_nil
  | cons one _ ih =>
      obtain ⟨j, one⟩ := one
      exact List.forall_mem_cons.mpr ⟨Step.prepare_key? one, ih⟩

/-- A unit that is not made leaves the workshop as it was. -/
theorem synthesize_error {plan : Plan σ} {cause : SynthesisFailure}
    (failed : synthesize config w a plan = (.error cause, w', events)) : w' = w := by
  unfold synthesize at failed
  cases prepared : prepareAction a plan with
  | error e =>
      simp only [prepared, Prod.mk.injEq] at failed
      exact failed.2.1.symm
  | ok r => simp [prepared] at failed

/-- A unit that is made adds its keys to the registry. -/
theorem synthesize_gains {plan : Plan σ} {e : Endpoint σ}
    (made : synthesize config w a plan = (.ok e, w', events)) :
    w.registry.Gains e.unit.handlerKeys w'.registry := by
  unfold synthesize at made
  cases prepared : prepareAction a plan with
  | error e => simp [prepared] at made
  | ok r =>
      obtain ⟨parameters, calls⟩ := r
      simp only [prepared, Prod.mk.injEq, Except.ok.injEq] at made
      obtain ⟨rfl, rfl, -⟩ := made
      exact w.register_gains 0 (prepareSteps_key? (prepareAction_eq_ok_iff.mp prepared).2)

/-- The keys of calls that carry out some steps lead to the handlers of these steps, one for each step
that calls a handler. -/
theorem forall₂_handlerKeys {plan : Plan σ} {registry : Registry σ} {steps : List (Step σ)}
    {body : List StepCall} (realizes : List.Forall₂ (StepCall.Realizes plan registry) steps body) :
    List.Forall₂ (fun step key => ∃ l, step.logic? = some l ∧ registry.get? key = some l)
      (steps.filter fun step => step.kind.invokesLogic) (body.filterMap StepCall.key?) := by
  induction realizes with
  | nil => exact .nil
  | cons one _ ih =>
      cases one with
      | render render target => simpa [StepKind.invokesLogic, render] using ih
      | handler render logic fits reads registered =>
          simpa [StepKind.invokesLogic, render] using ⟨⟨_, logic, registered⟩, ih⟩

theorem compile_error_workshop {cause : CompileError}
    (failed : compile config w a = (.error cause, w', events)) : w' = w := by
  unfold compile at failed
  cases violations : a.violations with
  | cons v vs =>
      simp only [violations, Prod.mk.injEq] at failed
      exact failed.2.1.symm
  | nil =>
      cases stray : a.strayRouteParameter? with
      | some parameter =>
          simp only [violations, stray, Prod.mk.injEq] at failed
          exact failed.2.1.symm
      | none =>
          rcases synthesized : synthesize config w a a.plan with ⟨_ | e, w'', events'⟩
          · simp only [violations, stray, synthesized, Prod.mk.injEq] at failed
            exact failed.2.1 ▸ synthesize_error synthesized
          · simp [violations, stray, synthesized] at failed

theorem compile_gains {e : Endpoint σ} (compiled : compile config w a = (.ok e, w', events)) :
    w.registry.Gains e.unit.handlerKeys w'.registry := by
  obtain ⟨wellFormed, -⟩ := compile_realizes compiled
  rw [compile_of_routesNamed config w wellFormed.toValid wellFormed.toRoutesNamed] at compiled
  rcases synthesized : synthesize config w a a.plan with ⟨_ | made, w'', events'⟩
  · simp [synthesized] at compiled
  · simp only [synthesized, Prod.mk.injEq, Except.ok.injEq] at compiled
    obtain ⟨rfl, rfl, -⟩ := compiled
    exact synthesize_gains synthesized

end

/-- **Compilation changes the registry as a whole or not at all.**  An action that is refused leaves the
workshop as it was.  One that compiles leaves an entry for each step that calls a handler: the keys of the
unit are new and distinct, they lead to the handlers of these steps in order, and every other key leads to
what it led to before. -/
theorem compile_registers {σ : Type} (config : CompilerConfig) (w : Workshop σ) (a : Action σ) :
    (∀ cause w' events, compile config w a = (.error cause, w', events) → w' = w) ∧
      ∀ e w' events, compile config w a = (.ok e, w', events) →
        w.registry.Gains e.unit.handlerKeys w'.registry ∧
          List.Forall₂ (fun step key => ∃ l, step.logic? = some l ∧ w'.registry.get? key = some l)
            (a.steps.filter fun step => step.kind.invokesLogic) e.unit.handlerKeys := by
  refine ⟨fun cause w' events failed => compile_error_workshop failed, fun e w' events compiled => ?_⟩
  obtain ⟨-, -, realizes, -⟩ := compile_realizes compiled
  exact ⟨compile_gains compiled, forall₂_handlerKeys realizes.body⟩

end HandlerChain
