import HandlerChain.Action.Definition
import HandlerChain.Route.Template
import HandlerChain.Text.LowerCase

/-!
# Well-formed actions

What an action has to be like to be compiled, said once and without the passes that judge it.  The rules
come in three groups, and an action that breaks some of them is refused for the first group that it breaks.

## Main Definitions

* `Step.FitsLogic` says that a handler can be called with what a step binds.
* `Action.Valid` are the rules of a chain, `Action.RoutesNamed` that of its route, and
  `Action.SignaturesFit` those of its handlers and targets.
* `Action.WellFormed` are all of them.
-/

namespace HandlerChain

/-- A handler fits a step if the bindings of the step have the types of its parameters, position by
position, it does not take too many, it suspends if the step says so, and it returns what the step
declares. -/
structure Step.FitsLogic {σ : Type} (step : Step σ) (l : Logic σ) : Prop where
  arity : l.arity ≤ maxArity
  types : step.bindings.map (fun b => b.type.ty) = l.params
  suspends : step.suspends = l.suspends
  returns : ∀ t, step.returnType? = some t → t.ty = l.returns

namespace Action

variable {σ : Type}

/-- The return type that the step before a step declares. -/
def typeBefore? (a : Action σ) : Nat → Option ValueType
  | 0 => none
  | i + 1 => a.steps[i]?.bind Step.returnType?

/-- The place of a step that renders: at the end, behind a step with a result, without bindings, and
without a view of the action that would render the result again. -/
structure RendersAt (a : Action σ) (i : Nat) (step : Step σ) : Prop where
  last : i + 1 = a.steps.length
  notFirst : 0 < i
  unbound : step.bindings = []
  model : (a.typeBefore? i).isSome
  alone : a.view? = none

/-- The rules of a chain. -/
structure Valid (a : Action σ) : Prop where
  nonempty : a.steps ≠ []
  yields : ∀ step, a.steps.getLast? = some step → step.kind ≠ .sideEffect
  handled : ∀ step ∈ a.steps, step.kind.isRender = false → step.logic?.isSome
  declared : ∀ step ∈ a.steps, step.kind.needsValue = true → step.returnType?.isSome
  renders : ∀ i step, a.steps[i]? = some step → step.kind.isRender = true → a.RendersAt i step
  /-- The result before is read as what the step before declares. -/
  previous : ∀ i step, a.steps[i]? = some step → ∀ b ∈ step.bindings, b.source = .previous →
    0 < i ∧ ∃ t, a.typeBefore? i = some t ∧ t.ty = b.type.ty
  defaults : ∀ step ∈ a.steps, ∀ b ∈ step.bindings, ∀ v, b.default? = some v → v.ty = b.type.ty

/-- The route has a parameter for each name that a binding reads from it, up to the case of the letters
A to Z. -/
structure RoutesNamed (a : Action σ) : Prop where
  named : ∀ step ∈ a.steps, ∀ b ∈ step.bindings, ∀ name, b.source = .route name →
    ∃ p ∈ Route.parameters a.route, Text.eqIgnoreAsciiCase p.name name = true

/-- Each step fits its handler, or has the target that it renders. -/
structure SignaturesFit (a : Action σ) : Prop where
  fits : ∀ step ∈ a.steps, step.kind.isRender = false → ∀ l, step.logic? = some l → step.FitsLogic l
  targets : ∀ step ∈ a.steps, step.kind.isRender = true → step.renderTarget?.isSome

/-- All rules of an action. -/
structure WellFormed (a : Action σ) : Prop extends Valid a, RoutesNamed a, SignaturesFit a

end Action

end HandlerChain
