import HandlerChain.Action.Definition

/-!
# Parameter plans

The inputs of an action in the order in which its bindings first name them. Each input has a slot, and
bindings that are the same input share it. A plan keeps its parameters in a list, each with its slot, and
beside the list a table in which the slot of an input is looked up.

## Main Definitions

* `PlannedParameter` is the first binding of an input with its slot.
* `Plan` has the parameters and the table, `Plan.slotOf?` is the slot of a binding.
* `Plan.add` plans one more binding, and `Action.plan` is the plan of an action.
-/

namespace HandlerChain

/-- A binding and the slot that its input has; slots are counted from one. -/
structure PlannedParameter (σ : Type) where
  slot : Nat
  binding : Binding σ

/-- The parameters in the order in which they were planned, and the slots by input. -/
structure Plan (σ : Type) where
  params : List (PlannedParameter σ)
  slots : List (Identity × Nat)

namespace Plan

variable {σ : Type}

/-- A plan of nothing. -/
def empty : Plan σ := ⟨[], []⟩

/-- The parameters in the order of their slots. -/
def ordered (p : Plan σ) : List (PlannedParameter σ) := p.params

/-- The bindings of the parameters. -/
def bindings (p : Plan σ) : List (Binding σ) := p.params.map PlannedParameter.binding

/-- The slot of the input that a binding is. -/
def slotOf? (p : Plan σ) (b : Binding σ) : Option Nat := p.slots.lookup b.identity

/-- The plan with one more binding, if it is method-level and its input has no slot yet. -/
def add (p : Plan σ) (b : Binding σ) : Plan σ :=
  if !b.isMethodLevel then p
  else if (p.slotOf? b).isSome then p
  else
    let slot := p.params.length + 1
    { params := p.params ++ [⟨slot, b⟩], slots := (b.identity, slot) :: p.slots }

end Plan

/-- The plan of an action. -/
def Action.plan {σ : Type} (a : Action σ) : Plan σ :=
  (a.allBindings.map Prod.snd).foldl Plan.add .empty

end HandlerChain
