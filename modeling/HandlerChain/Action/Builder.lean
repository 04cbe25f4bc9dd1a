import HandlerChain.Action.Definition

/-!
# Building actions

Actions are built step by step. Bindings wait for the next step; those that are declared after the
last step are dropped.

## Main Definitions

* `Builder` is an action under construction with the bindings that wait.
* `Builder.withBinding`, `Builder.handledBy` and the like add to it.
* `Builder.build` is the finished action.
-/

namespace HandlerChain

/-- An action under construction. -/
structure Builder (σ : Type) where
  action : Action σ
  waiting : List (Binding σ) := []

namespace Builder

variable {σ : Type}

/-- An action without steps. -/
def start (method route : String) : Builder σ := { action := { method := method, route := route } }

/-- The action with an identifier. -/
def id (b : Builder σ) (s : String) : Builder σ := { b with action := { b.action with id? := some s } }

/-- The action with a title. -/
def title (b : Builder σ) (s : String) : Builder σ :=
  { b with action := { b.action with title? := some s } }

/-- The action with a description. -/
def description (b : Builder σ) (s : String) : Builder σ :=
  { b with action := { b.action with description? := some s } }

/-- The action in a group. -/
def groupBy (b : Builder σ) (s : String) : Builder σ :=
  { b with action := { b.action with group? := some s } }

/-- The action left out of the documentation. -/
def ignoreApi (b : Builder σ) : Builder σ := { b with action := { b.action with ignoreApi := true } }

/-- The action with one more remark. -/
def tag (b : Builder σ) (t : Tag) : Builder σ :=
  { b with action := { b.action with tags := b.action.tags ++ [t] } }

/-- The action with one more remark on its unit. -/
def tagClass (b : Builder σ) (t : Tag) : Builder σ :=
  { b with action := { b.action with classTags := b.action.classTags ++ [t] } }

/-- The action with a base type for its unit. -/
def inherit (b : Builder σ) (s : String) : Builder σ :=
  { b with action := { b.action with parent? := some s } }

/-- One more binding for the next step. -/
def withBinding (b : Builder σ) (binding : Binding σ) : Builder σ :=
  { b with waiting := b.waiting ++ [binding] }

/-- One more step, which takes the bindings that wait. -/
def push (b : Builder σ) (step : List (Binding σ) → Step σ) : Builder σ where
  action := { b.action with steps := b.action.steps ++ [step b.waiting] }
  waiting := []

/-- A step whose result is the next step's, by a handler. -/
def handledBy (b : Builder σ) (l : Logic σ) : Builder σ := b.push fun bs => .ofLogic .function bs l

/-- A step without result. -/
def sideEffect (b : Builder σ) (l : Logic σ) : Builder σ := b.push fun bs => .ofLogic .sideEffect bs l

/-- A step that passes its result on under the name of a target. -/
def toTarget (b : Builder σ) (name : String) (l : Logic σ) : Builder σ :=
  b.push fun bs => { Step.ofLogic .passThroughTarget bs l with component? := some name }

/-- A step that renders. -/
def render (b : Builder σ) (t : ViewTarget) : Builder σ := b.push (.ofTarget t)

/-- The action with a view for its last result. -/
def withView (b : Builder σ) (t : ViewTarget) : Builder σ :=
  { b with action := { b.action with view? := some t } }

/-- The finished action. -/
def build (b : Builder σ) : Action σ := b.action

end Builder

end HandlerChain
