import HandlerChain.Handler.Binding
import HandlerChain.Handler.Logic

/-!
# Action definitions

An action is a method and a route with a chain of handler steps. A step calls a handler or renders
the result of the step before.

## Main Definitions

* `Tag` is a remark on an action or on its unit.
* `StepKind` and `Step` are the parts of a chain.
* `ViewTarget` names what renders a result.
* `Action` is the definition of an action.
-/

namespace HandlerChain

/-- A remark: what an API explorer should know, or a name with properties sorted by key. -/
inductive Tag where
  | explorer (group : Option String) (ignore : Bool)
  | custom (name : String) (properties : List (String × Json))
  deriving Repr, BEq

namespace Tag

/-- A custom remark with one more property; other remarks have none. -/
def withProperty (t : Tag) (key : String) (value : Json) : Tag :=
  match t with
  | explorer g i => explorer g i
  | custom n ps => custom n (Json.insert key value ps)

/-- Whether a remark is for API explorers. -/
def isExplorer : Tag → Bool
  | explorer _ _ => true
  | custom _ _ => false

end Tag

/-- The kinds of steps. -/
inductive StepKind where
  | function | sideEffect | viewRender | partialViewRender | componentRender | passThroughTarget
  deriving DecidableEq, Repr

/-- The kinds of rendering. -/
inductive RenderKind where
  | view | partialView | component
  deriving DecidableEq, Repr

namespace StepKind

/-- The name of a kind. -/
def name : StepKind → String
  | function => "Function"
  | sideEffect => "SideEffect"
  | viewRender => "ViewRender"
  | partialViewRender => "PartialViewRender"
  | componentRender => "ComponentRender"
  | passThroughTarget => "PassThroughTarget"

/-- The kind of rendering that a step does. -/
def renderKind? : StepKind → Option RenderKind
  | viewRender => some .view
  | partialViewRender => some .partialView
  | componentRender => some .component
  | _ => none

/-- Whether a step renders. -/
def isRender (k : StepKind) : Bool := k.renderKind?.isSome

/-- Whether a step calls a handler. -/
def invokesLogic (k : StepKind) : Bool := !k.isRender

/-- Whether a step has to produce a value. -/
def needsValue : StepKind → Bool
  | function | passThroughTarget => true
  | _ => false

end StepKind

/-- The name of a kind of rendering. -/
def RenderKind.name : RenderKind → String
  | view => "View"
  | partialView => "PartialView"
  | component => "Component"

/-- What renders a result. -/
structure ViewTarget where
  kind : RenderKind
  target : String
  deriving DecidableEq, Repr

/-- A step of a chain. -/
structure Step (σ : Type) where
  kind : StepKind
  bindings : List (Binding σ)
  returnType? : Option ValueType
  suspends : Bool
  logic? : Option (Logic σ)
  viewTarget? : Option String
  component? : Option String

namespace Step

variable {σ : Type}

/-- A step that calls a handler; the result of a side effect is dropped. -/
def ofLogic (kind : StepKind) (bindings : List (Binding σ)) (logic : Logic σ) : Step σ where
  kind := kind
  bindings := bindings
  returnType? := if kind = .sideEffect then none else some logic.returnType
  suspends := logic.suspends
  logic? := some logic
  viewTarget? := none
  component? := none

/-- A step that renders. -/
def ofTarget (t : ViewTarget) (bindings : List (Binding σ)) : Step σ where
  kind := match t.kind with
    | .view => .viewRender
    | .partialView => .partialViewRender
    | .component => .componentRender
  bindings := bindings
  returnType? := none
  suspends := false
  logic? := none
  viewTarget? := if t.kind = .component then none else some t.target
  component? := if t.kind = .component then some t.target else none

/-- What renders, in a step that renders and names it. -/
def renderTarget? (s : Step σ) : Option ViewTarget :=
  match s.kind.renderKind? with
  | none => none
  | some .component => s.component?.map fun t => ⟨.component, t⟩
  | some k => s.viewTarget?.map fun t => ⟨k, t⟩

end Step

/-- The definition of an action. -/
structure Action (σ : Type) where
  method : String
  route : String
  id? : Option String := none
  title? : Option String := none
  description? : Option String := none
  group? : Option String := none
  ignoreApi : Bool := false
  steps : List (Step σ) := []
  tags : List Tag := []
  classTags : List Tag := []
  parent? : Option String := none
  view? : Option ViewTarget := none

namespace Action

variable {σ : Type}

/-- The route with a leading slash. -/
def path (a : Action σ) : String :=
  if a.route.toList.head? = some '/' then a.route else "/" ++ a.route

/-- The method in brackets and the route. -/
def display (a : Action σ) : String := "[" ++ a.method ++ "]" ++ a.path

/-- The bindings of some steps, each with the number of its step; the first step has number `i`. -/
def bindingsFrom (i : Nat) : List (Step σ) → List (Nat × Binding σ)
  | [] => []
  | s :: rest => s.bindings.map (fun b => (i, b)) ++ bindingsFrom (i + 1) rest

/-- All bindings, each with the number of its step. -/
def allBindings (a : Action σ) : List (Nat × Binding σ) := bindingsFrom 0 a.steps

/-- What renders the last result: the view of the definition, or the last step. -/
def finalRenderTarget? (a : Action σ) : Option ViewTarget :=
  a.view? <|> a.steps.getLast?.bind Step.renderTarget?

end Action

end HandlerChain
