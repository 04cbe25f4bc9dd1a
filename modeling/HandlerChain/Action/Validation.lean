import HandlerChain.Action.Definition

/-!
# Validation of actions

The rules that the steps of a chain have to obey, and the violations of them in the order of the
steps and, for each step, of the rules.

## Main Definitions

* `Violation` is one broken rule at one place, `Violation.message` its wording.
* `Action.violations` lists all of them.
-/

namespace HandlerChain

/-- A broken rule. -/
inductive Violation where
  | noSteps
  | noReturnType (step : Nat) (kind : StepKind)
  | noLogic (step : Nat) (kind : StepKind)
  | renderNotLast (step : Nat)
  | renderConflict (step : Nat)
  | renderBindings (step : Nat)
  | renderNothing (step : Nat)
  | previousAtStart
  | previousEmpty (before : Nat)
  | previousType (step : Nat) (expected actual : String)
  | defaultType (binding : String) (step : Nat) (type : String)
  | sideEffectLast
  deriving DecidableEq, Repr

/-- The wording of a violation. -/
def Violation.message : Violation → String
  | noSteps => "Action definition must contain at least one handler step"
  | noReturnType i k => "Handler step " ++ toString i ++ " (" ++ k.name ++ ") must declare a return type"
  | noLogic i k => "Handler step " ++ toString i ++ " (" ++ k.name ++ ") has no logic to invoke"
  | renderNotLast i => "Render step " ++ toString i ++ " must terminate the handler chain"
  | renderConflict i =>
    "Definition-level view target conflicts with render step " ++ toString i
  | renderBindings i => "Render step " ++ toString i ++ " cannot declare bindings"
  | renderNothing i => "Render step " ++ toString i ++ " has no result to render"
  | previousAtStart => "PreviousHandlerResult on step 0 has no preceding step"
  | previousEmpty i =>
    "PreviousHandlerResult must reference the immediately preceding step; step " ++ toString i
      ++ " produces no value"
  | previousType i expected actual =>
    "PreviousHandlerResult on step " ++ toString i ++ " expects " ++ expected ++ " but step "
      ++ toString (i - 1) ++ " returns " ++ actual
  | defaultType binding i type =>
    "Default value for " ++ binding ++ " on step " ++ toString i ++ " is not a " ++ type
  | sideEffectLast => "A side-effect step cannot terminate a handler chain"

namespace Step

variable {σ : Type}

/-- What is wrong with the use of the result before the step `i`, taken as the type `expected`. The
result before is `before`: nothing at the start, and no type behind a step without result. -/
def previousViolations (i : Nat) (before : Option (Option ValueType)) (expected : ValueType) :
    List Violation :=
  match before with
  | none => [.previousAtStart]
  | some none => [.previousEmpty (i - 1)]
  | some (some actual) =>
    if actual.same expected then [] else [.previousType i expected.name actual.name]

/-- What is wrong with a binding of the step `i`. -/
def bindingViolations (i : Nat) (before : Option (Option ValueType)) (b : Binding σ) :
    List Violation :=
  (if b.kind = .previousHandlerResult then previousViolations i before b.type else []) ++
    match b.default? with
    | some v => if v.is b.type.ty then [] else [.defaultType b.display i b.type.name]
    | none => []

/-- What is wrong with the step `i`. -/
def violations (s : Step σ) (i : Nat) (isLast hasView : Bool)
    (before : Option (Option ValueType)) : List Violation :=
  (if s.kind.needsValue && s.returnType?.isNone then [Violation.noReturnType i s.kind] else []) ++
  (if s.kind.invokesLogic && s.logic?.isNone then [Violation.noLogic i s.kind] else []) ++
  (if s.kind.isRender && !isLast then [Violation.renderNotLast i] else []) ++
  (if s.kind.isRender && isLast && hasView then [Violation.renderConflict i] else []) ++
  (if s.kind.isRender && !s.bindings.isEmpty then [Violation.renderBindings i] else []) ++
  (if s.kind.isRender && (before.bind fun t => t).isNone then [Violation.renderNothing i] else []) ++
  s.bindings.flatMap (bindingViolations i before)

/-- What is wrong with the steps from number `i` on. -/
def violationsFrom (hasView : Bool) (i : Nat) (before : Option (Option ValueType)) :
    List (Step σ) → List Violation
  | [] => []
  | s :: rest =>
    s.violations i rest.isEmpty hasView before
      ++ violationsFrom hasView (i + 1) (some s.returnType?) rest

end Step

namespace Action

variable {σ : Type}

/-- All violations, in order. -/
def violations (a : Action σ) : List Violation :=
  (if a.steps.isEmpty then [Violation.noSteps] else []) ++
  Step.violationsFrom a.view?.isSome 0 none a.steps ++
  (if (a.steps.getLast?.map Step.kind) = some .sideEffect then [Violation.sideEffectLast] else [])

/-- Whether no rule is broken. -/
def isValid (a : Action σ) : Bool := a.violations.isEmpty

/-- The message that lists what is wrong with an action. -/
def invalidMessage (endpoint : String) (errors : List String) : String :=
  "action " ++ endpoint ++ " is invalid: " ++ "; ".intercalate errors

end Action

end HandlerChain
