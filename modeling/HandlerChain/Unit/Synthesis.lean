import HandlerChain.Action.Plan
import HandlerChain.Unit.Dispatch

/-!
# Synthesis of units

A unit is made from an action and a plan in two parts. First every step is prepared: its arguments get
their sources, and its bindings are compared with its handler. Only when all steps are prepared are the
handlers registered, in the order of the steps.

## Main Definitions

* `SynthesisFailure` says why an action has no unit.
* `Step.prepare` and `prepareSteps` are the first part, `Workshop.register` the second.
* `Workshop` holds the registry and the sources of keys and names.
* `synthesize` makes the unit, `Endpoint` is a compiled action, put together by `Action.endpoint`.
-/

namespace HandlerChain

/-- Why an action has no unit. Steps are counted from zero, arguments from one. -/
inductive SynthesisFailure where
  | arity (step declared accepted : Nat)
  | unsupportedArity (step taken limit : Nat)
  | argumentType (step position : Nat) (bound expected : String)
  | returnType (step : Nat) (declared actual : String)
  | suspension (step : Nat) (declared : Bool)
  | ambientType (step : Nat) (kind : AmbientKind) (bound expected : String)
  | missingSlot (step : Nat) (binding : String)
  | missingLogic (step : Nat)
  | missingRenderTarget (step : Nat)
  deriving DecidableEq, Repr

/-- The wording of a failure. -/
def SynthesisFailure.message : SynthesisFailure → String
  | arity i declared accepted =>
    "step " ++ toString i ++ " declares " ++ toString declared ++ " bindings but its logic takes "
      ++ toString accepted ++ " arguments"
  | unsupportedArity i n limit =>
    "step " ++ toString i ++ " takes " ++ toString n ++ " arguments, more than the supported "
      ++ toString limit
  | argumentType i position bound expected =>
    "step " ++ toString i ++ " argument " ++ toString position ++ " is bound as " ++ bound
      ++ " but the logic expects " ++ expected
  | returnType i declared actual =>
    "step " ++ toString i ++ " declares return type " ++ declared ++ " but its logic returns " ++ actual
  | suspension i declared =>
    "step " ++ toString i ++ " declares suspends = " ++ (if declared then "true" else "false")
      ++ ", which disagrees with its logic"
  | ambientType i kind bound expected =>
    "step " ++ toString i ++ " binds ambient " ++ kind.name ++ " as " ++ bound ++ ", expected " ++ expected
  | missingSlot i binding => "step " ++ toString i ++ " binding " ++ binding ++ " has no parameter slot"
  | missingLogic i => "step " ++ toString i ++ " has no logic to register"
  | missingRenderTarget i => "render step " ++ toString i ++ " has no target"

/-- Settings of the compiler. -/
structure CompilerConfig where
  unitName : String := "ActionUnit"
  failFast : Bool := false
  logPlans : Bool := true
  deriving DecidableEq, Repr

/-- What compilation reports. -/
inductive Event where
  | compiling (steps : Nat)
  | invalid (errors : List String)
  | routeMismatch (parameter : String)
  | registered (step : Nat) (key : HandlerKey)
  | planned (slots : List String)
  | synthesized (unit : String) (strategy : Strategy) (returns : ReturnShape)
  | synthesisFailed (cause : String)
  deriving DecidableEq, Repr

/-- How grave a report is. -/
inductive EventLevel where
  | debug | info | warn
  deriving DecidableEq, Repr

namespace Event

/-- How grave an event is. -/
def level : Event → EventLevel
  | compiling _ | registered _ _ | planned _ => .debug
  | synthesized _ _ _ => .info
  | invalid _ | routeMismatch _ | synthesisFailed _ => .warn

/-- The message of an event. -/
def message : Event → String
  | compiling _ => "compiling action"
  | invalid _ => "action failed validation"
  | routeMismatch _ => "route parameter is not in template"
  | registered _ _ => "registered step logic"
  | planned _ => "planned parameters"
  | synthesized _ _ _ => "synthesized dispatch unit"
  | synthesisFailed _ => "synthesis failed"

/-- The fields of an event, in order. -/
def fields : Event → List (String × String)
  | compiling n => [("steps", toString n)]
  | invalid errors => [("errors", "; ".intercalate errors)]
  | routeMismatch p => [("parameter", p)]
  | registered i key => [("step", toString i), ("key", key.text)]
  | planned slots => [("count", toString slots.length), ("slots", ", ".intercalate slots)]
  | synthesized unit strategy returns =>
    [("unit", unit), ("strategy", strategy.name), ("returns", returns.name)]
  | synthesisFailed cause => [("cause", cause)]

end Event

namespace Step

variable {σ : Type}

/-- The source of the argument of one binding of the step `i`. -/
def argumentSource (i : Nat) (plan : Plan σ) (b : Binding σ) :
    Except SynthesisFailure ArgumentSource :=
  match b.source with
  | .previous => .ok .previous
  | .ambient k =>
    if b.type.ty = .ambient k then .ok (.ambient k)
    else .error (.ambientType i k b.type.name (Ty.ambient k).name)
  | _ =>
    match plan.slotOf? b with
    | some slot => .ok (.slot slot)
    | none => .error (.missingSlot i b.display)

/-- The sources of the arguments of some bindings, up to the first that has none. -/
def argumentSources (i : Nat) (plan : Plan σ) :
    List (Binding σ) → Except SynthesisFailure (List ArgumentSource)
  | [] => .ok []
  | b :: rest =>
    match argumentSource i plan b with
    | .error e => .error e
    | .ok s => (argumentSources i plan rest).map (s :: ·)

/-- The first binding whose type is not that of its parameter, counted from `position`. -/
def wrongArgument (i position : Nat) : List (Binding σ) → List Ty → Option SynthesisFailure
  | b :: bs, t :: ts =>
    if b.type.ty = t then wrongArgument i (position + 1) bs ts
    else some (.argumentType i position b.type.name t.name)
  | _, _ => none

/-- What keeps a handler from being the logic of the step `i`. -/
def logicFailure (s : Step σ) (i : Nat) (l : Logic σ) : Option SynthesisFailure :=
  if maxArity < l.arity then some (.unsupportedArity i l.arity maxArity)
  else if l.arity ≠ s.bindings.length then some (.arity i s.bindings.length l.arity)
  else match wrongArgument i 1 s.bindings l.params with
    | some e => some e
    | none =>
      let wrongReturn : Option SynthesisFailure :=
        match s.returnType? with
        | some declared =>
          if declared.same l.returnType then none
          else some (.returnType i declared.name l.returnType.name)
        | none => none
      match wrongReturn with
      | some e => some e
      | none => if s.suspends ≠ l.suspends then some (.suspension i s.suspends) else none

/-- The call of the step `i`, with the handler that is to be registered for it. -/
def prepare (s : Step σ) (i : Nat) (plan : Plan σ) :
    Except SynthesisFailure (StepCall × Option (Logic σ)) :=
  if maxArity < s.bindings.length then .error (.unsupportedArity i s.bindings.length maxArity)
  else match argumentSources i plan s.bindings with
    | .error e => .error e
    | .ok args =>
      if s.kind.isRender then
        match s.renderTarget? with
        | none => .error (.missingRenderTarget i)
        | some t => .ok (⟨s.kind, none, args, false, none, some t⟩, none)
      else match s.logic? with
        | none => .error (.missingLogic i)
        | some l =>
          match s.logicFailure i l with
          | some e => .error e
          | none => .ok (⟨s.kind, none, args, s.suspends, s.returnType?, none⟩, some l)

end Step

section

variable {σ : Type}

/-- The calls of the steps from number `i` on, with the handlers that are to be registered. -/
def prepareSteps (plan : Plan σ) : Nat → List (Step σ) →
    Except SynthesisFailure (List (StepCall × Option (Logic σ)))
  | _, [] => .ok []
  | i, s :: rest =>
    match s.prepare i plan with
    | .error e => .error e
    | .ok call => (prepareSteps plan (i + 1) rest).map (call :: ·)

/-- The parameter at a position for a binding; what the chain itself supplies has none. -/
def Parameter.ofBinding? (position : Nat) (b : Binding σ) : Option (Parameter σ) :=
  (Marker.ofSource? b.source).map fun marker =>
    { position := position
      name := match b.source with
        | .service => "service" ++ toString position
        | .body => "body" ++ toString position
        | .form => "form" ++ toString position
        | .custom _ => "custom" ++ toString position
        | _ => b.name?.getD ""
      marker := marker
      type := b.type
      optional := b.default?.isSome
      default? := b.default?
      binding := b }

/-- The parameters that are planned, each at the position that its slot is. -/
def Parameter.ofPlanned : List (PlannedParameter σ) → Except SynthesisFailure (List (Parameter σ))
  | [] => .ok []
  | planned :: rest =>
    match Parameter.ofBinding? planned.slot planned.binding with
    | none => .error (.missingSlot 0 planned.binding.display)
    | some p => (Parameter.ofPlanned rest).map (p :: ·)

/-- The slot of a parameter and its binding. -/
def Parameter.display (p : Parameter σ) : String :=
  toString p.position ++ ":" ++ p.binding.display

/-- The registry, and what new keys and names are drawn from. -/
structure Workshop (σ : Type) where
  registry : Registry σ
  keys : KeySource
  units : Nat

/-- A workshop without handlers. -/
def Workshop.empty : Workshop σ := ⟨.empty, .counting, 0⟩

/-- Registers the handlers of the steps from number `i` on. -/
def Workshop.register (w : Workshop σ) : Nat → List (StepCall × Option (Logic σ)) →
    List StepCall × Workshop σ × List Event
  | _, [] => ([], w, [])
  | i, (call, none) :: rest =>
    let (calls, w, events) := w.register (i + 1) rest
    (call :: calls, w, events)
  | i, (call, some l) :: rest =>
    let (key, registry, keys) := w.registry.add w.keys l
    let (calls, w, events) := Workshop.register { w with registry := registry, keys := keys } (i + 1) rest
    ({ call with key? := some key } :: calls, w, .registered i key :: events)

/-- A number as 32 hexadecimal digits. -/
def hex32 (n : Nat) : String :=
  let digits := Nat.toDigits 16 n
  String.ofList (List.replicate (32 - digits.length) '0' ++ digits)

/-- The remarks on the unit of an action: its own, and its group if no remark is for explorers. -/
def Action.unitTags (a : Action σ) : List Tag :=
  let explicit := (a.classTags ++ a.tags).any Tag.isExplorer
  if !explicit && (a.group?.isSome || a.ignoreApi) then
    a.classTags ++ [.explorer a.group? a.ignoreApi]
  else a.classTags

/-- The pieces of a text between characters that are neither letters nor digits of ASCII. -/
def alphanumericParts (acc : List Char) : List Char → List (List Char)
  | [] => if acc.isEmpty then [] else [acc.reverse]
  | c :: rest =>
    if c.isAlphanum then alphanumericParts (c :: acc) rest
    else if acc.isEmpty then alphanumericParts [] rest
    else acc.reverse :: alphanumericParts [] rest

/-- The identifier of an action that names none: method and parts of the route in lower case. -/
def Action.defaultId (a : Action σ) : String :=
  (alphanumericParts [] a.route.toList).foldl
    (fun id part => id ++ "_" ++ Text.lowerAscii (String.ofList part)) (Text.lowerAscii a.method)

/-- Whether the units of some steps suspend. -/
def returnShapeOf (body : List StepCall) : ReturnShape :=
  if body.any StepCall.suspends then .suspending else .immediate

/-- One step that suspends and whose result is not rendered is called directly. -/
def strategyOf (hasView : Bool) : List StepCall → Strategy
  | [only] => if only.suspends && only.render?.isNone && !hasView then .direct else .sequenced
  | _ => .sequenced

/-- A compiled action. -/
structure Endpoint (σ : Type) where
  id : String
  name : String
  unit : DispatchUnit σ
  action : Action σ

/-- What all steps and parameters are before any handler is registered. -/
def prepareAction (a : Action σ) (plan : Plan σ) :
    Except SynthesisFailure (List (Parameter σ) × List (StepCall × Option (Logic σ))) :=
  match Parameter.ofPlanned plan.ordered with
  | .error e => .error e
  | .ok parameters => (prepareSteps plan 0 a.steps).map fun steps => (parameters, steps)

/-- The endpoint of an action, whose unit has a number of its own, some parameters, and the calls of the
steps. -/
def Action.endpoint (config : CompilerConfig) (a : Action σ) (number : Nat)
    (parameters : List (Parameter σ)) (body : List StepCall) : Endpoint σ where
  id := a.id?.getD a.defaultId
  name := a.display
  unit :=
    { typeName := config.unitName ++ "_" ++ hex32 number
      base := a.parent?.getD defaultBase
      classTags := a.unitTags
      httpMethod := a.method
      tags := a.tags
      parameters := parameters
      returns := returnShapeOf body
      strategy := strategyOf a.view?.isSome body
      body := body
      finalRender? := a.view? }
  action := a

/-- Makes the unit of an action with the slots of a plan. -/
def synthesize (config : CompilerConfig) (w : Workshop σ) (a : Action σ) (plan : Plan σ) :
    Except SynthesisFailure (Endpoint σ) × Workshop σ × List Event :=
  match prepareAction a plan with
  | .error e => (.error e, w, [])
  | .ok (parameters, steps) =>
    let (body, w, registered) := w.register 0 steps
    let endpoint := a.endpoint config w.units parameters body
    let planned := if config.logPlans then [Event.planned (parameters.map Parameter.display)] else []
    (.ok endpoint, { w with units := w.units + 1 },
      registered ++ planned ++
        [.synthesized endpoint.unit.typeName endpoint.unit.strategy endpoint.unit.returns])

end

end HandlerChain
