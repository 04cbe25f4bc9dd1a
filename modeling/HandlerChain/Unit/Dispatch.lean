import HandlerChain.Unit.Registry
import HandlerChain.Unit.View

/-!
# Dispatch units

A dispatch unit is what an action is compiled to: parameters with slots, and a body of step calls that
name handlers by key. Invoking a unit walks the body in order; a handler that suspends is completed
before the next step begins.

## Main Definitions

* `Arguments` are values by slot.
* `Parameter`, `StepCall` and `DispatchUnit` are a unit and its parts.
* `Host` is what a unit may ask of its surroundings.
* `DispatchUnit.invoke` runs a unit, `DispatchUnit.invokeImmediate` one that never suspends.
* `DispatchError` says why a run failed.
-/

namespace HandlerChain

/-- Values by slot; the first slot is slot one. -/
structure Arguments where
  slots : List (Option Dyn)

namespace Arguments

/-- A number of empty slots. -/
def withLength (n : Nat) : Arguments := ⟨List.replicate n none⟩

/-- Slots with the given values. -/
def ofValues (vs : List Dyn) : Arguments := ⟨vs.map some⟩

/-- The slots with at least `n` of them. -/
def padTo (n : Nat) (slots : List (Option Dyn)) : List (Option Dyn) :=
  slots ++ List.replicate (n - slots.length) none

/-- The slots with a value in one of them; there is no slot zero. -/
def set (a : Arguments) : Nat → Dyn → Arguments
  | 0, _ => a
  | i + 1, v => ⟨(padTo (i + 1) a.slots).set i (some v)⟩

/-- The value in a slot. -/
def get? (a : Arguments) : Nat → Option Dyn
  | 0 => none
  | i + 1 => a.slots[i]?.bind id

/-- The number of slots. -/
def size (a : Arguments) : Nat := a.slots.length

end Arguments

/-- A parameter of a unit. -/
structure Parameter (σ : Type) where
  position : Nat
  name : String
  marker : Marker σ
  type : ValueType
  optional : Bool
  default? : Option Dyn
  binding : Binding σ

/-- Whether a unit may suspend. -/
inductive ReturnShape where
  | immediate | suspending
  deriving DecidableEq, Repr

/-- Whether a unit is one call or a sequence of steps. -/
inductive Strategy where
  | direct | sequenced
  deriving DecidableEq, Repr

/-- The name of a shape. -/
def ReturnShape.name : ReturnShape → String
  | immediate => "Immediate"
  | suspending => "Suspending"

/-- The name of a strategy. -/
def Strategy.name : Strategy → String
  | direct => "Direct"
  | sequenced => "Sequenced"

/-- Where a step call takes an argument from. -/
inductive ArgumentSource where
  | slot (position : Nat)
  | ambient (kind : AmbientKind)
  | previous
  deriving DecidableEq, Repr

/-- One step of the body of a unit. -/
structure StepCall where
  kind : StepKind
  key? : Option HandlerKey
  args : List ArgumentSource
  suspends : Bool
  returns? : Option ValueType
  render? : Option ViewTarget

/-- A compiled action. -/
structure DispatchUnit (σ : Type) where
  typeName : String
  base : String
  classTags : List Tag
  httpMethod : String
  tags : List Tag
  parameters : List (Parameter σ)
  returns : ReturnShape
  strategy : Strategy
  body : List StepCall
  finalRender? : Option ViewTarget

/-- The name of the method of a unit that a host calls. -/
def actionMethodName : String := "HandlerAction"

/-- The base type of a unit whose action names none. -/
def defaultBase : String := "ActionController"

/-- Why the parameters of a unit have no values. -/
inductive BindingError where
  | missing (sourceKind name : String)
  | invalid (sourceKind name reason : String)
  | body (reason : String)
  | bodyRead (reason : String)
  | payloadTooLarge (limit : Nat)
  | serviceUnavailable (service : String)
  | resolver (resolver reason : String)
  deriving DecidableEq, Repr

/-- The wording of an error. -/
def BindingError.message : BindingError → String
  | missing kind name => "missing required " ++ kind ++ " '" ++ name ++ "'"
  | invalid kind name reason => "invalid value for " ++ kind ++ " '" ++ name ++ "': " ++ reason
  | body reason => "request body could not be decoded: " ++ reason
  | bodyRead reason => "request body could not be read: " ++ reason
  | payloadTooLarge limit => "request body exceeds " ++ toString limit ++ " bytes"
  | serviceUnavailable service => "service '" ++ service ++ "' is not registered"
  | resolver name reason => "resolver '" ++ name ++ "' failed: " ++ reason

/-- Why a run failed. -/
inductive DispatchError where
  | wouldSuspend
  | unknownHandler (key : String)
  | missingArgument (position : Nat)
  | missingAmbient (kind : AmbientKind)
  | noPreviousResult (step : Nat)
  | invoke (step : Nat) (cause : CallError)
  | binding (cause : BindingError)
  | view (cause : ViewError)
  | encode (cause : EncodeError)
  deriving DecidableEq, Repr

namespace DispatchError

/-- The wording of an error. -/
def message : DispatchError → String
  | wouldSuspend => "unit suspends and cannot be invoked immediately"
  | unknownHandler key => "handler '" ++ key ++ "' is not registered"
  | missingArgument position => "argument slot " ++ toString position ++ " was not supplied"
  | missingAmbient kind => "ambient " ++ kind.name ++ " is not available from the host"
  | noPreviousResult step =>
    "step " ++ toString step ++ " reads a previous result that does not exist"
  | invoke step _ => "step " ++ toString step ++ " invocation failed"
  | binding cause => cause.message
  | view cause => cause.message
  | encode cause => cause.message

/-- The wording of the error behind an error. -/
def cause? : DispatchError → Option String
  | invoke _ cause => some cause.message
  | view (.model cause) => some cause.message
  | _ => none

end DispatchError

/-- What a unit may ask of its surroundings. Both answers may depend on the state that handlers share, and
may change it. -/
structure Host (σ : Type) where
  ambient : AmbientKind → σ → Option Dyn × σ
  render : RenderRequest → σ → Except DispatchError Rendered × σ

namespace Host

variable {σ : Type}

/-- Surroundings that neither read nor change the state. -/
def constant (ambient : AmbientKind → Option Dyn)
    (render : RenderRequest → Except ViewError Rendered) : Host σ where
  ambient k s := (ambient k, s)
  render r s := ((render r).mapError .view, s)

/-- Surroundings without a request: only services, and no view. -/
def detached (services : Services) : Host σ :=
  constant
    (fun
      | .services => some ⟨.ambient .services, services⟩
      | _ => none)
    fun r => .error (.notFound r.target)

end Host

/-- What a run gives. -/
inductive Outcome where
  | value (v : TypedValue)
  | rendered (page : Rendered)

namespace DispatchUnit

variable {σ : Type}

/-- Whether the unit may suspend. -/
def suspends (u : DispatchUnit σ) : Bool := u.returns = .suspending

/-- The keys of the handlers of a unit, in the order of the steps. -/
def handlerKeys (u : DispatchUnit σ) : List HandlerKey := u.body.filterMap StepCall.key?

/-- The default of the parameter with a slot. -/
def defaultFor (u : DispatchUnit σ) : Nat → Option Dyn
  | 0 => none
  | i + 1 => u.parameters[i]?.bind Parameter.default?

/-- The value of one argument of the step `index`. -/
def resolveArg (u : DispatchUnit σ) (index : Nat) (args : Arguments) (host : Host σ)
    (previous : Option TypedValue) (source : ArgumentSource) (s : σ) : Except DispatchError Dyn × σ :=
  match source with
  | .slot position =>
    match args.get? position <|> u.defaultFor position with
    | some v => (.ok v, s)
    | none => (.error (.missingArgument position), s)
  | .ambient kind =>
    match host.ambient kind s with
    | (some v, s) => (.ok v, s)
    | (none, s) => (.error (.missingAmbient kind), s)
  | .previous =>
    match previous with
    | some p => (.ok p.value, s)
    | none => (.error (.noPreviousResult index), s)

/-- The values of some arguments of the step `index`, up to the first that has none. -/
def resolveArgs (u : DispatchUnit σ) (index : Nat) (args : Arguments) (host : Host σ)
    (previous : Option TypedValue) : List ArgumentSource → σ → Except DispatchError (List Dyn) × σ
  | [], s => (.ok [], s)
  | source :: rest, s =>
    match u.resolveArg index args host previous source s with
    | (.error e, s) => (.error e, s)
    | (.ok v, s) =>
      let (vs, s) := u.resolveArgs index args host previous rest s
      (vs.map (v :: ·), s)

/-- The handler of a step call. -/
def logic (registry : Registry σ) (call : StepCall) : Except DispatchError (Logic σ) :=
  match call.key? with
  | none => .error (.unknownHandler "")
  | some key =>
    match registry.get? key with
    | some l => .ok l
    | none => .error (.unknownHandler key.text)

/-- Runs the handler of the step `index`. If `awaits` is false, a handler that suspends is not
completed but ends the run. -/
def runStep (u : DispatchUnit σ) (registry : Registry σ) (awaits : Bool) (index : Nat)
    (call : StepCall) (args : Arguments) (host : Host σ) (previous : Option TypedValue) (s : σ) :
    Except DispatchError Dyn × σ :=
  match logic registry call with
  | .error e => (.error e, s)
  | .ok l =>
    match u.resolveArgs index args host previous call.args s with
    | (.error e, s) => (.error e, s)
    | (.ok vs, s) =>
      match l.call vs s with
      | .error e => (.error (.invoke index e), s)
      | .ok (.ready v, s) => (.ok v, s)
      | .ok (.pending complete, s) =>
        if awaits then
          let (v, s) := complete s
          (.ok v, s)
        else (.error .wouldSuspend, s)

/-- Renders a result. -/
def renderOutcome (host : Host σ) (t : ViewTarget) (model : TypedValue) (s : σ) :
    Except DispatchError Outcome × σ :=
  let (page, s) := host.render ⟨t.kind, t.target, model⟩ s
  (page.map .rendered, s)

/-- Runs the steps from number `index` on. -/
def runFrom (u : DispatchUnit σ) (registry : Registry σ) (awaits : Bool) (args : Arguments)
    (host : Host σ) : Nat → Option TypedValue → List StepCall → σ → Except DispatchError Outcome × σ
  | index, previous, [], s =>
    match previous with
    | none => (.error (.noPreviousResult index), s)
    | some result =>
      match u.finalRender? with
      | some t => renderOutcome host t result s
      | none => (.ok (.value result), s)
  | index, previous, call :: rest, s =>
    match call.render? with
    | some t =>
      match previous with
      | none => (.error (.noPreviousResult index), s)
      | some model => renderOutcome host t model s
    | none =>
      match u.runStep registry awaits index call args host previous s with
      | (.error e, s) => (.error e, s)
      | (.ok v, s) =>
        u.runFrom registry awaits args host (index + 1) (call.returns?.map fun t => ⟨t, v⟩) rest s

/-- Runs the first step alone. -/
def runDirect (u : DispatchUnit σ) (registry : Registry σ) (awaits : Bool) (args : Arguments)
    (host : Host σ) (s : σ) : Except DispatchError Outcome × σ :=
  match u.body with
  | [] => (.error (.noPreviousResult 0), s)
  | call :: _ =>
    match u.runStep registry awaits 0 call args host none s with
    | (.error e, s) => (.error e, s)
    | (.ok v, s) => (.ok (.value ⟨call.returns?.getD (.plain .unit), v⟩), s)

/-- Runs a unit by its strategy. -/
def run (u : DispatchUnit σ) (registry : Registry σ) (awaits : Bool) (args : Arguments)
    (host : Host σ) (s : σ) : Except DispatchError Outcome × σ :=
  match u.strategy with
  | .direct => u.runDirect registry awaits args host s
  | .sequenced => u.runFrom registry awaits args host 0 none u.body s

/-- Runs a unit and completes the handlers that suspend. -/
def invoke (u : DispatchUnit σ) (registry : Registry σ) (args : Arguments) (host : Host σ) (s : σ) :
    Except DispatchError Outcome × σ :=
  u.run registry true args host s

/-- Runs a unit that does not suspend. -/
def invokeImmediate (u : DispatchUnit σ) (registry : Registry σ) (args : Arguments) (host : Host σ)
    (s : σ) : Except DispatchError Outcome × σ :=
  if u.suspends then (.error .wouldSuspend, s) else u.run registry false args host s

end DispatchUnit

end HandlerChain
