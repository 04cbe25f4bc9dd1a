import HandlerChain.Action.Definition
import HandlerChain.Unit.Dispatch

/-!
# The meaning of actions

What running an action gives, said of the definition itself: the steps from first to last, each with its
own bindings and its own handler.  There are no keys, no plan and no strategy here; a handler that
suspends is done before the next step, like any other.

## Main Definitions

* `Action.inputs` are the inputs that the bindings of an action name, `Action.slotOf` their slots.
* `Action.argument` is the value that a binding stands for during a run.
* `Action.meaning` is what a run gives.
-/

namespace HandlerChain.Action

variable {σ : Type}

/-- The bindings that read an input of the action, in the order in which they are declared. -/
def inputBindings (a : Action σ) : List (Binding σ) :=
  (a.allBindings.map Prod.snd).filter Binding.isMethodLevel

/-- The inputs of an action, each once, in the order in which they are first named. -/
def inputs (a : Action σ) : List Identity := (a.inputBindings.map Binding.identity).eraseDups

/-- The slot of the input that a binding is; slots are counted from one. -/
def slotOf (a : Action σ) (b : Binding σ) : Nat := a.inputs.idxOf b.identity + 1

/-- The first binding that is the same input as the given one. -/
def firstOf? (a : Action σ) (b : Binding σ) : Option (Binding σ) :=
  a.inputBindings.find? fun first => first.identity = b.identity

/-- The value of a binding of the step `index`. For an input this is what its slot holds, or else the
default of the first binding that is this input. -/
def argument (a : Action σ) (args : Arguments) (host : Host σ) (index : Nat)
    (previous : Option TypedValue) (b : Binding σ) (s : σ) : Except DispatchError Dyn × σ :=
  match b.source with
  | .previous =>
    match previous with
    | some p => (.ok p.value, s)
    | none => (.error (.noPreviousResult index), s)
  | .ambient kind =>
    match host.ambient kind s with
    | (some v, s) => (.ok v, s)
    | (none, s) => (.error (.missingAmbient kind), s)
  | _ =>
    match args.get? (a.slotOf b) <|> (a.firstOf? b).bind Binding.default? with
    | some v => (.ok v, s)
    | none => (.error (.missingArgument (a.slotOf b)), s)

/-- The values of some bindings, in order, up to the first that has none. -/
def arguments (a : Action σ) (args : Arguments) (host : Host σ) (index : Nat)
    (previous : Option TypedValue) : List (Binding σ) → σ → Except DispatchError (List Dyn) × σ
  | [], s => (.ok [], s)
  | b :: rest, s =>
    match a.argument args host index previous b s with
    | (.error e, s) => (.error e, s)
    | (.ok v, s) =>
      let (vs, s) := a.arguments args host index previous rest s
      (vs.map (v :: ·), s)

/-- Shows a result through a view. -/
def present (host : Host σ) (t : ViewTarget) (model : TypedValue) (s : σ) :
    Except DispatchError Outcome × σ :=
  match host.render ⟨t.kind, t.target, model⟩ s with
  | (.ok page, s) => (.ok (.rendered page), s)
  | (.error e, s) => (.error e, s)

/-- What a chain ends with: its last result, through the view of the action if there is one. -/
def finish (a : Action σ) (host : Host σ) (index : Nat) :
    Option TypedValue → σ → Except DispatchError Outcome × σ
  | none, s => (.error (.noPreviousResult index), s)
  | some result, s =>
    match a.view? with
    | some t => present host t result s
    | none => (.ok (.value result), s)

/-- The handler of the step `index` on the values of its bindings, done to its end. -/
def handle (a : Action σ) (args : Arguments) (host : Host σ) (index : Nat)
    (previous : Option TypedValue) (bindings : List (Binding σ)) (l : Logic σ) (s : σ) :
    Except DispatchError Dyn × σ :=
  match a.arguments args host index previous bindings s with
  | (.error e, s) => (.error e, s)
  | (.ok vs, s) =>
    match Args.ofList l.params vs with
    | .error e => (.error (.invoke index e), s)
    | .ok xs => ((.ok (l.complete xs s).1), (l.complete xs s).2)

/-- What the steps from number `index` on give after a result. A step with a target shows the result and
ends the run; any other leaves its own result, if it declares one, to the next. No action that compiles
has a step with neither a target nor a handler. -/
def meaningFrom (a : Action σ) (args : Arguments) (host : Host σ) :
    Nat → Option TypedValue → List (Step σ) → σ → Except DispatchError Outcome × σ
  | index, previous, [], s => a.finish host index previous s
  | index, previous, step :: rest, s =>
    match step.renderTarget?, step.logic? with
    | some t, _ =>
      match previous with
      | some model => present host t model s
      | none => (.error (.noPreviousResult index), s)
    | none, none => (.error (.unknownHandler ""), s)
    | none, some l =>
      match a.handle args host index previous step.bindings l s with
      | (.error e, s) => (.error e, s)
      | (.ok v, s) =>
        a.meaningFrom args host (index + 1) (step.returnType?.map fun t => ⟨t, v⟩) rest s

/-- What an action gives on some arguments. -/
def meaning (a : Action σ) (args : Arguments) (host : Host σ) (s : σ) :
    Except DispatchError Outcome × σ :=
  a.meaningFrom args host 0 none a.steps s

end HandlerChain.Action
