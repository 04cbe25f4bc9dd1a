import HandlerChain.Unit.Compiler

/-!
# Compilations and runs side by side

Several compilations store handlers in one registry while units that are already finished run.  They take
turns: a turn of a compilation stores one handler at most, and a turn of a run is one step of its unit, which
looks its handler up when it comes to it.  Which turn is next, and from which candidates a key is drawn, is
left open; candidates may repeat within one source and from one source to the next.

What a run sees of the registry is a parameter of a turn.  On the floor as it is, a run sees the registry that
all share; for comparison it may see no more than what its own compilation has stored.

## Main Definitions

* `Compilation` is a compilation that has passed its checks, `Compilation.turn` its next step.
* `DispatchUnit.advance` is one step of a run; `DispatchUnit.begin` is where a run starts.
* `Floor` is a registry with what works on it, and `Floor.take` a turn of one of them.
-/

namespace HandlerChain

variable {σ : Type}

/-- A compilation that has passed its checks and stores the handlers of its calls, one after the other. -/
structure Compilation (σ : Type) where
  config : CompilerConfig
  action : Action σ
  number : Nat
  parameters : List (Parameter σ)
  body : List StepCall := []
  stored : List (HandlerKey × Logic σ) := []
  left : List (StepCall × Option (Logic σ))

namespace Compilation

/-- The compilation of an action, if the action passes its checks. No check looks at the registry. -/
def start? (config : CompilerConfig) (number : Nat) (a : Action σ) : Option (Compilation σ) :=
  if a.violations.isEmpty && a.strayRouteParameter?.isNone then
    match prepareAction a a.plan with
    | .error _ => none
    | .ok (parameters, calls) => some { config, action := a, number, parameters, left := calls }
  else none

/-- The next call of a compilation joins the body. If it has a handler, this is stored under a key that is
drawn from `source`; the list holds the key with the handler. -/
def turn (c : Compilation σ) (registry : Registry σ) (source : KeySource) :
    List (HandlerKey × Logic σ) × Compilation σ × Registry σ :=
  match c.left with
  | [] => ([], c, registry)
  | (call, none) :: left => ([], { c with body := c.body ++ [call], left }, registry)
  | (call, some l) :: left =>
    let (key, registry, _) := registry.add source l
    ([(key, l)],
      { c with
        body := c.body ++ [{ call with key? := some key }], stored := c.stored ++ [(key, l)], left },
      registry)

/-- Whether no call is left, so that the unit is finished. -/
def isFinished (c : Compilation σ) : Bool := c.left.isEmpty

/-- The registry that holds no more than what the compilation has stored. -/
def own (c : Compilation σ) : Registry σ := ⟨c.stored⟩

/-- The endpoint of a compilation that is finished. -/
def endpoint (c : Compilation σ) : Endpoint σ :=
  c.action.endpoint c.config c.number c.parameters c.body

end Compilation

/-- How far a run is: in front of a step with the result of the step before, or at its end. -/
inductive Stage where
  | before (index : Nat) (previous : Option TypedValue)
  | ended (answer : Except DispatchError Outcome)

namespace DispatchUnit

/-- Where a run begins. A unit that suspends does not begin to run if nobody awaits it. -/
def begin (u : DispatchUnit σ) (awaits : Bool) : Stage :=
  if !awaits && u.suspends then .ended (.error .wouldSuspend) else .before 0 none

/-- One step of a run. A step that renders is the last one, and a direct call is a single step. -/
def advance (u : DispatchUnit σ) (registry : Registry σ) (awaits : Bool) (args : Arguments)
    (host : Host σ) : Stage × σ → Stage × σ
  | (.ended answer, s) => (.ended answer, s)
  | (.before index previous, s) =>
    match u.strategy, u.body[index]? with
    | .direct, _ =>
      let (answer, s) := u.runDirect registry awaits args host s
      (.ended answer, s)
    | .sequenced, none =>
      let (answer, s) := u.runFrom registry awaits args host index previous [] s
      (.ended answer, s)
    | .sequenced, some call =>
      if call.render?.isSome then
        let (answer, s) := u.runFrom registry awaits args host index previous [call] s
        (.ended answer, s)
      else
        match u.runStep registry awaits index call args host previous s with
        | (.error e, s) => (.ended (.error e), s)
        | (.ok v, s) => (.before (index + 1) (call.returns?.map fun t => ⟨t, v⟩), s)

end DispatchUnit

/-- A run of a finished unit. `own` holds what the compilation of the unit has stored. -/
structure Run (σ : Type) where
  unit : DispatchUnit σ
  own : Registry σ
  awaits : Bool
  args : Arguments
  host : Host σ
  stage : Stage

/-- A registry with the compilations and the runs that work on it, the state that all handlers share, and
what has been stored so far: the keys that were returned, with the handlers they were returned for. -/
structure Floor (σ : Type) where
  registry : Registry σ
  state : σ
  returned : List (HandlerKey × Logic σ) := []
  compilations : List (Compilation σ) := []
  runs : List (Run σ) := []

/-- Whose turn it is: an action begins to be compiled, a compilation goes on, a finished unit begins to run,
or a run goes on. Compilations and runs have the numbers in whose order they began. -/
inductive Turn (σ : Type) where
  | start (config : CompilerConfig) (number : Nat) (a : Action σ)
  | compile (i : Nat) (source : KeySource)
  | invoke (i : Nat) (awaits : Bool) (args : Arguments) (host : Host σ)
  | run (j : Nat)

/-- What a run sees of the registry that is shared. -/
abbrev View (σ : Type) : Type := Registry σ → Run σ → Registry σ

/-- A run sees the registry that is shared. -/
def View.shared : View σ := fun registry _ => registry

/-- A run sees no more than the entries of its own unit. -/
def View.apart : View σ := fun _ run => run.own

namespace Floor

/-- A registry on which nothing works yet. -/
def idle (registry : Registry σ) (state : σ) : Floor σ := { registry, state }

/-- One turn. What is not there, or not finished yet, does nothing. -/
def take (view : View σ) (f : Floor σ) : Turn σ → Floor σ
  | .start config number a =>
    { f with compilations := f.compilations ++ (Compilation.start? config number a).toList }
  | .compile i source =>
    match f.compilations[i]? with
    | none => f
    | some c =>
      let (returned, c, registry) := c.turn f.registry source
      { f with
        registry, returned := f.returned ++ returned, compilations := f.compilations.set i c }
  | .invoke i awaits args host =>
    match f.compilations[i]? with
    | none => f
    | some c =>
      if c.isFinished then
        let unit := c.endpoint.unit
        { f with runs := f.runs ++ [⟨unit, c.own, awaits, args, host, unit.begin awaits⟩] }
      else f
  | .run j =>
    match f.runs[j]? with
    | none => f
    | some r =>
      let (stage, state) :=
        r.unit.advance (view f.registry r) r.awaits r.args r.host (r.stage, f.state)
      { f with state, runs := f.runs.set j { r with stage } }

/-- Turns one after the other. -/
def takeAll (view : View σ) (f : Floor σ) (turns : List (Turn σ)) : Floor σ :=
  turns.foldl (take view) f

end Floor

end HandlerChain
