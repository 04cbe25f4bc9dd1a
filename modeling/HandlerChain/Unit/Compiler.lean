import HandlerChain.Action.Validation
import HandlerChain.Route.Template
import HandlerChain.Unit.Synthesis

/-!
# Compilation of actions

An action is validated, its route parameters are looked for in its route, and its unit is synthesized.

## Main Definitions

* `CompileError` says why an action does not compile.
* `compile` compiles one action, `compileAll` a list of them.
-/

namespace HandlerChain

/-- Why an action does not compile. -/
inductive CompileError where
  | validation (endpoint : String) (errors : List Violation)
  | routeMismatch (endpoint parameter template : String)
  | synthesis (endpoint : String) (cause : SynthesisFailure)
  deriving DecidableEq, Repr

namespace CompileError

/-- The action that does not compile. -/
def endpoint : CompileError → String
  | validation e _ | routeMismatch e _ _ | synthesis e _ => e

/-- The wording of a route parameter that is missing. -/
def mismatchMessage (endpoint parameter template : String) : String :=
  "action " ++ endpoint ++ " binds route parameter '" ++ parameter ++ "' which is not present in '"
    ++ template ++ "'"

/-- The wording of a failed synthesis. -/
def synthesisMessage (endpoint : String) : String := "failed to synthesize action " ++ endpoint

/-- The wording of an error. -/
def message : CompileError → String
  | validation e errors => Action.invalidMessage e (errors.map Violation.message)
  | routeMismatch e p t => mismatchMessage e p t
  | synthesis e _ => synthesisMessage e

/-- The wording of the error behind an error. -/
def cause? : CompileError → Option String
  | synthesis _ cause => some cause.message
  | _ => none

end CompileError

section

variable {σ : Type}

/-- The first route binding whose name is no parameter of the route. -/
def Action.strayRouteParameter? (a : Action σ) : Option String :=
  (a.allBindings.map Prod.snd).findSome? fun b =>
    match b.source with
    | .route name => if Route.hasParameter a.route name then none else some name
    | _ => none

/-- Compiles an action; the events are in order. -/
def compile (config : CompilerConfig) (w : Workshop σ) (a : Action σ) :
    Except CompileError (Endpoint σ) × Workshop σ × List Event :=
  let start := Event.compiling a.steps.length
  match a.violations with
  | v :: vs =>
    (.error (.validation a.display (v :: vs)), w, [start, .invalid ((v :: vs).map Violation.message)])
  | [] =>
    match a.strayRouteParameter? with
    | some p => (.error (.routeMismatch a.display p a.route), w, [start, .routeMismatch p])
    | none =>
      match synthesize config w a a.plan with
      | (.error e, w, events) =>
        (.error (.synthesis a.display e), w, start :: events ++ [.synthesisFailed e.message])
      | (.ok endpoint, w, events) => (.ok endpoint, w, start :: events)

/-- What became of a list of actions. -/
structure BatchReport (σ : Type) where
  compiled : List (Endpoint σ)
  failures : List CompileError

/-- Whether every action compiled. -/
def BatchReport.isSuccess (r : BatchReport σ) : Bool := r.failures.isEmpty

/-- Compiles actions in order; with `failFast` the first failure is the last action compiled. The
events carry the name of their action. -/
def compileAll (config : CompilerConfig) (w : Workshop σ) : List (Action σ) →
    BatchReport σ × Workshop σ × List (String × Event)
  | [] => (⟨[], []⟩, w, [])
  | a :: rest =>
    match compile config w a with
    | (.ok endpoint, w, events) =>
      let (report, w, more) := compileAll config w rest
      ({ report with compiled := endpoint :: report.compiled }, w,
        events.map (fun e => (a.display, e)) ++ more)
    | (.error e, w, events) =>
      let events := events.map fun e => (a.display, e)
      if config.failFast then (⟨[], [e]⟩, w, events)
      else
        let (report, w, more) := compileAll config w rest
        ({ report with failures := e :: report.failures }, w, events ++ more)

end

end HandlerChain
