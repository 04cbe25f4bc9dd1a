import HandlerChain.Proofs.Registration

/-!
# Compilations of one action

What compiling an action gives depends on the workshop by what is drawn there: the number in the name of the
unit, and the keys of its handlers.  Whether it gives anything does not depend on the workshop at all.  Two
units that differ in what was drawn for them run alike, each on its own registry, because a run looks only at
what stands under a key.

## Main Definitions

* `Action.refusal?` is why an action does not compile, said without a workshop.
* `StepCall.unkeyed` is a call without the key that was drawn for it.
* `Endpoint.Twin` relates endpoints that differ only in what was drawn for them.
* `DispatchUnit.RunsAs` relates units that have the same handlers under their keys.

## Main Results

* `compile_eq_error_iff`: an action is refused in every workshop or in none.
* `DispatchUnit.RunsAs.invoke_eq`: units with the same handlers run alike, in either way.
* `twin_of_compile` and `runsAs_of_compile` say so of two compilations of one action.
-/

namespace HandlerChain

/-! ### Refusals -/

section

variable {σ : Type} {config : CompilerConfig} {w w' : Workshop σ} {a : Action σ} {events : List Event}

/-- Why an action does not compile, if it does not. -/
def Action.refusal? (a : Action σ) : Option CompileError :=
  match a.violations with
  | v :: vs => some (.validation a.display (v :: vs))
  | [] =>
    match a.strayRouteParameter? with
    | some parameter => some (.routeMismatch a.display parameter a.route)
    | none =>
      match prepareAction a a.plan with
      | .error cause => some (.synthesis a.display cause)
      | .ok _ => none

/-- **Whether an action compiles depends on the action alone**, and so does the error if it does not. -/
theorem compile_eq_error_iff {cause : CompileError} :
    (compile config w a).1 = .error cause ↔ a.refusal? = some cause := by
  unfold compile Action.refusal?
  cases a.violations with
  | cons v vs => simp
  | nil =>
      cases a.strayRouteParameter? with
      | some parameter => simp
      | none =>
          cases prepared : prepareAction a a.plan with
          | error e => simp [synthesize, prepared]
          | ok r => simp [synthesize, prepared]

theorem refusal?_of_compile {e : Endpoint σ} (compiled : compile config w a = (.ok e, w', events)) :
    a.refusal? = none := by
  cases refused : a.refusal? with
  | none => rfl
  | some cause =>
      have failed : (compile config w a).1 = .error cause := compile_eq_error_iff.mpr refused
      simp [compiled] at failed

end

/-! ### Calls and units -/

/-- A call without the key that was drawn for it; that it has one is still to be seen. -/
def StepCall.unkeyed (call : StepCall) : StepCall :=
  { call with key? := call.key?.map fun _ => default }

/-- Calls that are the same but for their keys, under which two registries have the same handler. -/
structure StepCall.RunsAs {σ : Type} (registry registry' : Registry σ) (call call' : StepCall) : Prop where
  unkeyed : call.unkeyed = call'.unkeyed
  handler : DispatchUnit.logic registry call = DispatchUnit.logic registry' call'

namespace StepCall.RunsAs

variable {σ : Type} {registry registry' : Registry σ} {call call' : StepCall}

theorem args_eq (alike : call.RunsAs registry registry' call') : call.args = call'.args :=
  (congrArg StepCall.args alike.unkeyed :)

theorem returns?_eq (alike : call.RunsAs registry registry' call') : call.returns? = call'.returns? :=
  (congrArg StepCall.returns? alike.unkeyed :)

theorem render?_eq (alike : call.RunsAs registry registry' call') : call.render? = call'.render? :=
  (congrArg StepCall.render? alike.unkeyed :)

end StepCall.RunsAs

namespace DispatchUnit

variable {σ : Type} {u u' : DispatchUnit σ} {registry registry' : Registry σ}

/-- Units whose parameters, ways and ends are the same, and whose calls differ in keys for the same
handlers. -/
structure RunsAs (u u' : DispatchUnit σ) (registry registry' : Registry σ) : Prop where
  parameters : u.parameters = u'.parameters
  returns : u.returns = u'.returns
  strategy : u.strategy = u'.strategy
  finalRender : u.finalRender? = u'.finalRender?
  body : List.Forall₂ (StepCall.RunsAs registry registry') u.body u'.body

namespace RunsAs

variable {awaits : Bool} {args : Arguments} {host : Host σ}

theorem resolveArg_eq (alike : u.RunsAs u' registry registry') (index : Nat)
    (previous : Option TypedValue) (source : ArgumentSource) (s : σ) :
    u.resolveArg index args host previous source s = u'.resolveArg index args host previous source s := by
  have default (position : Nat) : u.defaultFor position = u'.defaultFor position := by
    cases position with
    | zero => rfl
    | succ i => rw [defaultFor, defaultFor, alike.parameters]
  cases source with
  | slot position => rw [resolveArg, resolveArg, default]
  | ambient kind => rfl
  | previous => rfl

theorem resolveArgs_eq (alike : u.RunsAs u' registry registry') (index : Nat)
    (previous : Option TypedValue) (sources : List ArgumentSource) (s : σ) :
    u.resolveArgs index args host previous sources s =
      u'.resolveArgs index args host previous sources s := by
  induction sources generalizing s with
  | nil => rfl
  | cons source rest ih => simp only [resolveArgs, alike.resolveArg_eq, ih]

theorem runStep_eq (alike : u.RunsAs u' registry registry') {call call' : StepCall}
    (same : call.RunsAs registry registry' call') (index : Nat) (previous : Option TypedValue) (s : σ) :
    u.runStep registry awaits index call args host previous s =
      u'.runStep registry' awaits index call' args host previous s := by
  rw [runStep, runStep, same.handler]
  simp only [same.args_eq, alike.resolveArgs_eq]

/-- **A sequence of calls runs like one with the same handlers**, from any step on. -/
theorem runFrom_eq (alike : u.RunsAs u' registry registry') {calls calls' : List StepCall}
    (same : List.Forall₂ (StepCall.RunsAs registry registry') calls calls') (index : Nat)
    (previous : Option TypedValue) (s : σ) :
    u.runFrom registry awaits args host index previous calls s =
      u'.runFrom registry' awaits args host index previous calls' s := by
  induction same generalizing index previous s with
  | nil => simp only [runFrom, alike.finalRender]
  | cons one _ ih => simp only [runFrom, one.render?_eq, one.returns?_eq, alike.runStep_eq one, ih]

theorem run_eq (alike : u.RunsAs u' registry registry') (s : σ) :
    u.run registry awaits args host s = u'.run registry' awaits args host s := by
  have body := alike.body
  have first : u.runDirect registry awaits args host s = u'.runDirect registry' awaits args host s := by
    rw [runDirect, runDirect]
    generalize u.body = calls at body
    generalize u'.body = calls' at body
    cases body with
    | nil => rfl
    | cons one _ => simp only [alike.runStep_eq one, one.returns?_eq]
  rw [run, run, alike.strategy, first, alike.runFrom_eq body]

/-- **Units with the same handlers run alike**, awaited or not. -/
theorem invoke_eq (alike : u.RunsAs u' registry registry') (args : Arguments) (host : Host σ) (s : σ) :
    u.invoke registry args host s = u'.invoke registry' args host s ∧
      u.invokeImmediate registry args host s = u'.invokeImmediate registry' args host s := by
  refine ⟨alike.run_eq s, ?_⟩
  rw [invokeImmediate, invokeImmediate, suspends, suspends, alike.returns, alike.run_eq s]

end RunsAs

end DispatchUnit

/-! ### Endpoints -/

/-- A name that is generated for a unit. -/
def CompilerConfig.Names (config : CompilerConfig) (name : String) : Prop :=
  ∃ number, name = config.unitName ++ "_" ++ hex32 number

/-- Endpoints that are the same but for what was drawn for them: the generated names of their units, and
the keys in their calls. -/
structure Endpoint.Twin {σ : Type} (config : CompilerConfig) (e e' : Endpoint σ) : Prop where
  equal : e' = { e with unit := { e.unit with typeName := e'.unit.typeName, body := e'.unit.body } }
  calls : e.unit.body.map StepCall.unkeyed = e'.unit.body.map StepCall.unkeyed
  named : config.Names e.unit.typeName
  named' : config.Names e'.unit.typeName

/-- Two registrations of the same calls differ in the keys alone. -/
theorem Workshop.map_unkeyed_register {σ : Type} (w w₀ : Workshop σ) (i : Nat)
    (calls : List (StepCall × Option (Logic σ))) :
    (w.register i calls).1.map StepCall.unkeyed = (w₀.register i calls).1.map StepCall.unkeyed := by
  induction calls generalizing w w₀ i with
  | nil => rfl
  | cons call rest ih =>
      obtain ⟨call, _ | l⟩ := call
      · exact congrArg (call.unkeyed :: ·) (ih w w₀ (i + 1))
      · exact congrArg (_ :: ·) (ih _ _ (i + 1))

/-- Calls that came from the same ones have the same handlers under their keys. -/
theorem StepCall.runsAs_of_registered {σ : Type} {registry registry' : Registry σ}
    {prepared : StepCall × Option (Logic σ)} {call call' : StepCall}
    (registered : Registered registry prepared call)
    (registered' : Registered registry' prepared call') (blank : prepared.1.key? = none) :
    call.RunsAs registry registry' call' := by
  cases registered with
  | plain call =>
      have blank : call.key? = none := blank
      cases registered'
      exact ⟨rfl, by simp only [DispatchUnit.logic, blank]⟩
  | keyed call found =>
      cases registered' with
      | keyed _ found' => exact ⟨rfl, by simp only [DispatchUnit.logic, found, found']⟩

theorem StepCall.Registered.grows {σ : Type} {registry registry' : Registry σ}
    {prepared : StepCall × Option (Logic σ)} {call : StepCall}
    (registered : Registered registry prepared call) (grown : registry.Grows registry') :
    Registered registry' prepared call := by
  cases registered with
  | plain => exact .plain _
  | keyed call found => exact .keyed call (grown.get? found)

theorem StepCall.forall₂_runsAs {σ : Type} {registry registry' : Registry σ}
    {prepared : List (StepCall × Option (Logic σ))} {calls calls' : List StepCall}
    (registered : List.Forall₂ (Registered registry) prepared calls)
    (registered' : List.Forall₂ (Registered registry') prepared calls')
    (blank : ∀ call ∈ prepared, call.1.key? = none) :
    List.Forall₂ (StepCall.RunsAs registry registry') calls calls' := by
  induction registered generalizing calls' with
  | nil =>
      cases registered'
      exact .nil
  | cons one _ ih =>
      cases registered' with
      | cons one' rest' =>
          obtain ⟨here, later⟩ := List.forall_mem_cons.mp blank
          exact .cons (runsAs_of_registered one one' here) (ih rest' later)

section

variable {σ : Type} {config : CompilerConfig} {w w' w₀ w₀' : Workshop σ} {a : Action σ}
  {e e₀ : Endpoint σ} {events events₀ : List Event} {registry registry₀ : Registry σ}

/-- The suspensions, and what else decides how a unit runs, are not drawn. -/
theorem returnShapeOf_eq {body body' : List StepCall}
    (same : body.map StepCall.unkeyed = body'.map StepCall.unkeyed) :
    returnShapeOf body = returnShapeOf body' := by
  have any (calls : List StepCall) :
      calls.any StepCall.suspends = (calls.map StepCall.unkeyed).any StepCall.suspends := by
    rw [List.any_map]
    rfl
  rw [returnShapeOf, returnShapeOf, any, any body', same]

theorem strategyOf_eq (hasView : Bool) {body body' : List StepCall}
    (same : body.map StepCall.unkeyed = body'.map StepCall.unkeyed) :
    strategyOf hasView body = strategyOf hasView body' := by
  have unkeyed (calls : List StepCall) :
      strategyOf hasView calls = strategyOf hasView (calls.map StepCall.unkeyed) := by
    rcases calls with _ | ⟨only, _ | ⟨second, rest⟩⟩ <;> rfl
  rw [unkeyed, unkeyed body', same]

/-- **Compilations of one action give twins**, whatever their workshops hold. -/
theorem twin_of_compile (compiled : compile config w a = (.ok e, w', events))
    (compiled₀ : compile config w₀ a = (.ok e₀, w₀', events₀)) : e.Twin config e₀ := by
  obtain ⟨parameters, calls, prepared, rfl, -⟩ := prepared_of_compile compiled
  obtain ⟨parameters₀, calls₀, prepared₀, rfl, -⟩ := prepared_of_compile compiled₀
  obtain ⟨rfl, rfl⟩ := Prod.mk.inj (Except.ok.inj (prepared.symm.trans prepared₀))
  have same := w.map_unkeyed_register w₀ 0 calls
  refine ⟨?_, same, ⟨_, rfl⟩, ⟨_, rfl⟩⟩
  simp only [Action.endpoint, returnShapeOf_eq same, strategyOf_eq _ same]

/-- **Compilations of one action run alike**, each where its handlers are. -/
theorem runsAs_of_compile (compiled : compile config w a = (.ok e, w', events))
    (compiled₀ : compile config w₀ a = (.ok e₀, w₀', events₀)) (grown : w'.registry.Grows registry)
    (grown₀ : w₀'.registry.Grows registry₀) : e.unit.RunsAs e₀.unit registry registry₀ := by
  obtain ⟨parameters, calls, prepared, rfl, rfl⟩ := prepared_of_compile compiled
  obtain ⟨parameters₀, calls₀, prepared₀, rfl, rfl⟩ := prepared_of_compile compiled₀
  obtain ⟨rfl, rfl⟩ := Prod.mk.inj (Except.ok.inj (prepared.symm.trans prepared₀))
  have same := w.map_unkeyed_register w₀ 0 calls
  have registered := (w.register_forall₂ 0 calls).imp fun _ _ call => call.grows grown
  have registered₀ := (w₀.register_forall₂ 0 calls).imp fun _ _ call => call.grows grown₀
  exact
    { parameters := rfl
      returns := returnShapeOf_eq same
      strategy := strategyOf_eq _ same
      finalRender := rfl
      body := StepCall.forall₂_runsAs registered registered₀
        (prepareSteps_key? (prepareAction_eq_ok_iff.mp prepared).2) }

end

end HandlerChain
