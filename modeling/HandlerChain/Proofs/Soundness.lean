import HandlerChain.Proofs.Threading
import HandlerChain.Site.Inputs

/-!
# Compiled units do not go wrong

A run of a unit trusts what the passes before it have checked: it looks up keys, slots and the result of
the step before without a second check of their types.  Here the trust is earned.  The invariant of a run
says what it holds before a step (the result that the step before declares, if it declares one, of the
declared type), and every step of a well-formed action keeps it.

## Main Definitions

* `DispatchUnit.Accepts` says which arguments suit a unit, `Host.Supplies` which surroundings do.
* `Host.FailsToShow` are the failures that are left.
* `Action.Supplied` says both of the bindings of an action.
* `Action.Holds` is the invariant of a run.
* `DispatchUnit.Fails` are the reasons for which a run fails.

## Main Results

* `Action.Supplied.exists_arguments`: the bindings of a step have values of their types.
* `Action.Holds.next`: a step leaves the invariant to the next.
* `DispatchUnit.invoke_error`: a run of any unit fails for one of them.
* `Action.Supplied.meaningFrom_error`: what fails in the rest of a run is the rendering.
* `invoke_compiled_error` says so of the units of all actions that compile.
-/

namespace HandlerChain

/-- Each member of a list has its counterpart in a related one. -/
theorem exists_mem_of_forall₂ {α β : Type} {R : α → β → Prop} {xs : List α} {ys : List β}
    (related : List.Forall₂ R xs ys) {x : α} (member : x ∈ xs) : ∃ y ∈ ys, R x y := by
  induction related with
  | nil => cases member
  | cons one _ ih =>
      rcases List.mem_cons.mp member with rfl | later
      · exact ⟨_, List.mem_cons_self, one⟩
      · obtain ⟨y, found, relates⟩ := ih later
        exact ⟨y, List.mem_cons_of_mem _ found, relates⟩

namespace Args

/-- Values of the parameter types are arguments. -/
theorem exists_ofValues {ts : List Ty} {vs : List Dyn} (types : vs.map Dyn.ty = ts) (position : Nat) :
    ∃ xs, ofValues ts position vs = .ok xs := by
  induction vs generalizing ts position with
  | nil =>
      subst types
      exact ⟨(), rfl⟩
  | cons v rest ih =>
      obtain rfl : ts = v.ty :: rest.map Dyn.ty := types.symm
      obtain ⟨xs, more⟩ := ih rfl (position + 1)
      exact ⟨(v.val, xs), by simp [ofValues, more, Except.map]⟩

theorem exists_ofList {ts : List Ty} {vs : List Dyn} (types : vs.map Dyn.ty = ts) :
    ∃ xs, ofList ts vs = .ok xs := by
  have length : vs.length = ts.length := by rw [← types, List.length_map]
  rw [ofList, if_pos length]
  exact exists_ofValues types 1

end Args

namespace DispatchUnit

variable {σ : Type}

/-- Arguments suit a unit if what stands in the slot of a parameter has the type of the parameter, and
something stands there if the parameter has no default. -/
structure Accepts (u : DispatchUnit σ) (args : Arguments) : Prop where
  typed : ∀ p ∈ u.parameters, ∀ v, args.get? p.position = some v → v.ty = p.type.ty
  filled : ∀ p ∈ u.parameters, p.default? = none → (args.get? p.position).isSome

end DispatchUnit

/-- Surroundings suit a unit if, in any state, they supply what the unit reads of them. -/
def Host.Supplies {σ : Type} (host : Host σ) (u : DispatchUnit σ) : Prop :=
  ∀ call ∈ u.body, ∀ kind, .ambient kind ∈ call.args → ∀ s, ∃ v s',
    host.ambient kind s = (some v, s') ∧ v.ty = .ambient kind

/-- A request supplies all of its surroundings. -/
theorem RequestInput.host_supplies {σ : Type} (r : RequestInput) (services : Services)
    (render : RenderRequest → Except ViewError Rendered) (u : DispatchUnit σ) :
    (r.host services render : Host σ).Supplies u := by
  intro call _ kind _ s
  cases kind <;> exact ⟨_, s, rfl, rfl⟩

/-- Surroundings fail in some way, and leave some state, when they are asked to show a result of its
declared type. -/
def Host.FailsToShow {σ : Type} (host : Host σ) (err : DispatchError) (s' : σ) : Prop :=
  ∃ request s, request.model.value.ty = request.model.type.ty ∧ host.render request s = (.error err, s')

namespace Action

variable {σ : Type}

/-- Every binding of an action that is not the result before has a value of its type. -/
structure Supplied (a : Action σ) (args : Arguments) (host : Host σ) : Prop where
  input : ∀ b ∈ a.inputBindings, ∃ v,
    (args.get? (a.slotOf b) <|> (a.firstOf? b).bind Binding.default?) = some v ∧ v.ty = b.type.ty
  ambient : ∀ step ∈ a.steps, ∀ b ∈ step.bindings, ∀ kind, b.source = .ambient kind → ∀ s, ∃ v s',
    host.ambient kind s = (some v, s') ∧ v.ty = .ambient kind

/-! ### The steps that are left -/

section

variable {a : Action σ} {index : Nat} {step : Step σ} {rest : List (Step σ)}

theorem getElem?_of_drop (left : a.steps.drop index = step :: rest) : a.steps[index]? = some step := by
  rw [← List.head?_drop, left, List.head?_cons]

theorem take_succ_of_drop (left : a.steps.drop index = step :: rest) :
    a.steps.take (index + 1) = a.steps.take index ++ [step] := by
  rw [List.take_add_one, getElem?_of_drop left, Option.toList_some]

theorem drop_succ_of_drop (left : a.steps.drop index = step :: rest) :
    a.steps.drop (index + 1) = rest := by
  rw [← List.drop_drop, left, List.drop_one, List.tail_cons]

theorem getLast?_of_drop (left : a.steps.drop index = [step]) : a.steps.getLast? = some step := by
  have split := List.take_append_drop index a.steps
  rw [left] at split
  rw [← split, List.getLast?_concat]

/-- A step that renders ends the chain. -/
theorem WellFormed.eq_nil_of_isRender (wellFormed : a.WellFormed) (left : a.steps.drop index = step :: rest)
    (render : step.kind.isRender = true) : rest = [] := by
  have last := (wellFormed.renders index step (getElem?_of_drop left) render).last
  rw [← drop_succ_of_drop left, last, List.drop_length]

end

/-- What a run holds before a step: the result that the step before declares, of the declared type. -/
structure Holds (a : Action σ) (index : Nat) (previous : Option TypedValue) : Prop where
  declared : previous.map TypedValue.type = a.typeBefore? index
  typed : ∀ p, previous = some p → p.value.ty = p.type.ty

theorem Holds.start (a : Action σ) : a.Holds 0 none := ⟨rfl, fun _ impossible => nomatch impossible⟩

/-- A step with a handler that fits leaves what it declares. -/
theorem Holds.next {a : Action σ} {index : Nat} {step : Step σ} (found : a.steps[index]? = some step)
    {l : Logic σ} (fits : step.FitsLogic l) {v : Dyn} (returned : v.ty = l.returns) :
    a.Holds (index + 1) (step.returnType?.map fun t => ⟨t, v⟩) where
  declared := by
    rw [typeBefore?, found, Option.bind_some]
    cases step.returnType? <;> rfl
  typed := by
    intro p held
    obtain ⟨t, declares, rfl⟩ := Option.map_eq_some_iff.mp held
    exact returned.trans (fits.returns t declares).symm

end Action

namespace DispatchUnit.Realizes

variable {σ : Type} {u : DispatchUnit σ} {a : Action σ} {registry : Registry σ} {args : Arguments}
  {host : Host σ}

/-- Arguments that have for every input a value of its type suit the unit. -/
theorem accepts (realizes : u.Realizes a registry)
    (given : ∀ b ∈ a.inputBindings, (args.get? (a.slotOf b)).map Dyn.ty = some b.type.ty) :
    u.Accepts args := by
  constructor
  · intro p member v filled
    obtain ⟨b, input, made⟩ := realizes.exists_binding member
    obtain ⟨position, type, -⟩ := Parameter.of_ofBinding? made
    have typed := given b input
    rw [← position, filled, Option.map_some, Option.some.injEq] at typed
    rw [typed, type]
  · intro p member _
    obtain ⟨b, input, made⟩ := realizes.exists_binding member
    obtain ⟨position, -⟩ := Parameter.of_ofBinding? made
    rw [position, ← Option.isSome_map, given b input, Option.isSome_some]

/-- **Suitable arguments and surroundings supply every binding.**  An input whose slot is empty has the
default of its first binding, and that default is of the type of the input. -/
theorem supplied (realizes : u.Realizes a registry) (wellFormed : a.WellFormed)
    (accepts : u.Accepts args) (supplies : host.Supplies u) : a.Supplied args host where
  input := by
    intro b member
    obtain ⟨first, found, planned, same⟩ := Action.firstOf?_of_mem member
    obtain ⟨p, stands, made⟩ := realizes.exists_parameter found
    obtain ⟨position, type, default, -⟩ := Parameter.of_ofBinding? made
    have parameter := List.mem_of_getElem? stands
    rw [found, Option.bind_some, ← default, ← position, ← Binding.type_eq_of_identity same, ← type]
    cases filled : args.get? p.position with
    | some v => exact ⟨v, rfl, accepts.typed p parameter v filled⟩
    | none =>
        -- The slot is empty, so there is a default, and validation has compared its type.
        have optional : p.default? ≠ none := fun required => by
          simpa [filled] using accepts.filled p parameter required
        obtain ⟨v, value⟩ := Option.ne_none_iff_exists'.mp optional
        obtain ⟨⟨step, steps, bound⟩, -⟩ :=
          mem_inputBindings.mp (Action.mem_inputBindings_of_mem_plan planned)
        refine ⟨v, by simp [value], ?_⟩
        rw [wellFormed.defaults step steps first bound v (default.symm.trans value), type]
  ambient := by
    intro step member b bound kind source s
    obtain ⟨call, called, realized⟩ := exists_mem_of_forall₂ realizes.body member
    cases realized with
    | render render =>
        obtain ⟨i, found⟩ := List.mem_iff_getElem?.mp member
        simp [(wellFormed.renders i step found render).unbound] at bound
    | handler _ _ _ reads =>
        obtain ⟨source', listed, read⟩ := exists_mem_of_forall₂ reads bound
        have ambient : source' = .ambient kind := by
          cases read with
          | previous other => cases source.symm.trans other
          | ambient same => cases source.symm.trans same; rfl
          | slot level => simp [Binding.isMethodLevel, Binding.kind, source, Source.kind] at level
        exact supplies _ called kind (ambient ▸ listed) s

end DispatchUnit.Realizes

namespace Action.Supplied

variable {σ : Type} {a : Action σ} {args : Arguments} {host : Host σ} {index : Nat} {step : Step σ}
  {previous : Option TypedValue}

/-- A binding of the step before which the invariant holds has a value of its type. -/
theorem exists_argument (supplied : a.Supplied args host) (wellFormed : a.WellFormed)
    (found : a.steps[index]? = some step) (holds : a.Holds index previous) {b : Binding σ}
    (bound : b ∈ step.bindings) (s : σ) :
    ∃ v s', a.argument args host index previous b s = (.ok v, s') ∧ v.ty = b.type.ty := by
  have member := List.mem_of_getElem? found
  rcases b.source_cases with source | ⟨kind, source⟩ | level
  -- The step before left a result of the type that it declares, and this binding asks for the same.
  · obtain ⟨-, t, before, type⟩ := wellFormed.previous index step found b bound source
    obtain ⟨p, rfl, declared⟩ := Option.map_eq_some_iff.mp (holds.declared.trans before)
    refine ⟨p.value, s, by simp only [argument, source], ?_⟩
    rw [holds.typed p rfl, declared, type]
  · obtain ⟨v, s', given, type⟩ := supplied.ambient step member b bound kind source s
    exact ⟨v, s', by simp only [argument, source, given], type.trans (b.type_eq_of_ambient source).symm⟩
  · obtain ⟨v, given, type⟩ := supplied.input b (mem_inputBindings.mpr ⟨⟨step, member, bound⟩, level⟩)
    exact ⟨v, s, by rw [argument_of_isMethodLevel level, given, Option.elim_some], type⟩

/-- **The bindings of a step have values of their types.** -/
theorem exists_arguments (supplied : a.Supplied args host) (wellFormed : a.WellFormed)
    (found : a.steps[index]? = some step) (holds : a.Holds index previous) {bs : List (Binding σ)}
    (bound : ∀ b ∈ bs, b ∈ step.bindings) (s : σ) :
    ∃ vs s', a.arguments args host index previous bs s = (.ok vs, s') ∧
      vs.map Dyn.ty = bs.map fun b => b.type.ty := by
  induction bs generalizing s with
  | nil => exact ⟨[], s, rfl, rfl⟩
  | cons b rest ih =>
      obtain ⟨v, s', given, type⟩ :=
        supplied.exists_argument wellFormed found holds (bound b List.mem_cons_self) s
      obtain ⟨vs, s'', more, types⟩ := ih (fun c member => bound c (List.mem_cons_of_mem b member)) s'
      exact ⟨v :: vs, s'', by simp only [arguments, given, more, Except.map],
        by rw [List.map_cons, List.map_cons, type, types]⟩

/-- A handler that fits its step runs, and returns what it says. -/
theorem exists_handle (supplied : a.Supplied args host) (wellFormed : a.WellFormed)
    (found : a.steps[index]? = some step) (holds : a.Holds index previous) {l : Logic σ}
    (fits : step.FitsLogic l) (s : σ) :
    ∃ v s', a.handle args host index previous step.bindings l s = (.ok v, s') ∧ v.ty = l.returns := by
  obtain ⟨vs, s', given, types⟩ :=
    supplied.exists_arguments wellFormed found holds (fun b bound => bound) s
  obtain ⟨xs, accepted⟩ := Args.exists_ofList (types.trans fits.types)
  exact ⟨(l.complete xs s').1, (l.complete xs s').2, by simp only [handle, given, accepted], rfl⟩

end Action.Supplied

namespace Action

variable {σ : Type} {a : Action σ} {args : Arguments} {host : Host σ}

theorem render_of_present_error {t : ViewTarget} {model : TypedValue} {s s' : σ} {err : DispatchError}
    (failed : present host t model s = (.error err, s')) :
    host.render ⟨t.kind, t.target, model⟩ s = (.error err, s') := by
  unfold present at failed
  rcases shown : host.render ⟨t.kind, t.target, model⟩ s with ⟨_ | page, s''⟩
  · simpa [shown] using failed
  · simp [shown] at failed

end Action

namespace DispatchUnit

variable {σ : Type} {u : DispatchUnit σ} {registry : Registry σ} {args : Arguments} {host : Host σ}
  {s s' : σ} {err : DispatchError}

/-- The reasons for which a run fails: something is missing that it needs, a handler does not take its
arguments, or the surroundings cannot show the result. -/
inductive Fails (u : DispatchUnit σ) (args : Arguments) (host : Host σ) (s' : σ) : DispatchError → Prop where
  | noResult (index : Nat) : Fails u args host s' (.noPreviousResult index)
  | noHandler (key : String) : Fails u args host s' (.unknownHandler key)
  | noAmbient (kind : AmbientKind) : Fails u args host s' (.missingAmbient kind)
  | noArgument (slot : Nat) (empty : args.get? slot = none) (required : u.defaultFor slot = none) :
      Fails u args host s' (.missingArgument slot)
  | handler (index : Nat) (cause : CallError) : Fails u args host s' (.invoke index cause)
  | render {err : DispatchError} (request : RenderRequest) (s : σ)
      (shown : host.render request s = (.error err, s')) : Fails u args host s' err

theorem resolveArg_error {index : Nat} {previous : Option TypedValue} {source : ArgumentSource}
    (failed : u.resolveArg index args host previous source s = (.error err, s')) :
    u.Fails args host s' err := by
  cases source with
  | slot position =>
      cases given : args.get? position <|> u.defaultFor position with
      | some v => simp [resolveArg, given] at failed
      | none =>
          simp only [resolveArg, given, Prod.mk.injEq, Except.error.injEq] at failed
          rw [Option.orElse_eq_orElse, Option.orElse_eq_or, Option.or_eq_none_iff] at given
          rw [← failed.1]
          exact .noArgument position given.1 given.2
  | ambient kind =>
      rcases supplied : host.ambient kind s with ⟨_ | v, s''⟩
      · simp only [resolveArg, supplied, Prod.mk.injEq, Except.error.injEq] at failed
        rw [← failed.1]
        exact .noAmbient kind
      · simp [resolveArg, supplied] at failed
  | previous =>
      cases previous with
      | some p => simp [resolveArg] at failed
      | none =>
          simp only [resolveArg, Prod.mk.injEq, Except.error.injEq] at failed
          rw [← failed.1]
          exact .noResult index

theorem resolveArgs_error {index : Nat} {previous : Option TypedValue} {sources : List ArgumentSource}
    (failed : u.resolveArgs index args host previous sources s = (.error err, s')) :
    u.Fails args host s' err := by
  induction sources generalizing s with
  | nil => cases failed
  | cons source rest ih =>
      rcases given : u.resolveArg index args host previous source s with ⟨e | v, s''⟩
      · simp only [resolveArgs, given, Prod.mk.injEq, Except.error.injEq] at failed
        obtain ⟨rfl, rfl⟩ := failed
        exact resolveArg_error given
      · rcases more : u.resolveArgs index args host previous rest s'' with ⟨e | vs, s₁⟩
        · simp only [resolveArgs, given, more, Except.map, Prod.mk.injEq, Except.error.injEq] at failed
          obtain ⟨rfl, rfl⟩ := failed
          exact ih more
        · simp [resolveArgs, given, more, Except.map] at failed

theorem eq_unknownHandler_of_logic {call : StepCall} (failed : logic registry call = .error err) :
    ∃ key, err = .unknownHandler key := by
  unfold logic at failed
  split at failed
  · exact ⟨_, (Except.error.inj failed).symm⟩
  · split at failed
    · cases failed
    · exact ⟨_, (Except.error.inj failed).symm⟩

/-- A step that is awaited fails for want of its handler or of an argument, or since the handler does not take
the arguments. -/
theorem runStep_error {index : Nat} {call : StepCall} {previous : Option TypedValue}
    (failed : u.runStep registry true index call args host previous s = (.error err, s')) :
    u.Fails args host s' err := by
  unfold runStep at failed
  cases found : logic registry call with
  | error e =>
      simp only [found, Prod.mk.injEq, Except.error.injEq] at failed
      obtain ⟨key, rfl⟩ := eq_unknownHandler_of_logic (failed.1 ▸ found)
      exact .noHandler key
  | ok l =>
      rcases given : u.resolveArgs index args host previous call.args s with ⟨e | vs, s''⟩
      · simp only [found, given, Prod.mk.injEq, Except.error.injEq] at failed
        obtain ⟨rfl, rfl⟩ := failed
        exact resolveArgs_error given
      · cases accepted : Args.ofList l.params vs with
        | error cause =>
            simp only [found, given, Logic.call, accepted, Prod.mk.injEq, Except.error.injEq] at failed
            rw [← failed.1]
            exact .handler index cause
        | ok xs =>
            cases suspends : l.suspends <;> simp [found, given, Logic.call, accepted, suspends] at failed

theorem render_of_renderOutcome_error {t : ViewTarget} {model : TypedValue}
    (failed : renderOutcome host t model s = (.error err, s')) :
    host.render ⟨t.kind, t.target, model⟩ s = (.error err, s') :=
  Action.render_of_present_error ((renderOutcome_eq_present host t model s).symm.trans failed)

theorem runFrom_error {calls : List StepCall} {index : Nat} {previous : Option TypedValue}
    (failed : u.runFrom registry true args host index previous calls s = (.error err, s')) :
    u.Fails args host s' err := by
  induction calls generalizing index previous s with
  | nil =>
      cases previous with
      | none =>
          simp only [runFrom, Prod.mk.injEq, Except.error.injEq] at failed
          exact failed.1 ▸ .noResult index
      | some result =>
          cases view : u.finalRender? with
          | none => simp [runFrom, view] at failed
          | some t =>
              simp only [runFrom, view] at failed
              exact .render _ s (render_of_renderOutcome_error failed)
  | cons call rest ih =>
      cases target : call.render? with
      | some t =>
          cases previous with
          | none =>
              simp only [runFrom, target, Prod.mk.injEq, Except.error.injEq] at failed
              exact failed.1 ▸ .noResult index
          | some model =>
              simp only [runFrom, target] at failed
              exact .render _ s (render_of_renderOutcome_error failed)
      | none =>
          rcases ran : u.runStep registry true index call args host previous s with ⟨e | v, s''⟩
          · simp only [runFrom, target, ran, Prod.mk.injEq, Except.error.injEq] at failed
            obtain ⟨rfl, rfl⟩ := failed
            exact runStep_error ran
          · simp only [runFrom, target, ran] at failed
            exact ih failed

/-- **By either strategy, a run that waits fails for one of these reasons.** -/
theorem invoke_error (failed : u.invoke registry args host s = (.error err, s')) :
    u.Fails args host s' err := by
  unfold invoke run at failed
  cases strategy : u.strategy with
  | sequenced =>
      simp only [strategy] at failed
      exact runFrom_error failed
  | direct =>
      simp only [strategy, runDirect] at failed
      cases body : u.body with
      | nil =>
          simp only [body, Prod.mk.injEq, Except.error.injEq] at failed
          exact failed.1 ▸ .noResult 0
      | cons call rest =>
          rcases ran : u.runStep registry true 0 call args host none s with ⟨e | v, s''⟩
          · simp only [body, ran, Prod.mk.injEq, Except.error.injEq] at failed
            obtain ⟨rfl, rfl⟩ := failed
            exact runStep_error ran
          · simp [body, ran] at failed

end DispatchUnit

namespace Action

variable {σ : Type} {a : Action σ} {args : Arguments} {host : Host σ}

/-- **What fails in the rest of a run is the rendering.**  The induction is on the steps that are left;
at the end of the chain there is a result, since the last step declares one unless it renders. -/
theorem Supplied.meaningFrom_error (supplied : a.Supplied args host) (wellFormed : a.WellFormed)
    {steps : List (Step σ)} {index : Nat} {previous : Option TypedValue} {s s' : σ}
    {err : DispatchError} (left : a.steps.drop index = steps) (holds : a.Holds index previous)
    (ends : steps = [] → previous.isSome)
    (failed : a.meaningFrom args host index previous steps s = (.error err, s')) :
    host.FailsToShow err s' := by
  induction steps generalizing index previous s with
  | nil =>
      obtain ⟨result, rfl⟩ := Option.isSome_iff_exists.mp (ends rfl)
      rw [meaningFrom, finish] at failed
      cases view : a.view? with
      | none => simp [view] at failed
      | some t =>
          simp only [view] at failed
          exact ⟨_, s, holds.typed result rfl, render_of_present_error failed⟩
  | cons step rest ih =>
      have found := getElem?_of_drop left
      have member := List.mem_of_getElem? found
      cases render : step.kind.isRender with
      | true =>
          obtain ⟨t, target⟩ := Option.isSome_iff_exists.mp (wellFormed.targets step member render)
          have before := (wellFormed.renders index step found render).model
          rw [← holds.declared, Option.isSome_map] at before
          obtain ⟨model, rfl⟩ := Option.isSome_iff_exists.mp before
          simp only [meaningFrom, target] at failed
          exact ⟨_, s, holds.typed model rfl, render_of_present_error failed⟩
      | false =>
          obtain ⟨l, logic⟩ := Option.isSome_iff_exists.mp (wellFormed.handled step member render)
          have fits := wellFormed.fits step member render l logic
          obtain ⟨v, s'', handled, returned⟩ := supplied.exists_handle wellFormed found holds fits s
          simp only [meaningFrom, Step.renderTarget?_of_not_isRender render, logic, handled] at failed
          refine ih (drop_succ_of_drop left) (.next found fits returned) ?_ failed
          -- Without further steps this was the last one, and the last one returns something.
          rintro rfl
          have kind :=
            Step.needsValue_of_not_isRender render (wellFormed.yields step (getLast?_of_drop left))
          rw [Option.isSome_map]
          exact wellFormed.declared step member kind

end Action

variable {σ : Type}

/-- A unit that realizes a well-formed action fails only by rendering, if it gets what it needs. -/
theorem DispatchUnit.Realizes.invoke_error {u : DispatchUnit σ} {a : Action σ} {registry : Registry σ}
    (realizes : u.Realizes a registry) (wellFormed : a.WellFormed) {args : Arguments} {host : Host σ}
    (accepts : u.Accepts args) (supplies : host.Supplies u) {s s' : σ} {err : DispatchError}
    (failed : u.invoke registry args host s = (.error err, s')) : host.FailsToShow err s' := by
  rw [realizes.invoke_eq_meaning wellFormed.toValid] at failed
  have supplied := realizes.supplied wellFormed accepts supplies
  exact supplied.meaningFrom_error wellFormed List.drop_zero (.start a)
    (fun empty => absurd empty wellFormed.nonempty) failed

/-- **Compiled units do not go wrong.**  On arguments of the declared types that fill every slot without
a default, and in surroundings that supply what is read of them, no handler is unknown, no argument, no
part of the surroundings and no result is missing, and every handler is called with what it takes.  What
is left to fail is that a result of its declared type cannot be shown, and then the error is the one that
the surroundings give. -/
theorem invoke_compiled_error {config : CompilerConfig} {w w' : Workshop σ} {a : Action σ}
    {e : Endpoint σ} {events : List Event} {registry : Registry σ}
    (compiled : compile config w a = (.ok e, w', events)) (grown : w'.registry.Grows registry)
    {args : Arguments} {host : Host σ} (accepts : e.unit.Accepts args) (supplies : host.Supplies e.unit)
    {s s' : σ} {err : DispatchError}
    (failed : e.unit.invoke registry args host s = (.error err, s')) :
    host.FailsToShow err s' := by
  obtain ⟨wellFormed, -, realizes, -⟩ := compile_realizes compiled
  exact (realizes.grows grown).invoke_error wellFormed accepts supplies failed

/-- Without its view, the page of a note is not shown, and this is all that fails. -/
theorem renderNote_invoke_error :
    let args : Arguments :=
      .ofValues [⟨.service Notes.storeName, (0 : Nat)⟩, ⟨.int .u64, IntKind.wrap .u64 7⟩]
    let host : Host NoteStore := RequestInput.host ⟨default, []⟩ Notes.services Views.none.render
    ∃ (e : Endpoint NoteStore) (w' : Workshop NoteStore) (events : List Event),
      compile {} .empty Notes.renderNote = (.ok e, w', events) ∧ w'.registry.Grows w'.registry ∧
        e.unit.Accepts args ∧ host.Supplies e.unit ∧
        e.unit.invoke w'.registry args host .empty = (.error (.view (.notFound "note")), .empty) ∧
        host.FailsToShow (.view (.notFound "note")) .empty := by
  intro args host
  have formed := Notes.wellFormed_of_mem (a := Notes.renderNote) (by simp [Notes.actions])
  obtain ⟨e, w', events, compiled⟩ := exists_compile_of_wellFormed {} .empty formed
  obtain ⟨-, -, realizes, -⟩ := compile_realizes compiled
  have accepts : e.unit.Accepts args := realizes.accepts (by decide +kernel)
  have supplies : host.Supplies e.unit := RequestInput.host_supplies _ _ _ _
  have failed : e.unit.invoke w'.registry args host .empty =
      (.error (.view (.notFound "note")), .empty) := by
    rw [realizes.invoke_eq_meaning formed.toValid]
    rfl
  exact ⟨e, w', events, compiled, .refl, accepts, supplies, failed,
    invoke_compiled_error compiled .refl accepts supplies failed⟩

end HandlerChain
