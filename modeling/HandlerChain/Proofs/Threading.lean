import HandlerChain.Proofs.Compilation

/-!
# Units do what their actions mean

A unit works with slots, keys and one of two strategies; the meaning of an action knows none of them.
Each part of a run of the unit is the same part of the meaning: a source gives what its binding gives, a
call does what its step does, and so on to the end of the chain.

## Main Results

* `ArgumentSource.Reads.resolveArg_eq`: a source gives what its binding stands for.
* `DispatchUnit.Realizes.runFrom_eq`: a sequence of calls does what its steps mean.
* `DispatchUnit.Realizes.invoke_eq_meaning`: by either strategy, a unit does what its action means.
* `invoke_compiled_eq_meaning` says so of every action that compiles, also when more handlers have been
  registered since.
-/

namespace HandlerChain

namespace Step

variable {σ : Type} {step : Step σ}

theorem renderTarget?_of_not_isRender (render : step.kind.isRender = false) :
    step.renderTarget? = none := by
  cases kind : step.kind <;> simp_all [renderTarget?, StepKind.isRender, StepKind.renderKind?]

theorem needsValue_of_not_isRender (render : step.kind.isRender = false)
    (effect : step.kind ≠ .sideEffect) : step.kind.needsValue = true := by
  cases kind : step.kind <;> simp_all [StepKind.isRender, StepKind.renderKind?, StepKind.needsValue]

end Step

namespace Action

variable {σ : Type} {a : Action σ} {args : Arguments} {host : Host σ} {index : Nat}
  {previous : Option TypedValue} {b : Binding σ} {s : σ}

/-- The value of an input. -/
theorem argument_of_isMethodLevel (level : b.isMethodLevel = true) :
    a.argument args host index previous b s =
      ((args.get? (a.slotOf b) <|> (a.firstOf? b).bind Binding.default?).elim
        (.error (.missingArgument (a.slotOf b))) .ok, s) := by
  unfold Binding.isMethodLevel Binding.kind at level
  unfold argument
  cases source : b.source with
  | previous | ambient =>
      rw [source] at level
      cases level
  | _ => cases args.get? (a.slotOf b) <|> (a.firstOf? b).bind Binding.default? <;> rfl

/-- A slot of the plan is the slot of the input. -/
theorem eq_slotOf_of_planned {position : Nat} (planned : a.plan.slotOf? b = some position) :
    position = a.slotOf b := by
  rw [a.plan_inStep.slotOf?_eq, plan_identities] at planned
  split at planned
  · exact (Option.some.inj planned).symm
  · cases planned

end Action

/-- Only a single call that suspends, and whose result is not shown, is called directly. -/
theorem strategyOf_eq_direct_iff {hasView : Bool} {body : List StepCall} :
    strategyOf hasView body = .direct ↔
      ∃ only, body = [only] ∧ only.suspends = true ∧ only.render? = none ∧ hasView = false := by
  rcases body with _ | ⟨only, _ | ⟨second, rest⟩⟩ <;> simp [strategyOf, and_assoc]

namespace DispatchUnit

variable {σ : Type} {u : DispatchUnit σ} {a : Action σ} {registry : Registry σ}

/-- The parameter of an input is made of the first binding that reads it. -/
theorem Realizes.getElem?_parameters (realizes : u.Realizes a registry) (b : Binding σ) :
    u.parameters[a.inputs.idxOf b.identity]? =
      (a.firstOf? b).bind (Parameter.ofBinding? (a.slotOf b)) := by
  rw [realizes.getElem?_ofPlan, a.getElem?_plan, Action.slotOf]

theorem Realizes.exists_parameter (realizes : u.Realizes a registry) {b first : Binding σ}
    (found : a.firstOf? b = some first) :
    ∃ p, u.parameters[a.inputs.idxOf b.identity]? = some p ∧
      Parameter.ofBinding? (a.slotOf b) first = some p := by
  have level : first.isMethodLevel = true :=
    Action.isMethodLevel_of_mem_plan (List.mem_of_getElem? ((a.getElem?_plan b).trans found))
  obtain ⟨p, made⟩ := (Parameter.ofBinding?_eq_some_iff (a.slotOf b)).mpr level
  exact ⟨p, by rw [realizes.getElem?_parameters, found, Option.bind_some, made], made⟩

/-- A parameter is made of a binding that reads an input, and has the slot of this input. -/
theorem Realizes.exists_binding (realizes : u.Realizes a registry) {p : Parameter σ}
    (member : p ∈ u.parameters) :
    ∃ b ∈ a.inputBindings, Parameter.ofBinding? (a.slotOf b) b = some p := by
  obtain ⟨i, stands⟩ := List.mem_iff_getElem?.mp member
  rw [realizes.getElem?_ofPlan, Option.bind_eq_some_iff] at stands
  obtain ⟨b, planned, made⟩ := stands
  refine ⟨b, Action.mem_inputBindings_of_mem_plan (List.mem_of_getElem? planned), ?_⟩
  rw [Action.slotOf_of_getElem?_plan planned, made]

/-- The default that a unit has for an input is that of the first binding. -/
theorem Realizes.defaultFor_eq (realizes : u.Realizes a registry) (b : Binding σ) :
    u.defaultFor (a.slotOf b) = (a.firstOf? b).bind Binding.default? := by
  rw [Action.slotOf, defaultFor]
  cases found : a.firstOf? b with
  | none =>
      rw [realizes.getElem?_parameters, found, Option.bind_none, Option.bind_none, Option.bind_none]
  | some first =>
      obtain ⟨p, stands, made⟩ := realizes.exists_parameter found
      obtain ⟨-, -, default, -⟩ := Parameter.of_ofBinding? made
      rw [stands, Option.bind_some, Option.bind_some, default]

/-- **A source gives what its binding stands for.** -/
theorem Realizes.resolveArg_eq (realizes : u.Realizes a registry) {b : Binding σ}
    {source : ArgumentSource} (reads : source.Reads a.plan b) (index : Nat) (args : Arguments)
    (host : Host σ) (previous : Option TypedValue) (s : σ) :
    u.resolveArg index args host previous source s = a.argument args host index previous b s := by
  cases reads with
  | previous source => cases previous <;> simp [resolveArg, Action.argument, source]
  | @ambient kind source =>
      rcases supplied : host.ambient kind s with ⟨_ | v, s'⟩ <;>
        simp only [resolveArg, Action.argument, source, supplied]
  | slot level planned =>
      rw [Action.eq_slotOf_of_planned planned, Action.argument_of_isMethodLevel level, resolveArg,
        realizes.defaultFor_eq]
      cases args.get? (a.slotOf b) <|> (a.firstOf? b).bind Binding.default? <;> rfl

theorem Realizes.resolveArgs_eq (realizes : u.Realizes a registry) {bs : List (Binding σ)}
    {sources : List ArgumentSource}
    (reads : List.Forall₂ (fun b source => ArgumentSource.Reads a.plan b source) bs sources)
    (index : Nat) (args : Arguments) (host : Host σ) (previous : Option TypedValue) (s : σ) :
    u.resolveArgs index args host previous sources s = a.arguments args host index previous bs s := by
  induction reads generalizing s with
  | nil => rfl
  | cons one _ ih =>
      rw [resolveArgs, Action.arguments, realizes.resolveArg_eq one]
      rcases a.argument args host index previous _ s with ⟨_ | v, s'⟩
      · rfl
      · simp only [ih]

/-- A handler that is awaited is done to its end, whether it suspends or not. -/
theorem Realizes.runStep_eq (realizes : u.Realizes a registry) {bs : List (Binding σ)}
    {sources : List ArgumentSource} {key : HandlerKey} {l : Logic σ}
    (registered : registry.get? key = some l)
    (reads : List.Forall₂ (fun b source => ArgumentSource.Reads a.plan b source) bs sources)
    (kind : StepKind) (suspends : Bool) (returns? : Option ValueType)
    (index : Nat) (args : Arguments) (host : Host σ) (previous : Option TypedValue) (s : σ) :
    u.runStep registry true index ⟨kind, some key, sources, suspends, returns?, none⟩ args host
        previous s =
      a.handle args host index previous bs l s := by
  simp only [runStep, logic, registered, realizes.resolveArgs_eq reads, Action.handle, Logic.call]
  rcases a.arguments args host index previous bs s with ⟨_ | vs, s'⟩
  · rfl
  cases accepted : Args.ofList l.params vs with
  | error e => simp only [accepted]
  | ok xs => cases waits : l.suspends <;> simp [accepted]

theorem renderOutcome_eq_present (host : Host σ) (t : ViewTarget) (model : TypedValue) (s : σ) :
    renderOutcome host t model s = Action.present host t model s := by
  unfold renderOutcome Action.present
  rcases host.render ⟨t.kind, t.target, model⟩ s with ⟨_ | page, s'⟩ <;> rfl

/-- **A sequence of calls does what its steps mean**, from any step on and after any result. -/
theorem Realizes.runFrom_eq (realizes : u.Realizes a registry) {steps : List (Step σ)}
    {calls : List StepCall} (body : List.Forall₂ (StepCall.Realizes a.plan registry) steps calls)
    (index : Nat) (args : Arguments) (host : Host σ) (previous : Option TypedValue) (s : σ) :
    u.runFrom registry true args host index previous calls s =
      a.meaningFrom args host index previous steps s := by
  -- The induction is on the steps with their calls; what a step leaves is the same on both sides.
  induction body generalizing index previous s with
  | nil =>
      cases previous with
      | none => rfl
      | some result =>
          rw [runFrom, Action.meaningFrom, Action.finish, realizes.finalRender]
          cases a.view? with
          | none => rfl
          | some t => exact renderOutcome_eq_present host t result s
  | @cons step _ _ _ call _ ih =>
      cases call with
      | render _ target =>
          rw [runFrom, Action.meaningFrom, target]
          cases previous with
          | none => rfl
          | some model => exact renderOutcome_eq_present host _ model s
      | handler render handler _ reads registered =>
          simp only [runFrom, Action.meaningFrom, Step.renderTarget?_of_not_isRender render, handler,
            realizes.runStep_eq registered reads]
          rcases a.handle args host index previous step.bindings _ s with ⟨_ | v, s'⟩
          · rfl
          · exact ih (index + 1) _ s'

/-- **A direct call does what the only step means.**  Its result has the type that the step declares; a
valid action has no step at its end that declares none. -/
theorem Realizes.runDirect_eq (realizes : u.Realizes a registry) (valid : a.Valid)
    (direct : u.strategy = .direct) (args : Arguments) (host : Host σ) (s : σ) :
    u.runDirect registry true args host s = a.meaning args host s := by
  obtain ⟨only, single, -, shown, hidden⟩ := strategyOf_eq_direct_iff.mp (realizes.strategy ▸ direct)
  have body := realizes.body
  rw [single, List.forall₂_cons_right_iff] at body
  obtain ⟨step, rest, call, none_left, steps⟩ := body
  obtain rfl := List.forall₂_nil_right_iff.mp none_left
  cases call with
  | render => cases shown
  | handler render handler _ reads registered =>
      -- The only step is the last one, so it returns something and says of which type.
      have kind := Step.needsValue_of_not_isRender render (valid.yields step (by simp [steps]))
      obtain ⟨t, declared⟩ := Option.isSome_iff_exists.mp (valid.declared step (by simp [steps]) kind)
      have view : a.view? = none := by simpa using hidden
      simp only [runDirect, single, realizes.runStep_eq registered reads, Action.meaning, steps,
        Action.meaningFrom, Step.renderTarget?_of_not_isRender render, handler, declared, Action.finish,
        view]
      rcases a.handle args host 0 none step.bindings _ s with ⟨_ | v, s'⟩ <;> rfl

/-- **By either strategy, a unit does what its action means.** -/
theorem Realizes.invoke_eq_meaning (realizes : u.Realizes a registry) (valid : a.Valid)
    (args : Arguments) (host : Host σ) (s : σ) :
    u.invoke registry args host s = a.meaning args host s := by
  rw [invoke, run]
  cases strategy : u.strategy with
  | direct => exact realizes.runDirect_eq valid strategy args host s
  | sequenced => exact realizes.runFrom_eq realizes.body 0 args host none s

end DispatchUnit

variable {σ : Type} {config : CompilerConfig} {w w' : Workshop σ} {a : Action σ}

/-- **A compiled action does what its definition means**: the same outcome or error, and the same work on
the state in the same order, whatever the arguments and the surroundings are, and whatever has been
registered since. -/
theorem invoke_compiled_eq_meaning {e : Endpoint σ} {events : List Event} {registry : Registry σ}
    (compiled : compile config w a = (.ok e, w', events)) (grown : w'.registry.Grows registry)
    (args : Arguments) (host : Host σ) (s : σ) :
    e.unit.invoke registry args host s = a.meaning args host s := by
  obtain ⟨wellFormed, -, realizes, -⟩ := compile_realizes compiled
  exact (realizes.grows grown).invoke_eq_meaning wellFormed.toValid args host s

/-- A note that is created is trimmed by the first step, and numbered and kept by the second. -/
theorem createNote_invoke_eq_meaning :
    ∃ (e : Endpoint NoteStore) (w' : Workshop NoteStore) (events : List Event),
      compile {} .empty Notes.createNote = (.ok e, w', events) ∧ w'.registry.Grows w'.registry ∧
        e.unit.invoke w'.registry
            (.ofValues [⟨Notes.newNoteType, "Milk", "two", ()⟩, ⟨.service Notes.storeName, (0 : Nat)⟩])
            (.detached .empty) .empty =
          (.ok (.value ⟨.encoded Notes.noteType, Notes.noteType,
              Notes.noteValue (NoteStore.empty.create (NewNote.trimmed ⟨"Milk", "two"⟩)).1⟩),
            (NoteStore.empty.create (NewNote.trimmed ⟨"Milk", "two"⟩)).2) := by
  have wellFormed := Notes.wellFormed_of_mem (a := Notes.createNote) (by simp [Notes.actions])
  obtain ⟨e, w', events, compiled⟩ := exists_compile_of_wellFormed {} .empty wellFormed
  refine ⟨e, w', events, compiled, .refl, ?_⟩
  rw [invoke_compiled_eq_meaning compiled .refl]
  rfl

end HandlerChain
