import HandlerChain.Proofs.Plan
import HandlerChain.Proofs.Registry
import HandlerChain.Proofs.Validation
import HandlerChain.Unit.Compiler
import Mathlib.Data.List.Forall2

/-!
# What synthesis makes of an action

Preparing a step either fails or gives a call with the sources of its arguments; registering puts the key
of a handler into each call that has one.  Both are taken apart once here.  What is left of them is the
relation `StepCall.Realizes` between a step and its call, from which everything about a unit follows.

## Main Definitions

* `ArgumentSource.Reads` relates a binding to the source of its argument, `StepCall.Realizes` a step to
  its call, and `DispatchUnit.Realizes` an action to its unit.

## Main Results

* `Step.prepare_eq_ok_iff` says when a step is prepared, and what it gives.
* `Action.prepareAction_isOk_iff`: an action that is valid is prepared exactly if its signatures fit.
* `synthesize_realizes`: a unit realizes the action that it is made of.
-/

namespace HandlerChain

/-- An argument source stands for a binding under a plan. -/
inductive ArgumentSource.Reads {σ : Type} (plan : Plan σ) (b : Binding σ) : ArgumentSource → Prop where
  | previous (source : b.source = .previous) : Reads plan b .previous
  | ambient {kind : AmbientKind} (source : b.source = .ambient kind) : Reads plan b (.ambient kind)
  | slot {position : Nat} (level : b.isMethodLevel = true) (planned : plan.slotOf? b = some position) :
      Reads plan b (.slot position)

namespace Binding

variable {σ : Type}

/-- A binding reads the result before, the surroundings, or an input. -/
theorem source_cases (b : Binding σ) :
    b.source = .previous ∨ (∃ kind, b.source = .ambient kind) ∨ b.isMethodLevel = true := by
  unfold isMethodLevel kind
  cases b.source <;> simp [Source.kind]

theorem type_eq_of_ambient {b : Binding σ} {kind : AmbientKind} (source : b.source = .ambient kind) :
    b.type.ty = .ambient kind := by
  have gives := b.gives
  rw [source] at gives
  generalize b.decoder = decoder at gives
  generalize b.type.ty = t at decoder gives ⊢
  cases gives
  rfl

end Binding

namespace Step

variable {σ : Type} {i : Nat} {plan : Plan σ}

theorem argumentSource_of_isMethodLevel {b : Binding σ} (level : b.isMethodLevel = true) :
    argumentSource i plan b =
      (plan.slotOf? b).elim (.error (.missingSlot i b.display)) fun slot => .ok (.slot slot) := by
  unfold Binding.isMethodLevel Binding.kind at level
  unfold argumentSource
  cases source : b.source with
  | previous | ambient =>
      rw [source] at level
      cases level
  | _ => cases plan.slotOf? b <;> rfl

theorem argumentSource_eq_ok_iff {b : Binding σ} {source : ArgumentSource} :
    argumentSource i plan b = .ok source ↔ source.Reads plan b := by
  constructor
  · intro found
    rcases b.source_cases with previous | ⟨kind, ambient⟩ | level
    · simp only [argumentSource, previous, Except.ok.injEq] at found
      exact found ▸ .previous previous
    · simp only [argumentSource, ambient, b.type_eq_of_ambient ambient, ↓reduceIte,
        Except.ok.injEq] at found
      exact found ▸ .ambient ambient
    · rw [argumentSource_of_isMethodLevel level] at found
      cases planned : plan.slotOf? b with
      | none => simp [planned] at found
      | some slot =>
          simp only [planned, Option.elim_some, Except.ok.injEq] at found
          exact found ▸ .slot level planned
  · intro reads
    cases reads with
    | previous source => simp [argumentSource, source]
    | ambient source => simp [argumentSource, source, b.type_eq_of_ambient source]
    | slot level planned => simp [argumentSource_of_isMethodLevel level, planned]

theorem argumentSources_eq_ok_iff {bs : List (Binding σ)} {sources : List ArgumentSource} :
    argumentSources i plan bs = .ok sources ↔
      List.Forall₂ (fun b source => ArgumentSource.Reads plan b source) bs sources := by
  induction bs generalizing sources with
  | nil => cases sources <;> simp [argumentSources]
  | cons b rest ih =>
      rw [argumentSources, List.forall₂_cons_left_iff]
      cases one : argumentSource i plan b with
      | error e =>
          constructor
          · intro impossible
            cases impossible
          · rintro ⟨source, more, reads, -, -⟩
            cases one.symm.trans (argumentSource_eq_ok_iff.mpr reads)
      | ok source =>
          cases all : argumentSources i plan rest with
          | error e =>
              constructor
              · intro impossible
                cases impossible
              · rintro ⟨source', more, -, reads, -⟩
                cases all.symm.trans (ih.mpr reads)
          | ok more =>
              constructor
              · intro given
                cases given
                exact ⟨source, more, argumentSource_eq_ok_iff.mp one, ih.mp all, rfl⟩
              · rintro ⟨source', more', reads, reads', rfl⟩
                cases one.symm.trans (argumentSource_eq_ok_iff.mpr reads)
                cases all.symm.trans (ih.mpr reads')
                rfl

/-- Bindings that are all planned have sources. -/
theorem exists_argumentSources (i : Nat) (plan : Plan σ) {bs : List (Binding σ)}
    (planned : ∀ b ∈ bs, b.isMethodLevel = true → (plan.slotOf? b).isSome) :
    ∃ sources, argumentSources i plan bs = .ok sources := by
  simp only [argumentSources_eq_ok_iff]
  induction bs with
  | nil => exact ⟨[], .nil⟩
  | cons b rest ih =>
      obtain ⟨sources, reads⟩ := ih fun c member => planned c (List.mem_cons_of_mem b member)
      rcases b.source_cases with previous | ⟨kind, ambient⟩ | level
      · exact ⟨.previous :: sources, .cons (.previous previous) reads⟩
      · exact ⟨.ambient kind :: sources, .cons (.ambient ambient) reads⟩
      · obtain ⟨slot, found⟩ := Option.isSome_iff_exists.mp (planned b List.mem_cons_self level)
        exact ⟨.slot slot :: sources, .cons (.slot level found) reads⟩

theorem wrongArgument_eq_none_iff {bs : List (Binding σ)} {ts : List Ty} {position : Nat}
    (length : ts.length = bs.length) :
    wrongArgument i position bs ts = none ↔ bs.map (fun b => b.type.ty) = ts := by
  induction bs generalizing ts position with
  | nil => simp_all [wrongArgument]
  | cons b rest ih =>
      cases ts with
      | nil => simp at length
      | cons t more =>
          by_cases same : b.type.ty = t
          · simp [wrongArgument, same, ih (by simpa using length)]
          · simp [wrongArgument, same]

/-- The checks of a handler find nothing exactly if it fits. -/
theorem logicFailure_eq_none_iff {s : Step σ} {l : Logic σ} :
    s.logicFailure i l = none ↔ s.FitsLogic l := by
  unfold logicFailure
  by_cases many : maxArity < l.arity
  · rw [if_pos many]
    exact iff_of_false (by simp) fun fits => absurd fits.arity (Nat.not_le.mpr many)
  rw [if_neg many]
  by_cases length : l.arity = s.bindings.length
  swap
  · rw [if_pos length]
    exact iff_of_false (by simp) fun fits => length (by rw [Logic.arity, ← fits.types, List.length_map])
  rw [if_neg (not_not.mpr length)]
  cases wrong : wrongArgument i 1 s.bindings l.params with
  | some e =>
      refine iff_of_false (by simp) fun fits => ?_
      rw [(wrongArgument_eq_none_iff length).mpr fits.types] at wrong
      cases wrong
  | none =>
      have types := (wrongArgument_eq_none_iff length).mp wrong
      refine Iff.trans (b := (∀ t, s.returnType? = some t → t.ty = l.returns) ∧
        s.suspends = l.suspends) ?_ ?_
      · cases s.returnType? with
        | none => simp
        | some t =>
            by_cases returns : t.ty = l.returns <;>
              simp [ValueType.same, Logic.returnType, ValueType.encoded, returns]
      · exact ⟨fun rest => ⟨Nat.not_lt.mp many, types, rest.2, rest.1⟩,
          fun fits => ⟨fits.returns, fits.suspends⟩⟩

/-- What preparing a step gives: for a step that renders a call with its target, for any other a call
with the handler that is to be registered. -/
theorem prepare_eq_ok_iff {s : Step σ} {r : StepCall × Option (Logic σ)} :
    s.prepare i plan = .ok r ↔
      s.bindings.length ≤ maxArity ∧
      ∃ args, List.Forall₂ (fun b source => ArgumentSource.Reads plan b source) s.bindings args ∧
        ((s.kind.isRender = true ∧ ∃ t, s.renderTarget? = some t ∧
            r = (⟨s.kind, none, args, false, none, some t⟩, none)) ∨
          (s.kind.isRender = false ∧ ∃ l, s.logic? = some l ∧ s.FitsLogic l ∧
            r = (⟨s.kind, none, args, s.suspends, s.returnType?, none⟩, some l))) := by
  simp only [← argumentSources_eq_ok_iff (i := i), ← logicFailure_eq_none_iff (i := i)]
  unfold prepare
  by_cases many : maxArity < s.bindings.length
  · rw [if_pos many]
    exact iff_of_false (by simp) fun given => absurd given.1 (Nat.not_le.mpr many)
  rw [if_neg many]
  cases sources : argumentSources i plan s.bindings with
  | error e => simp
  | ok args =>
      cases render : s.kind.isRender with
      | true => cases s.renderTarget? <;> simp [Nat.not_lt.mp many, eq_comm]
      | false =>
          cases handler : s.logic? with
          | none => simp
          | some l => cases fails : s.logicFailure i l <;> simp [Nat.not_lt.mp many, fails, eq_comm]

end Step

section

variable {σ : Type} {plan : Plan σ}

theorem prepareSteps_isOk_iff {i : Nat} {steps : List (Step σ)} :
    (∃ calls, prepareSteps plan i steps = .ok calls) ↔
      ∀ (j : Nat) (s : Step σ), steps[j]? = some s → ∃ r, s.prepare (i + j) plan = .ok r := by
  induction steps generalizing i with
  | nil => simp [prepareSteps]
  | cons s rest ih =>
      have split : (∃ calls, prepareSteps plan i (s :: rest) = .ok calls) ↔
          (∃ r, s.prepare i plan = .ok r) ∧ ∃ calls, prepareSteps plan (i + 1) rest = .ok calls := by
        rw [prepareSteps]
        cases s.prepare i plan <;> cases prepareSteps plan (i + 1) rest <;> simp [Except.map]
      rw [split, ih]
      constructor
      · rintro ⟨head, tail⟩ (_ | j) t found
        · cases found
          exact head
        · rw [← Nat.add_assoc, Nat.add_right_comm]
          exact tail j t found
      · intro all
        refine ⟨all 0 s rfl, fun j t found => ?_⟩
        rw [Nat.add_right_comm]
        exact all (j + 1) t found

theorem prepareSteps_forall₂ {i : Nat} {steps : List (Step σ)}
    {calls : List (StepCall × Option (Logic σ))} (prepared : prepareSteps plan i steps = .ok calls) :
    List.Forall₂ (fun s call => ∃ j, s.prepare j plan = .ok call) steps calls := by
  induction steps generalizing i calls with
  | nil =>
      cases prepared
      exact .nil
  | cons s rest ih =>
      rw [prepareSteps] at prepared
      cases one : s.prepare i plan with
      | error e => simp [one] at prepared
      | ok call =>
          cases all : prepareSteps plan (i + 1) rest with
          | error e => simp [one, all, Except.map] at prepared
          | ok more =>
              simp only [one, all, Except.map, Except.ok.injEq] at prepared
              exact prepared ▸ .cons ⟨i, one⟩ (ih all)

end

namespace Parameter

variable {σ : Type}

theorem ofBinding?_eq_some_iff (position : Nat) {b : Binding σ} :
    (∃ p, ofBinding? position b = some p) ↔ b.isMethodLevel = true := by
  unfold ofBinding? Binding.isMethodLevel Binding.kind
  cases b.source <;> simp [Marker.ofSource?, Source.kind]

/-- A parameter keeps what its binding says. -/
theorem of_ofBinding? {position : Nat} {b : Binding σ} {p : Parameter σ}
    (made : ofBinding? position b = some p) :
    p.position = position ∧ p.type = b.type ∧ p.default? = b.default? ∧
      p.optional = b.default?.isSome ∧ p.binding = b ∧ Marker.ofSource? b.source = some p.marker := by
  obtain ⟨marker, marked, rfl⟩ := Option.map_eq_some_iff.mp made
  exact ⟨rfl, rfl, rfl, rfl, rfl, marked⟩

theorem exists_ofPlanned {qs : List (PlannedParameter σ)}
    (level : ∀ q ∈ qs, q.binding.isMethodLevel = true) : ∃ ps, ofPlanned qs = .ok ps := by
  induction qs with
  | nil => exact ⟨[], rfl⟩
  | cons q rest ih =>
      obtain ⟨p, made⟩ := (ofBinding?_eq_some_iff q.slot).mpr (level q List.mem_cons_self)
      obtain ⟨ps, more⟩ := ih fun c member => level c (List.mem_cons_of_mem q member)
      exact ⟨p :: ps, by simp [ofPlanned, made, more, Except.map]⟩

/-- The parameters stand in the order of the plan, each made of what is planned. -/
theorem ofPlanned_forall₂ {qs : List (PlannedParameter σ)} {ps : List (Parameter σ)}
    (made : ofPlanned qs = .ok ps) :
    List.Forall₂ (fun q p => ofBinding? q.slot q.binding = some p) qs ps := by
  induction qs generalizing ps with
  | nil =>
      cases made
      exact .nil
  | cons q rest ih =>
      rw [ofPlanned] at made
      cases one : ofBinding? q.slot q.binding with
      | none => simp [one] at made
      | some p =>
          cases all : ofPlanned rest with
          | error e => simp [one, all, Except.map] at made
          | ok more =>
              simp only [one, all, Except.map, Except.ok.injEq] at made
              exact made ▸ .cons one (ih all)

theorem getElem?_ofPlanned {qs : List (PlannedParameter σ)} {ps : List (Parameter σ)} (made : ofPlanned qs = .ok ps)
    (j : Nat) : ps[j]? = qs[j]?.bind fun q => ofBinding? q.slot q.binding := by
  have each := ofPlanned_forall₂ made
  clear made
  induction each generalizing j with
  | nil => rfl
  | cons one _ ih =>
      cases j with
      | zero => exact one.symm
      | succ j => exact ih j

/-- **Parameters have the slots and the bindings of their plan.** -/
theorem map_ofPlanned {qs : List (PlannedParameter σ)} {ps : List (Parameter σ)} (made : ofPlanned qs = .ok ps) :
    ps.map (fun p => ⟨p.position, p.binding⟩) = qs := by
  have each := ofPlanned_forall₂ made
  clear made
  induction each with
  | nil => rfl
  | cons one _ ih =>
      obtain ⟨position, -, -, -, binding, -⟩ := of_ofBinding? one
      rw [List.map_cons, ih, position, binding]

end Parameter

namespace StepCall

variable {σ : Type}

/-- A call carries out a step: it shows what the step shows, or it leads to the handler of the step,
reads what the bindings of the step name, and declares what the step declares. -/
inductive Realizes (plan : Plan σ) (registry : Registry σ) (s : Step σ) : StepCall → Prop where
  | render {t : ViewTarget} {args : List ArgumentSource} (render : s.kind.isRender = true)
      (target : s.renderTarget? = some t) :
      Realizes plan registry s ⟨s.kind, none, args, false, none, some t⟩
  | handler {l : Logic σ} {key : HandlerKey} {args : List ArgumentSource}
      (render : s.kind.isRender = false) (logic : s.logic? = some l) (fits : s.FitsLogic l)
      (reads : List.Forall₂ (fun b source => ArgumentSource.Reads plan b source) s.bindings args)
      (registered : registry.get? key = some l) :
      Realizes plan registry s ⟨s.kind, some key, args, s.suspends, s.returnType?, none⟩

theorem Realizes.grows {plan : Plan σ} {registry registry' : Registry σ} {s : Step σ} {call : StepCall}
    (realizes : Realizes plan registry s call) (grows : registry.Grows registry') :
    Realizes plan registry' s call := by
  cases realizes with
  | render render target => exact .render render target
  | handler render logic fits reads registered =>
      exact .handler render logic fits reads (grows.get? registered)

/-- What registering makes of a call: the key of the handler is put in. -/
inductive Registered (registry : Registry σ) : StepCall × Option (Logic σ) → StepCall → Prop where
  | plain (call : StepCall) : Registered registry (call, none) call
  | keyed (call : StepCall) {l : Logic σ} {key : HandlerKey} (found : registry.get? key = some l) :
      Registered registry (call, some l) { call with key? := some key }

end StepCall

namespace Workshop

variable {σ : Type}

theorem register_grows (w : Workshop σ) (i : Nat) (calls : List (StepCall × Option (Logic σ))) :
    w.registry.Grows (w.register i calls).2.1.registry := by
  induction calls generalizing w i with
  | nil => exact .refl
  | cons call rest ih =>
      obtain ⟨call, _ | l⟩ := call
      · exact ih w (i + 1)
      · exact (Registry.Grows.refl.add w.keys l).trans (ih { w with
          registry := (w.registry.add w.keys l).2.1, keys := (w.registry.add w.keys l).2.2 } (i + 1))

theorem register_units (w : Workshop σ) (n : Nat) (calls : List (StepCall × Option (Logic σ))) :
    (w.register n calls).2.1.units = w.units := by
  induction calls generalizing w n with
  | nil => rfl
  | cons call rest ih =>
      obtain ⟨call, _ | l⟩ := call
      · exact ih w (n + 1)
      · exact ih _ (n + 1)

/-- Every call is registered when all are: the later ones leave the handlers of the earlier ones. -/
theorem register_forall₂ (w : Workshop σ) (i : Nat) (calls : List (StepCall × Option (Logic σ))) :
    List.Forall₂ (StepCall.Registered (w.register i calls).2.1.registry) calls
      (w.register i calls).1 := by
  induction calls generalizing w i with
  | nil => exact .nil
  | cons call rest ih =>
      obtain ⟨call, _ | l⟩ := call
      · exact .cons (.plain call) (ih w (i + 1))
      · have later := register_grows { w with
          registry := (w.registry.add w.keys l).2.1, keys := (w.registry.add w.keys l).2.2 } (i + 1) rest
        have found := later.get? (Registry.get?_add_self w.registry w.keys l)
        exact .cons (.keyed call found) (ih _ (i + 1))

end Workshop

/-- A unit realizes an action: its parameters are those of the plan, its calls carry out the steps, and
it ends as the action ends. -/
structure DispatchUnit.Realizes {σ : Type} (u : DispatchUnit σ) (a : Action σ) (registry : Registry σ) :
    Prop where
  parameters : Parameter.ofPlanned a.plan.ordered = .ok u.parameters
  body : List.Forall₂ (StepCall.Realizes a.plan registry) a.steps u.body
  strategy : u.strategy = strategyOf a.view?.isSome u.body
  finalRender : u.finalRender? = a.view?

theorem DispatchUnit.Realizes.grows {σ : Type} {u : DispatchUnit σ} {a : Action σ}
    {registry registry' : Registry σ} (realizes : u.Realizes a registry)
    (grows : registry.Grows registry') : u.Realizes a registry' :=
  { realizes with body := realizes.body.imp fun _ _ call => call.grows grows }

/-- The parameters of a unit are made of the bindings of the plan, numbered from one. -/
theorem DispatchUnit.Realizes.getElem?_ofPlan {σ : Type} {u : DispatchUnit σ} {a : Action σ} {registry : Registry σ}
    (realizes : u.Realizes a registry) (j : Nat) :
    u.parameters[j]? = a.plan.bindings[j]?.bind (Parameter.ofBinding? (j + 1)) := by
  rw [Parameter.getElem?_ofPlanned realizes.parameters, Plan.ordered, a.plan_inStep.getElem?_params, Option.bind_map]
  rfl

section

variable {σ : Type}

/-- A call that is prepared and then registered carries out its step. -/
theorem realizes_of_prepare {plan : Plan σ} {registry : Registry σ} {s : Step σ} {i : Nat}
    {prepared : StepCall × Option (Logic σ)} {call : StepCall}
    (ready : s.prepare i plan = .ok prepared) (registered : StepCall.Registered registry prepared call) :
    StepCall.Realizes plan registry s call := by
  obtain ⟨-, args, reads, ⟨render, t, target, rfl⟩ | ⟨render, l, logic, fits, rfl⟩⟩ :=
    Step.prepare_eq_ok_iff.mp ready
  · cases registered with
    | plain => exact .render render target
  · cases registered with
    | keyed _ found => exact .handler render logic fits reads found

theorem realizes_of_prepareSteps {plan : Plan σ} {registry : Registry σ} {steps : List (Step σ)}
    {prepared : List (StepCall × Option (Logic σ))} {body : List StepCall}
    (ready : List.Forall₂ (fun s call => ∃ j, s.prepare j plan = .ok call) steps prepared)
    (registered : List.Forall₂ (StepCall.Registered registry) prepared body) :
    List.Forall₂ (StepCall.Realizes plan registry) steps body := by
  induction ready generalizing body with
  | nil =>
      cases registered
      exact .nil
  | cons one _ ih =>
      cases registered with
      | cons key keys =>
          obtain ⟨j, one⟩ := one
          exact .cons (realizes_of_prepare one key) (ih keys)

theorem mem_inputBindings {a : Action σ} {b : Binding σ} :
    b ∈ a.inputBindings ↔ (∃ s ∈ a.steps, b ∈ s.bindings) ∧ b.isMethodLevel = true := by
  rw [Action.inputBindings, List.mem_filter, Action.mem_allBindings]

theorem prepareAction_eq_ok_iff {a : Action σ} {plan : Plan σ} {parameters : List (Parameter σ)}
    {calls : List (StepCall × Option (Logic σ))} :
    prepareAction a plan = .ok (parameters, calls) ↔
      Parameter.ofPlanned plan.ordered = .ok parameters ∧ prepareSteps plan 0 a.steps = .ok calls := by
  unfold prepareAction
  cases Parameter.ofPlanned plan.ordered <;> cases prepareSteps plan 0 a.steps <;> simp [Except.map]

/-- Whatever is planned is a parameter. -/
theorem Action.exists_parameters (a : Action σ) : ∃ ps, Parameter.ofPlanned a.plan.ordered = .ok ps :=
  Parameter.exists_ofPlanned fun _ member => isMethodLevel_of_mem_plan (List.mem_map_of_mem member)

/-- **A valid action is prepared exactly if its signatures fit.**  Its plan has every input, so no step
fails for want of a slot. -/
theorem Action.prepareAction_isOk_iff {a : Action σ} (valid : a.Valid) :
    (∃ r, prepareAction a a.plan = .ok r) ↔ a.SignaturesFit := by
  obtain ⟨ps, parameters⟩ := a.exists_parameters
  have steps : (∃ r, prepareAction a a.plan = .ok r) ↔
      ∃ calls, prepareSteps a.plan 0 a.steps = .ok calls := by
    rw [prepareAction, parameters]
    cases prepareSteps a.plan 0 a.steps <;> simp [Except.map]
  rw [steps, prepareSteps_isOk_iff]
  constructor
  -- A step that was prepared passed the checks of its handler, or had a target.
  · intro all
    constructor
    · intro s member render l logic
      obtain ⟨j, found⟩ := List.mem_iff_getElem?.mp member
      obtain ⟨r, ready⟩ := all j s found
      obtain ⟨-, args, -, ⟨render', -⟩ | ⟨-, l', logic', fits, -⟩⟩ := Step.prepare_eq_ok_iff.mp ready
      · simp [render] at render'
      · rw [logic, Option.some.injEq] at logic'
        exact logic' ▸ fits
    · intro s member render
      obtain ⟨j, found⟩ := List.mem_iff_getElem?.mp member
      obtain ⟨r, ready⟩ := all j s found
      obtain ⟨-, args, -, ⟨-, t, target, -⟩ | ⟨render', -⟩⟩ := Step.prepare_eq_ok_iff.mp ready
      · simp [target]
      · simp [render] at render'
  -- Conversely, every input has its slot in the plan of the action, so the sources are found first.
  · intro fit j s found
    have member := List.mem_of_getElem? found
    have planned : ∀ b ∈ s.bindings, b.isMethodLevel = true → (a.plan.slotOf? b).isSome := by
      intro b bound level
      rw [slotOf?_plan (mem_inputBindings.mpr ⟨⟨s, member, bound⟩, level⟩), Option.isSome_some]
    obtain ⟨args, sources⟩ := Step.exists_argumentSources (0 + j) a.plan planned
    have reads := Step.argumentSources_eq_ok_iff.mp sources
    cases render : s.kind.isRender with
    | true =>
        obtain ⟨t, target⟩ := Option.isSome_iff_exists.mp (fit.targets s member render)
        have unbound := (valid.renders j s found render).unbound
        exact ⟨_, Step.prepare_eq_ok_iff.mpr
          ⟨by simp [unbound], args, reads, .inl ⟨render, t, target, rfl⟩⟩⟩
    | false =>
        obtain ⟨l, logic⟩ := Option.isSome_iff_exists.mp (valid.handled s member render)
        have fits := fit.fits s member render l logic
        have few : s.bindings.length ≤ maxArity := by
          have := fits.arity
          rwa [Logic.arity, ← fits.types, List.length_map] at this
        exact ⟨_, Step.prepare_eq_ok_iff.mpr ⟨few, args, reads, .inr ⟨render, l, logic, fits, rfl⟩⟩⟩

/-- **What synthesis makes of an action realizes it**, in a registry that has grown. -/
theorem synthesize_realizes {config : CompilerConfig} {w w' : Workshop σ} {a : Action σ} {e : Endpoint σ}
    {events : List Event} (made : synthesize config w a a.plan = (.ok e, w', events)) :
    e.action = a ∧ e.unit.Realizes a w'.registry ∧ w.registry.Grows w'.registry := by
  unfold synthesize at made
  cases prepared : prepareAction a a.plan with
  | error e => simp [prepared] at made
  | ok r =>
      obtain ⟨parameters, calls⟩ := r
      simp only [prepared, Prod.mk.injEq, Except.ok.injEq] at made
      obtain ⟨rfl, rfl, -⟩ := made
      obtain ⟨parameters, steps⟩ := prepareAction_eq_ok_iff.mp prepared
      exact ⟨rfl, ⟨parameters, realizes_of_prepareSteps (prepareSteps_forall₂ steps)
        (w.register_forall₂ 0 calls), rfl, rfl⟩, w.register_grows 0 calls⟩

end

end HandlerChain
