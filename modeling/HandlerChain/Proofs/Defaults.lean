import HandlerChain.Proofs.Stages

/-!
# Defaults of shared inputs

Bindings that are the same input share a slot, and the parameter of the slot is made of the first of them.  A
default is no part of what makes bindings the same input, so it counts if the first binding has it, and is
dropped if a later one does.  With the default of the first binding nothing is ever missing; without it, an
input that is absent is always an error, whatever the other bindings have.  A service has to be registered in
any case, since the binder looks for it before it thinks of a default.

## Main Definitions

* `DispatchUnit.Spares` says that a unit does without the input of a parameter, `DispatchUnit.Needs` that it
  does not.

## Main Results

* `DispatchUnit.invoke_missingArgument`: for which slots an argument is missing.
* `Action.WellFormed.meaningFrom_of_missing`: a run that comes to a missing argument has no outcome.
* `default_of_first` says of the units of all actions that compile which inputs are spared.
* `later_default_lost`: defaults that are declared and do not count.
-/

namespace HandlerChain

namespace DispatchUnit

variable {σ : Type}

/-- Nothing is missing where the input of a parameter is: no run fails for want of it, a request without it has
the given value in its slot, and if the request is not bound, then for another parameter. -/
structure Spares (u : DispatchUnit σ) (registry : Registry σ) (p : Parameter σ) (v : Dyn) : Prop where
  run : ∀ args host s s',
    u.invoke registry args host s = (.error (.missingArgument p.position), s') →
      ∃ request t, host.render request t = (.error (.missingArgument p.position), s')
  bound : ∀ r services s args, p.Absent r →
    bindAll u.parameters r services s = .ok args → args.get? p.position = some v
  unbound : ∀ r services s cause, p.Absent r → bindAll u.parameters r services s = .error cause →
    ∃ q ∈ u.parameters, q.position ≠ p.position ∧ q.bind r services s = .error cause

/-- Without the input of a parameter no run has an outcome, and no request is bound. -/
structure Needs (u : DispatchUnit σ) (registry : Registry σ) (p : Parameter σ) : Prop where
  run : ∀ args host s outcome, args.get? p.position = none → (u.invoke registry args host s).1 ≠ .ok outcome
  bound : ∀ r services s args, p.Absent r → bindAll u.parameters r services s ≠ .ok args

variable {u : DispatchUnit σ} {registry : Registry σ} {args : Arguments} {host : Host σ} {s s' : σ}

/-- An argument is missing where there is neither a value nor a default, unless the surroundings answer so. -/
theorem invoke_missingArgument {slot : Nat}
    (failed : u.invoke registry args host s = (.error (.missingArgument slot), s')) :
    (args.get? slot = none ∧ u.defaultFor slot = none) ∨
      ∃ request t, host.render request t = (.error (.missingArgument slot), s') := by
  cases invoke_error failed with
  | noArgument _ empty required => exact .inl ⟨empty, required⟩
  | render request t shown => exact .inr ⟨request, t, shown⟩

end DispatchUnit

namespace Action

variable {σ : Type} {a : Action σ} {args : Arguments} {host : Host σ} {b : Binding σ}

theorem arguments_of_missing {index : Nat} {previous : Option TypedValue} {bs : List (Binding σ)}
    (bound : b ∈ bs) (missing : ∀ s, ∃ err s', a.argument args host index previous b s = (.error err, s'))
    (s : σ) : ∃ err s', a.arguments args host index previous bs s = (.error err, s') := by
  induction bs generalizing s with
  | nil => cases bound
  | cons c rest ih =>
      rcases given : a.argument args host index previous c s with ⟨e | v, s₁⟩
      · exact ⟨e, s₁, by simp only [arguments, given]⟩
      · rcases List.mem_cons.mp bound with rfl | later
        · obtain ⟨err, s₂, lacks⟩ := missing s
          cases given.symm.trans lacks
        · obtain ⟨err, s₂, lacks⟩ := ih later s₁
          exact ⟨err, s₂, by simp only [arguments, given, lacks, Except.map]⟩

/-- **A run that comes to a missing argument has no outcome.**  The induction is on the steps that are left;
the step that lacks the argument does not render, and no step before it does. -/
theorem WellFormed.meaningFrom_of_missing (wellFormed : a.WellFormed) {steps : List (Step σ)} {index : Nat}
    {previous : Option TypedValue} (left : a.steps.drop index = steps)
    (member : ∃ step ∈ steps, b ∈ step.bindings)
    (missing : ∀ i p s, ∃ err s', a.argument args host i p b s = (.error err, s')) (s : σ) :
    ∃ err s', a.meaningFrom args host index previous steps s = (.error err, s') := by
  induction steps generalizing index previous s with
  | nil => simp at member
  | cons step rest ih =>
      have found := getElem?_of_drop left
      have inside := List.mem_of_getElem? found
      obtain ⟨reader, listed, bound⟩ := member
      cases render : step.kind.isRender with
      | true =>
          rw [wellFormed.eq_nil_of_isRender left render, List.mem_singleton] at listed
          rw [listed, (wellFormed.renders index step found render).unbound] at bound
          cases bound
      | false =>
          obtain ⟨l, logic⟩ := Option.isSome_iff_exists.mp (wellFormed.handled step inside render)
          have target := Step.renderTarget?_of_not_isRender render
          rcases handled : a.handle args host index previous step.bindings l s with ⟨e | v, s₁⟩
          · exact ⟨e, s₁, by simp only [meaningFrom, target, logic, handled]⟩
          · rcases List.mem_cons.mp listed with rfl | later
            · obtain ⟨err, s₂, lacks⟩ := arguments_of_missing bound (missing index previous) s
              simp [handle, lacks] at handled
            · simp only [meaningFrom, target, logic, handled]
              exact ih (drop_succ_of_drop left) ⟨reader, later, bound⟩ s₁

end Action

/-- A service that is not registered is looked for before a default is. -/
theorem Parameter.bind_of_unregistered {σ : Type} {position : Nat} {b : Binding σ} {p : Parameter σ}
    (made : ofBinding? position b = some p) (kind : b.kind = .service) {name : String}
    (named : b.type.ty = .service name) {services : Services} (missing : services.get? name = none)
    (r : RequestInput) (s : σ) : p.bind r services s = .error (.serviceUnavailable b.type.name) := by
  have takes := takes_decoder made
  obtain ⟨-, type, -, -, rfl, marked⟩ := of_ofBinding? made
  have marker : p.marker = .services := by
    unfold Binding.kind at kind
    cases source : p.binding.source <;> simp_all [Source.kind, Marker.ofSource?]
  simp only [marker, Marker.Takes] at takes
  obtain ⟨name', named', lookup, decoder, same⟩ := takes
  obtain rfl := Ty.service.inj (named.symm.trans named')
  have unfound := same services
  rw [missing, Option.map_none, Option.map_eq_none_iff] at unfound
  simp only [bind, read, marker, decoder, readService, unfound, type]

namespace DispatchUnit.Realizes

variable {σ : Type} {u : DispatchUnit σ} {a : Action σ} {registry : Registry σ} {first b : Binding σ}
  {p : Parameter σ}

/-- What is bound stands in the slot of its parameter. -/
theorem bind_of_bindAll (realizes : u.Realizes a registry) (member : p ∈ u.parameters) {r : RequestInput}
    {services : Services} {s : σ} {args : Arguments} (bound : bindAll u.parameters r services s = .ok args) :
    p.bind r services s = .ok (args.get? p.position) :=
  ((bindAll_eq_ok_iff realizes.map_position).mp bound).2 p member

/-- Parameters in one slot are one. -/
theorem eq_of_position_eq (realizes : u.Realizes a registry) {q : Parameter σ} (member : p ∈ u.parameters)
    (member' : q ∈ u.parameters) (same : q.position = p.position) : q = p := by
  have distinct : (u.parameters.map Parameter.position).Nodup := realizes.map_position ▸ List.nodup_range'
  exact List.inj_on_of_nodup_map distinct member' member same

/-- **With a default of its first binding, an input is spared.** -/
theorem spares (realizes : u.Realizes a registry) (found : a.firstOf? b = some first)
    (member : p ∈ u.parameters) (made : Parameter.ofBinding? (a.slotOf b) first = some p) {v : Dyn}
    (value : first.default? = some v) : u.Spares registry p v := by
  obtain ⟨position, -, default, -⟩ := Parameter.of_ofBinding? made
  have stands : p.default? = some v := default.trans value
  have binds {r : RequestInput} {services : Services} {s : σ} (absent : p.Absent r) :
      p.bind r services s = .ok (some v) :=
    (Parameter.bind_eq_ok_iff made).mpr ⟨v, rfl, .default absent stands⟩
  constructor
  · intro args host s s' failed
    refine (invoke_missingArgument failed).resolve_left fun ⟨_, required⟩ => ?_
    rw [position, realizes.defaultFor_eq, found, Option.bind_some, value] at required
    cases required
  · intro r services s args absent bound
    have given := (realizes.bind_of_bindAll member bound).symm.trans (binds absent)
    exact Except.ok.inj given
  · intro r services s cause absent failed
    obtain ⟨q, other, unread, -⟩ := (bindAll_eq_error_iff realizes.map_position).mp failed
    refine ⟨q, other, fun same => ?_, unread⟩
    rw [realizes.eq_of_position_eq member other same, binds absent] at unread
    cases unread

/-- **Without one it is needed**, whatever the other bindings have. -/
theorem needs (realizes : u.Realizes a registry) (wellFormed : a.WellFormed) (input : b ∈ a.inputBindings)
    (found : a.firstOf? b = some first) (member : p ∈ u.parameters)
    (made : Parameter.ofBinding? (a.slotOf b) first = some p) (required : first.default? = none) :
    u.Needs registry p := by
  obtain ⟨position, -, default, -⟩ := Parameter.of_ofBinding? made
  obtain ⟨bound, level⟩ := mem_inputBindings.mp input
  constructor
  · intro args host s outcome empty ran
    have missing (i : Nat) (previous : Option TypedValue) (t : σ) :
        ∃ err t', a.argument args host i previous b t = (.error err, t') := by
      rw [Action.argument_of_isMethodLevel level, ← position, empty, found]
      exact ⟨.missingArgument p.position, t, by simp [required]⟩
    obtain ⟨err, s', fails⟩ := wellFormed.meaningFrom_of_missing List.drop_zero bound missing s
    rw [realizes.invoke_eq_meaning wellFormed.toValid, Action.meaning, fails] at ran
    cases ran
  · intro r services s args absent bound
    obtain ⟨v, -, decoded | ⟨-, stands⟩⟩ :=
      (Parameter.bind_eq_ok_iff made).mp (realizes.bind_of_bindAll member bound)
    · have nothing : p.read r services s = .ok none := (Parameter.read_eq_none_iff made).mpr absent
      rw [(Parameter.read_eq_ok_iff made).mpr decoded] at nothing
      cases nothing
    · rw [default, required] at stands
      cases stands

end DispatchUnit.Realizes

/-- **The first binding of an input decides whether the input may be absent.**  With a default there the
parameter is optional and the input is spared; without one it is needed, also if a later binding of the same
input has a default.  A service that is not registered keeps a request from being bound in any case. -/
theorem default_of_first {σ : Type} {config : CompilerConfig} {w w' : Workshop σ} {a : Action σ}
    {e : Endpoint σ} {events : List Event} {registry : Registry σ} {b : Binding σ}
    (compiled : compile config w a = (.ok e, w', events)) (grown : w'.registry.Grows registry)
    (input : b ∈ a.inputBindings) :
    ∃ first p, a.firstOf? b = some first ∧ p ∈ e.unit.parameters ∧ a.plan.slotOf? b = some p.position ∧
      p.optional = first.default?.isSome ∧
      (∀ v, first.default? = some v → e.unit.Spares registry p v) ∧
      (first.default? = none → e.unit.Needs registry p) ∧
      ∀ name, b.source = .service → b.type.ty = .service name → ∀ r services s,
        services.get? name = none →
          p.bind r services s = .error (.serviceUnavailable b.type.name) ∧
          ∀ args, bindAll e.unit.parameters r services s ≠ .ok args := by
  obtain ⟨wellFormed, -, realizes, -⟩ := compile_realizes compiled
  have realizes := realizes.grows grown
  obtain ⟨first, found, -, same⟩ := Action.firstOf?_of_mem input
  obtain ⟨p, stands, made⟩ := realizes.exists_parameter found
  have member := List.mem_of_getElem? stands
  obtain ⟨position, -, -, optional, -⟩ := Parameter.of_ofBinding? made
  refine ⟨first, p, found, member, by rw [position, Action.slotOf?_plan input], optional,
    fun v value => realizes.spares found member made value, realizes.needs wellFormed input found member made,
    fun name source named r services s missing => ?_⟩
  have type := Binding.type_eq_of_identity same
  have unavailable : p.bind r services s = .error (.serviceUnavailable b.type.name) := by
    have kind : first.kind = .service := (congrArg Identity.kind same).trans (congrArg Source.kind source)
    rw [Parameter.bind_of_unregistered made kind (type.trans named) missing, ValueType.name, type]
    rfl
  refine ⟨unavailable, fun args bound => ?_⟩
  cases unavailable.symm.trans (realizes.bind_of_bindAll member bound)

/-- A search without a text is one for the empty text. -/
theorem searchNotes_spares :
    let b : Binding NoteStore := (Binding.query .text "q").withDefault (Notes.textDefault "")
    ∃ (e : Endpoint NoteStore) (w : Workshop NoteStore) (events : List Event) (p : Parameter NoteStore),
      compile {} .empty Notes.searchNotes = (.ok e, w, events) ∧ w.registry.Grows w.registry ∧
        b ∈ Notes.searchNotes.inputBindings ∧ p ∈ e.unit.parameters ∧
        Notes.searchNotes.plan.slotOf? b = some p.position ∧ p.optional = true ∧
        e.unit.Spares w.registry p (Notes.textDefault "") := by
  intro b
  have formed := Notes.wellFormed_of_mem (a := Notes.searchNotes) (by simp [Notes.actions])
  obtain ⟨e, w, events, compiled⟩ := exists_compile_of_wellFormed {} .empty formed
  have input : b ∈ Notes.searchNotes.inputBindings := .tail _ (.head _)
  obtain ⟨first, p, found, member, slot, optional, spares, -⟩ := default_of_first compiled .refl input
  have own : Notes.searchNotes.firstOf? b = some b := by
    subst b
    rfl
  cases own.symm.trans found
  exact ⟨e, w, events, p, compiled, .refl, input, member, slot, optional, spares _ rfl⟩

namespace Notes

/-- An action that reads one entry of the query twice; only the second binding has a default. -/
def repeatTag : Action NoteStore :=
  ((Builder.start "GET" "/late")
    |>.withBinding (.query .text "tag")
    |>.handledBy (handler [.text] .text fun (tag, _) s => (tag, s))
    |>.withBinding (.previous .text)
    |>.withBinding ((Binding.query .text "tag").withDefault (textDefault "z"))
    |>.handledBy (handler [.text, .text] .text fun (x, y, _) s => (String.append x y, s))).build

/-- An action that has a store by default, and takes a number of it. -/
def takeNext : Action NoteStore :=
  ((Builder.start "GET" "/next")
    |>.withBinding ((Binding.service storeName).withDefault ⟨store, (0 : Nat)⟩)
    |>.handledBy (handler [store] (.int .u64) fun _ s => s.takeId)).build

end Notes

/-- Both actions compile, and both defaults are lost: that of the entry since the first binding has none, and
that of the store since it is not registered. -/
theorem later_default_lost :
    let r : RequestInput := ⟨default, []⟩
    ∃ (e e' : Endpoint NoteStore) (w w' : Workshop NoteStore) (events events' : List Event),
      compile {} .empty Notes.repeatTag = (.ok e, w, events) ∧
        compile {} w Notes.takeNext = (.ok e', w', events') ∧
        (Binding.query .text "tag").withDefault (Notes.textDefault "z") ∈ Notes.repeatTag.inputBindings ∧
        e.unit.parameters.map Parameter.optional = [false] ∧
        (e.unit.invoke w'.registry (.withLength 1) (.detached .empty) .empty).1 = .error (.missingArgument 1) ∧
        bindAll e.unit.parameters r .empty NoteStore.empty = .error (.missing "query" "tag") ∧
        e'.unit.parameters.map Parameter.optional = [true] ∧
        bindAll e'.unit.parameters r .empty NoteStore.empty =
          .error (.serviceUnavailable Notes.store.name) := by
  intro r
  have twice : Notes.repeatTag.WellFormed := Action.wellFormed_of_prepared rfl rfl ⟨_, rfl⟩
  have next : Notes.takeNext.WellFormed := Action.wellFormed_of_prepared rfl rfl ⟨_, rfl⟩
  obtain ⟨e, w, events, compiled⟩ := exists_compile_of_wellFormed {} .empty twice
  obtain ⟨e', w', events', compiled'⟩ := exists_compile_of_wellFormed {} w next
  obtain ⟨-, -, realizes, -⟩ := compile_realizes compiled
  obtain ⟨-, -, realizes', grown⟩ := compile_realizes compiled'
  have parameters : e.unit.parameters = _ := Except.ok.inj realizes.parameters.symm
  have parameters' : e'.unit.parameters = _ := Except.ok.inj realizes'.parameters.symm
  refine ⟨e, e', w, w', events, events', compiled, compiled', .tail _ (.head _), ?_, ?_, ?_, ?_, ?_⟩
  · rw [parameters]
    rfl
  · rw [(realizes.grows grown).invoke_eq_meaning twice.toValid]
    rfl
  · rw [parameters]
    rfl
  · rw [parameters']
    rfl
  · rw [parameters']
    rfl

end HandlerChain
