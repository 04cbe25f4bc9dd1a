import HandlerChain.Proofs.Soundness

/-!
# Results and their encodings

A run of an action has two parts.  The handlers are called one after the other and leave a result; then the
result is given out as it is, or shown by the one target that the action has.  What is encoded, in a response
or for a view, is therefore always the result that the last handler left.

The result carries the description that its step declares.  Its type was compared with that of the handler,
so the value is what the description says it is; whether the description has an encoding was not compared,
and a step may declare one that has none.

## Main Definitions

* `Action.result` is what the handlers of an action leave, `Action.deliver` what becomes of it.
* `Action.lastHandler?` is the last step that calls a handler.
* `Step.Leaves` says that a value is the result of a step.

## Main Results

* `Action.WellFormed.meaning_eq_deliver`: a run delivers the result.
* `Action.WellFormed.leaves_of_result`: the result is that of the last handler.
* `TypedValue.encode_eq_error_iff`: why a value that is what its description says is not encoded.
* `compiled_result_encodes` puts these together for all actions that compile.
* `plain_result_not_encoded`: a result that is declared without an encoding.
-/

namespace HandlerChain

/-! ### Encodings -/

/-- A value of the described type is encoded if the description has an encoding, and then only its own encoding
can fail. -/
theorem TypedValue.encode_of_typed {v : TypedValue} (typed : v.value.ty = v.type.ty) :
    v.encode =
      if v.type.encodable then (v.value.ty.encode v.value.val).mapError .refused
      else .error (.notSerializable v.type.name) := by
  obtain ⟨⟨ty, encodable⟩, ⟨ty', val⟩⟩ := v
  obtain rfl : ty' = ty := typed
  cases encodable <;> simp [encode, ValueType.encode, Dyn.as?]

/-- **Why a value that is what its description says is not encoded**: the description has no encoding, or the
encoding of the value itself fails. -/
theorem TypedValue.encode_eq_error_iff {v : TypedValue} (typed : v.value.ty = v.type.ty)
    {cause : EncodeError} :
    v.encode = .error cause ↔
      (v.type.encodable = false ∧ cause = .notSerializable v.type.name) ∨
      (v.type.encodable = true ∧ ∃ reason, v.value.ty.encode v.value.val = .error reason ∧
        cause = .refused reason) := by
  rw [encode_of_typed typed]
  cases v.type.encodable with
  | false => simp [eq_comm]
  | true => cases encoded : v.value.ty.encode v.value.val <;> simp [Except.mapError, eq_comm]

/-! ### Results -/

/-- A value is the result of a step: its handler returned it, and it has the description that the step
declares. -/
structure Step.Leaves {σ : Type} (step : Step σ) (l : Logic σ) (v : TypedValue) : Prop where
  handler : step.logic? = some l
  declared : step.returnType? = some v.type
  described : v.type.ty = l.returns
  returned : v.value.ty = l.returns

namespace Action

variable {σ : Type}

/-- The steps of a chain that call handlers. -/
def handlerSteps (steps : List (Step σ)) : List (Step σ) := steps.filter fun step => !step.kind.isRender

/-- The last step of an action that calls a handler. -/
def lastHandler? (a : Action σ) : Option (Step σ) := (handlerSteps a.steps).getLast?

/-- What the handlers of the steps from number `index` on leave after a result, up to the end of the chain or
the step that shows the result. -/
def resultFrom (a : Action σ) (args : Arguments) (host : Host σ) :
    Nat → Option TypedValue → List (Step σ) → σ → Except DispatchError TypedValue × σ
  | index, previous, [], s => (previous.elim (.error (.noPreviousResult index)) .ok, s)
  | index, previous, step :: rest, s =>
    match step.renderTarget?, step.logic? with
    | some _, _ => (previous.elim (.error (.noPreviousResult index)) .ok, s)
    | none, none => (.error (.unknownHandler ""), s)
    | none, some l =>
      match a.handle args host index previous step.bindings l s with
      | (.error e, s) => (.error e, s)
      | (.ok v, s) =>
        a.resultFrom args host (index + 1) (step.returnType?.map fun t => ⟨t, v⟩) rest s

/-- What the handlers of an action leave. -/
def result (a : Action σ) (args : Arguments) (host : Host σ) (s : σ) : Except DispatchError TypedValue × σ :=
  a.resultFrom args host 0 none a.steps s

/-- What becomes of a result: it is the model of the target of the action, or the outcome if there is no
target. -/
def deliver (a : Action σ) (host : Host σ) :
    Except DispatchError TypedValue × σ → Except DispatchError Outcome × σ
  | (.error e, s) => (.error e, s)
  | (.ok v, s) =>
    match a.finalRenderTarget? with
    | some t => present host t v s
    | none => (.ok (.value v), s)

variable {a : Action σ} {args : Arguments} {host : Host σ} {index : Nat} {step : Step σ}
  {previous : Option TypedValue}

/-- A result that comes to the caller is not shown. -/
theorem deliver_eq_value_iff {x : Except DispatchError TypedValue × σ} {v : TypedValue} {s' : σ} :
    a.deliver host x = (.ok (.value v), s') ↔ a.finalRenderTarget? = none ∧ x = (.ok v, s') := by
  rcases x with ⟨_ | u, s⟩
  · simp [deliver]
  · cases target : a.finalRenderTarget? with
    | none => simp [deliver, target]
    | some t =>
        rcases shown : host.render ⟨t.kind, t.target, u⟩ s with ⟨_ | _, _⟩ <;>
          simp [deliver, target, present, shown]

/-- A page is a result that the target of the action shows. -/
theorem exists_of_deliver_eq_rendered {x : Except DispatchError TypedValue × σ} {page : Rendered} {s' : σ}
    (delivered : a.deliver host x = (.ok (.rendered page), s')) :
    ∃ t v s, a.finalRenderTarget? = some t ∧ x = (.ok v, s) ∧
      host.render ⟨t.kind, t.target, v⟩ s = (.ok page, s') := by
  rcases x with ⟨_ | v, s⟩
  · simp [deliver] at delivered
  · cases target : a.finalRenderTarget? with
    | none => simp [deliver, target] at delivered
    | some t =>
        rcases shown : host.render ⟨t.kind, t.target, v⟩ s with ⟨_ | _, _⟩
        · simp [deliver, target, present, shown] at delivered
        · obtain ⟨rfl, rfl⟩ : _ = page ∧ _ = s' := by simpa [deliver, target, present, shown] using delivered
          exact ⟨t, v, s, rfl, rfl, shown⟩

/-- What a handler returns is of its type. -/
theorem ty_of_handle {bs : List (Binding σ)} {l : Logic σ} {v : Dyn} {s s' : σ}
    (handled : a.handle args host index previous bs l s = (.ok v, s')) : v.ty = l.returns := by
  unfold handle at handled
  rcases given : a.arguments args host index previous bs s with ⟨e | vs, s''⟩
  · simp [given] at handled
  · cases accepted : Args.ofList l.params vs with
    | error e => simp [given, accepted] at handled
    | ok xs =>
        simp only [given, accepted, Prod.mk.injEq, Except.ok.injEq] at handled
        rw [← handled.1]
        rfl

namespace WellFormed

/-- **A run delivers the result**, from any step on.  The induction is on the steps that are left; only the
last one may show the result, and then the action has no other target. -/
theorem meaningFrom_eq_deliver (wellFormed : a.WellFormed) {steps : List (Step σ)} {s : σ}
    (left : a.steps.drop index = steps) (plain : steps = [] → a.finalRenderTarget? = a.view?) :
    a.meaningFrom args host index previous steps s =
      a.deliver host (a.resultFrom args host index previous steps s) := by
  induction steps generalizing index previous s with
  | nil =>
      cases previous with
      | none => rfl
      | some v =>
          cases view : a.view? <;> simp [meaningFrom, finish, resultFrom, deliver, plain rfl, view]
  | cons step rest ih =>
      have found := getElem?_of_drop left
      have member := List.mem_of_getElem? found
      have last (ended : rest = []) : a.steps.getLast? = some step := getLast?_of_drop (ended ▸ left)
      cases render : step.kind.isRender with
      | true =>
          obtain ⟨t, target⟩ := Option.isSome_iff_exists.mp (wellFormed.targets step member render)
          have shown : a.finalRenderTarget? = some t := by
            rw [finalRenderTarget?, (wellFormed.renders index step found render).alone,
              last (wellFormed.eq_nil_of_isRender left render), Option.bind_some, target]
            rfl
          cases previous <;> simp [meaningFrom, resultFrom, target, deliver, shown]
      | false =>
          obtain ⟨l, logic⟩ := Option.isSome_iff_exists.mp (wellFormed.handled step member render)
          have target := Step.renderTarget?_of_not_isRender render
          simp only [meaningFrom, resultFrom, target, logic]
          rcases a.handle args host index previous step.bindings l s with ⟨e | v, s'⟩
          · rfl
          · refine ih (drop_succ_of_drop left) fun ended => ?_
            rw [finalRenderTarget?, last ended, Option.bind_some, target, Option.orElse_eq_orElse,
              Option.orElse_eq_or, Option.or_none]

theorem meaning_eq_deliver (wellFormed : a.WellFormed) (args : Arguments) (host : Host σ) (s : σ) :
    a.meaning args host s = a.deliver host (a.result args host s) :=
  wellFormed.meaningFrom_eq_deliver List.drop_zero fun none => absurd none wellFormed.nonempty

/-- **The result of the rest of a run is that of the last handler**, if what it starts from is the result of
the handler before. -/
theorem leaves_of_resultFrom (wellFormed : a.WellFormed) {steps : List (Step σ)} {s s' : σ} {v : TypedValue}
    (left : a.steps.drop index = steps)
    (before : ∀ p, previous = some p →
      ∃ step l, (handlerSteps (a.steps.take index)).getLast? = some step ∧ step.Leaves l p)
    (ran : a.resultFrom args host index previous steps s = (.ok v, s')) :
    ∃ step l, a.lastHandler? = some step ∧ step.Leaves l v := by
  induction steps generalizing index previous s with
  | nil =>
      have all : a.steps.take index = a.steps := List.take_of_length_le (List.drop_eq_nil_iff.mp left)
      cases previous with
      | none => simp [resultFrom] at ran
      | some p =>
          cases ran
          rw [lastHandler?, ← all]
          exact before _ rfl
  | cons step rest ih =>
      have found := getElem?_of_drop left
      have member := List.mem_of_getElem? found
      cases render : step.kind.isRender with
      | true =>
          obtain ⟨t, target⟩ := Option.isSome_iff_exists.mp (wellFormed.targets step member render)
          have ended := wellFormed.eq_nil_of_isRender left render
          have split := List.take_append_drop index a.steps
          rw [left, ended] at split
          have all : handlerSteps a.steps = handlerSteps (a.steps.take index) :=
            calc handlerSteps a.steps
                = handlerSteps (a.steps.take index ++ [step]) := by rw [split]
              _ = handlerSteps (a.steps.take index) := by simp [handlerSteps, render]
          cases previous with
          | none => simp [resultFrom, target] at ran
          | some p =>
              simp only [resultFrom, target, Option.elim_some, Prod.mk.injEq, Except.ok.injEq] at ran
              rw [lastHandler?, all, ← ran.1]
              exact before p rfl
      | false =>
          obtain ⟨l, logic⟩ := Option.isSome_iff_exists.mp (wellFormed.handled step member render)
          have fits := wellFormed.fits step member render l logic
          simp only [resultFrom, Step.renderTarget?_of_not_isRender render, logic] at ran
          rcases handled : a.handle args host index previous step.bindings l s with ⟨e | u, s''⟩
          · simp [handled] at ran
          · simp only [handled] at ran
            refine ih (drop_succ_of_drop left) (fun p held => ⟨step, l, ?_, ?_⟩) ran
            · rw [take_succ_of_drop left]
              simp [handlerSteps, render]
            · obtain ⟨t, declares, rfl⟩ := Option.map_eq_some_iff.mp held
              exact ⟨logic, declares, fits.returns t declares, ty_of_handle handled⟩

theorem leaves_of_result (wellFormed : a.WellFormed) {s s' : σ} {v : TypedValue}
    (ran : a.result args host s = (.ok v, s')) : ∃ step l, a.lastHandler? = some step ∧ step.Leaves l v := by
  refine wellFormed.leaves_of_resultFrom List.drop_zero ?_ ran
  rintro p ⟨⟩

end WellFormed

end Action

/-- **A result is what its description says.**  A run of a compiled action delivers the result of its last
handler, to the caller or to a view, under the description that the step declares.  The value is of the
described type, so that it is not encoded has one of two causes: the description that the step declares has no
encoding, or the encoding of the value itself fails.  The description that the handler itself has does have an
encoding, if what it returns is data. -/
theorem compiled_result_encodes {σ : Type} {config : CompilerConfig} {w w' : Workshop σ} {a : Action σ}
    {e : Endpoint σ} {events : List Event} {registry : Registry σ}
    (compiled : compile config w a = (.ok e, w', events)) (grown : w'.registry.Grows registry)
    (args : Arguments) (host : Host σ) (s : σ) :
    e.unit.invoke registry args host s = a.deliver host (a.result args host s) ∧
    ∀ v s', a.result args host s = (.ok v, s') →
      ∃ step l, a.lastHandler? = some step ∧ step.Leaves l v ∧
        (∀ cause, v.encode = .error cause ↔
          (v.type.encodable = false ∧ cause = .notSerializable v.type.name) ∨
          (v.type.encodable = true ∧ ∃ reason, v.value.ty.encode v.value.val = .error reason ∧
            cause = .refused reason)) ∧
        (step.returnType? = some l.returnType → l.returns.isData = true → v.type.encodable = true) := by
  obtain ⟨wellFormed, -, realizes, -⟩ := compile_realizes compiled
  refine ⟨?_, fun v s' ran => ?_⟩
  · rw [(realizes.grows grown).invoke_eq_meaning wellFormed.toValid, wellFormed.meaning_eq_deliver]
  · obtain ⟨step, l, last, leaves⟩ := wellFormed.leaves_of_result ran
    have typed : v.value.ty = v.type.ty := leaves.returned.trans leaves.described.symm
    refine ⟨step, l, last, leaves, fun cause => v.encode_eq_error_iff typed, fun own data => ?_⟩
    have description : v.type = l.returnType := Option.some.inj (leaves.declared.symm.trans own)
    rw [description]
    exact data

/-- Only the encoding of the note itself could keep a page from showing it. -/
theorem renderNote_result_encodes :
    let args : Arguments :=
      .ofValues [⟨.service Notes.storeName, (0 : Nat)⟩, ⟨.int .u64, IntKind.wrap .u64 7⟩]
    let note : Notes.noteType.Denote := Notes.noteValue ⟨IntKind.wrap .u64 7, "Not found", ""⟩
    ∃ (e : Endpoint NoteStore) (w : Workshop NoteStore) (events : List Event),
      compile {} .empty Notes.renderNote = (.ok e, w, events) ∧ w.registry.Grows w.registry ∧
        Notes.renderNote.result args (.detached .empty) .empty =
          (.ok ⟨.encoded Notes.noteType, Notes.noteType, note⟩, .empty) ∧
        ∀ cause, TypedValue.encode ⟨.encoded Notes.noteType, Notes.noteType, note⟩ = .error cause →
          ∃ reason, Notes.noteType.encode note = .error reason ∧ cause = .refused reason := by
  intro args note
  have formed := Notes.wellFormed_of_mem (a := Notes.renderNote) (by simp [Notes.actions])
  obtain ⟨e, w, events, compiled⟩ := exists_compile_of_wellFormed {} .empty formed
  have ran : Notes.renderNote.result args (.detached .empty) .empty =
      (.ok ⟨.encoded Notes.noteType, Notes.noteType, note⟩, .empty) := rfl
  refine ⟨e, w, events, compiled, .refl, ran, fun cause failed => ?_⟩
  obtain ⟨-, encodes⟩ := compiled_result_encodes compiled .refl args (.detached .empty) .empty
  obtain ⟨step, l, last, leaves, causes, own⟩ := encodes _ _ ran
  cases last
  cases leaves.handler
  rcases (causes cause).mp failed with ⟨bare, -⟩ | ⟨-, refused⟩
  · cases (own rfl rfl).symm.trans bare
  · exact refused

/-- An action that says hello; the description of its result is set by hand, and has no encoding. -/
def plainHello : Action NoteStore :=
  { method := "GET"
    route := "/plain"
    steps := [{ Step.ofLogic .function [] (Notes.handler [] .text fun _ s => ("hello", s)) with
      returnType? := some (.plain .text) }] }

/-- The action compiles, since its result is a text, and the text is not encoded. -/
theorem plain_result_not_encoded :
    ∃ (e : Endpoint NoteStore) (w : Workshop NoteStore) (events : List Event) (v : TypedValue),
      compile {} .empty plainHello = (.ok e, w, events) ∧
        e.unit.invoke w.registry (.ofValues []) (.detached .empty) .empty = (.ok (.value v), .empty) ∧
        v.encode = .error (.notSerializable "alloc::string::String") := by
  have formed : plainHello.WellFormed := Action.wellFormed_of_prepared rfl rfl ⟨_, rfl⟩
  obtain ⟨e, w, events, compiled⟩ := exists_compile_of_wellFormed {} .empty formed
  obtain ⟨-, -, realizes, -⟩ := compile_realizes compiled
  refine ⟨e, w, events, ⟨.plain .text, .text, "hello"⟩, compiled, ?_, rfl⟩
  rw [realizes.invoke_eq_meaning formed.toValid]
  rfl

end HandlerChain
