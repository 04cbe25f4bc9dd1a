import HandlerChain.Action.Builder
import HandlerChain.Proofs.Compilation
import HandlerChain.Proofs.Verdicts

/-!
# What is left for synthesis to find

Synthesis can fail in many ways, but it comes after other passes.  A binding of the surroundings has their type
from the start, the plan has a slot for every input, and validation asks for the handlers; what is left is that a
step and what it calls do not fit each other.  A builder takes what a step declares from the handler itself, so
that of an action that is built only the arguments are left.

## Main Definitions

* `Step.Mismatch` says in what a step and what it calls do not fit each other.
* `Builder.Call` is a call of a builder, `Builder.run` a sequence of them.
* `Step.Faithful`: a step declares what its handler is.

## Main Results

* `mismatch_of_compile`: synthesis fails for a mismatch only.
* `Builder.faithful_run`: the steps of an action that is built are faithful.
* `synthesis_mismatches` says which failures are left.
-/

namespace HandlerChain

variable {σ : Type}

/-- A step and what it calls do not fit each other, and the failure that reports it. -/
inductive Step.Mismatch (s : Step σ) (i : Nat) : SynthesisFailure → Prop where
  | bindings : maxArity < s.bindings.length →
      Mismatch s i (.unsupportedArity i s.bindings.length maxArity)
  | parameters {l : Logic σ} : s.logic? = some l → maxArity < l.arity →
      Mismatch s i (.unsupportedArity i l.arity maxArity)
  | arity {l : Logic σ} : s.logic? = some l → l.arity ≠ s.bindings.length →
      Mismatch s i (.arity i s.bindings.length l.arity)
  | argument {l : Logic σ} {j : Nat} {b : Binding σ} {t : Ty} : s.logic? = some l →
      s.bindings[j]? = some b → l.params[j]? = some t → b.type.ty ≠ t →
      Mismatch s i (.argumentType i (j + 1) b.type.name t.name)
  | returnType {l : Logic σ} {t : ValueType} : s.logic? = some l → s.returnType? = some t →
      t.ty ≠ l.returns → Mismatch s i (.returnType i t.name l.returns.name)
  | suspension {l : Logic σ} : s.logic? = some l → s.suspends ≠ l.suspends →
      Mismatch s i (.suspension i s.suspends)
  | target : s.kind.isRender = true → s.renderTarget? = none → Mismatch s i (.missingRenderTarget i)

namespace Step

variable {s : Step σ} {i : Nat} {plan : Plan σ} {e : SynthesisFailure}

theorem of_wrongArgument {bs : List (Binding σ)} {ts : List Ty} {position : Nat}
    (wrong : wrongArgument i position bs ts = some e) :
    ∃ j b t, bs[j]? = some b ∧ ts[j]? = some t ∧ b.type.ty ≠ t ∧
      e = .argumentType i (position + j) b.type.name t.name := by
  induction bs generalizing ts position with
  | nil => simp [wrongArgument] at wrong
  | cons b bs ih =>
      cases ts with
      | nil => simp [wrongArgument] at wrong
      | cons t ts =>
          rw [wrongArgument] at wrong
          split at wrong
          · obtain ⟨j, c, u, bound, taken, differ, rfl⟩ := ih wrong
            exact ⟨j + 1, c, u, bound, taken, differ, by rw [Nat.add_right_comm, Nat.add_assoc]⟩
          · rename_i differ
            cases wrong
            exact ⟨0, b, t, rfl, rfl, differ, rfl⟩

theorem mismatch_of_logicFailure {l : Logic σ} (logic : s.logic? = some l)
    (fails : s.logicFailure i l = some e) : s.Mismatch i e := by
  unfold logicFailure at fails
  split at fails
  · rename_i many
    cases fails
    exact .parameters logic many
  split at fails
  · rename_i differ
    cases fails
    exact .arity logic differ
  cases wrong : wrongArgument i 1 s.bindings l.params with
  | some e' =>
      simp only [wrong, Option.some.injEq] at fails
      subst fails
      obtain ⟨j, b, t, bound, taken, differ, rfl⟩ := of_wrongArgument wrong
      rw [Nat.add_comm]
      exact .argument logic bound taken differ
  | none =>
      have suspends (rest : (if s.suspends ≠ l.suspends then some (.suspension i s.suspends) else none) = some e) :
          s.Mismatch i e := by
        split at rest
        · rename_i differ
          cases rest
          exact .suspension logic differ
        · cases rest
      cases declared : s.returnType? with
      | none =>
          simp only [wrong, declared] at fails
          exact suspends fails
      | some t =>
          by_cases same : t.ty = l.returns
          · simp only [wrong, declared, ValueType.same, Logic.returnType, ValueType.encoded, same, beq_self_eq_true,
              ↓reduceIte] at fails
            exact suspends fails
          · simp only [wrong, declared, ValueType.same, Logic.returnType, ValueType.encoded, beq_iff_eq, same,
              ↓reduceIte, Option.some.injEq] at fails
            exact fails ▸ .returnType logic declared same

theorem mismatch_of_prepare (planned : ∀ b ∈ s.bindings, b.isMethodLevel = true → (plan.slotOf? b).isSome)
    (handled : s.kind.isRender = false → s.logic?.isSome) (failed : s.prepare i plan = .error e) :
    s.Mismatch i e := by
  obtain ⟨args, sources⟩ := exists_argumentSources i plan planned
  unfold prepare at failed
  split at failed
  · rename_i many
    cases failed
    exact .bindings many
  simp only [sources] at failed
  cases render : s.kind.isRender with
  | true =>
      cases target : s.renderTarget? with
      | none =>
          simp only [render, target, ↓reduceIte, Except.error.injEq] at failed
          exact failed ▸ .target render target
      | some t => simp [render, target] at failed
  | false =>
      obtain ⟨l, logic⟩ := Option.isSome_iff_exists.mp (handled render)
      cases fails : s.logicFailure i l with
      | none => simp [render, logic, fails] at failed
      | some e' =>
          simp only [render, logic, fails, Bool.false_eq_true, ↓reduceIte, Except.error.injEq] at failed
          exact failed ▸ mismatch_of_logicFailure logic fails

end Step

/-! ### Failures of synthesis -/

theorem exists_prepare_of_prepareSteps {plan : Plan σ} {i : Nat} {steps : List (Step σ)} {e : SynthesisFailure}
    (failed : prepareSteps plan i steps = .error e) :
    ∃ j, ∃ s : Step σ, steps[j]? = some s ∧ s.prepare (i + j) plan = .error e := by
  induction steps generalizing i with
  | nil => cases failed
  | cons s rest ih =>
      rw [prepareSteps] at failed
      cases one : s.prepare i plan with
      | error e' =>
          simp only [one, Except.error.injEq] at failed
          exact ⟨0, s, rfl, failed ▸ one⟩
      | ok call =>
          cases all : prepareSteps plan (i + 1) rest with
          | ok more => simp [one, all, Except.map] at failed
          | error e' =>
              simp only [one, all, Except.map, Except.error.injEq] at failed
              subst failed
              obtain ⟨j, t, found, prepared⟩ := ih all
              exact ⟨j + 1, t, found, by rwa [← Nat.add_assoc, Nat.add_right_comm]⟩

theorem mismatch_of_prepareAction {a : Action σ} (valid : a.Valid) {e : SynthesisFailure}
    (failed : prepareAction a a.plan = .error e) :
    ∃ i, ∃ s : Step σ, a.steps[i]? = some s ∧ s.Mismatch i e := by
  obtain ⟨parameters, made⟩ := a.exists_parameters
  rw [prepareAction, made] at failed
  cases prepared : prepareSteps a.plan 0 a.steps with
  | ok calls => simp [prepared, Except.map] at failed
  | error e' =>
      simp only [prepared, Except.map, Except.error.injEq] at failed
      subst failed
      obtain ⟨i, s, found, prepared⟩ := exists_prepare_of_prepareSteps prepared
      rw [Nat.zero_add] at prepared
      have member := List.mem_of_getElem? found
      refine ⟨i, s, found, Step.mismatch_of_prepare (fun b bound level => ?_) (valid.handled s member) prepared⟩
      rw [Action.slotOf?_plan (mem_inputBindings.mpr ⟨⟨s, member, bound⟩, level⟩), Option.isSome_some]

/-- **Synthesis fails for a mismatch only.** -/
theorem mismatch_of_compile {config : CompilerConfig} {w : Workshop σ} {a : Action σ} {endpoint : String}
    {cause : SynthesisFailure} (failed : (compile config w a).1 = .error (.synthesis endpoint cause)) :
    endpoint = a.display ∧ ∃ i, ∃ s : Step σ, a.steps[i]? = some s ∧ s.Mismatch i cause := by
  have valid : a.Valid := by
    by_contra invalid
    simp [compile_fst_of_not_valid config w invalid] at failed
  have named : a.RoutesNamed := by
    by_contra stray
    obtain ⟨_, refused⟩ := compile_fst_of_not_routesNamed config w valid stray
    simp [refused] at failed
  rw [compile_of_routesNamed config w valid named, synthesize] at failed
  cases prepared : prepareAction a a.plan with
  | ok r => simp [prepared] at failed
  | error e =>
      simp only [prepared, Except.error.injEq, CompileError.synthesis.injEq] at failed
      obtain ⟨rfl, rfl⟩ := failed
      exact ⟨rfl, mismatch_of_prepareAction valid prepared⟩

/-! ### Actions that are built -/

/-- A call of a builder. -/
inductive Builder.Call (σ : Type) where
  | id (s : String)
  | title (s : String)
  | description (s : String)
  | groupBy (s : String)
  | ignoreApi
  | tag (t : Tag)
  | tagClass (t : Tag)
  | inherit (s : String)
  | withBinding (b : Binding σ)
  | handledBy (l : Logic σ)
  | sideEffect (l : Logic σ)
  | toTarget (name : String) (l : Logic σ)
  | render (t : ViewTarget)
  | withView (t : ViewTarget)

namespace Builder

/-- What a call makes of a builder. -/
def after (b : Builder σ) : Call σ → Builder σ
  | .id s => b.id s
  | .title s => b.title s
  | .description s => b.description s
  | .groupBy s => b.groupBy s
  | .ignoreApi => b.ignoreApi
  | .tag t => b.tag t
  | .tagClass t => b.tagClass t
  | .inherit s => b.inherit s
  | .withBinding binding => b.withBinding binding
  | .handledBy l => b.handledBy l
  | .sideEffect l => b.sideEffect l
  | .toTarget name l => b.toTarget name l
  | .render t => b.render t
  | .withView t => b.withView t

/-- What a sequence of calls makes of a builder. -/
def run (b : Builder σ) (calls : List (Call σ)) : Builder σ := calls.foldl after b

end Builder

/-- A step declares what its handler is, and a step that renders has a target. -/
structure Step.Faithful (s : Step σ) : Prop where
  handled : s.kind.isRender = false → s.logic?.isSome
  declared : s.kind.needsValue = true → s.returnType?.isSome
  returns : ∀ l t, s.logic? = some l → s.returnType? = some t → t.ty = l.returns
  suspends : ∀ l, s.logic? = some l → s.suspends = l.suspends
  target : s.kind.isRender = true → s.renderTarget?.isSome

theorem Step.faithful_ofLogic {kind : StepKind} (render : kind.isRender = false) (bs : List (Binding σ))
    (l : Logic σ) (component? : Option String) :
    { Step.ofLogic kind bs l with component? := component? }.Faithful where
  handled _ := rfl
  declared needs := by
    have produces : kind ≠ .sideEffect := by
      rintro rfl
      cases needs
    simp [ofLogic, produces]
  returns l' t same declares := by
    cases same
    simp only [ofLogic, Option.ite_none_left_eq_some, Option.some.injEq] at declares
    rw [← declares.2]
    rfl
  suspends l' same := by
    cases same
    rfl
  target renders := by
    rw [ofLogic, render] at renders
    cases renders

theorem Step.faithful_ofTarget (t : ViewTarget) (bs : List (Binding σ)) : (Step.ofTarget t bs).Faithful := by
  obtain ⟨kind, target⟩ := t
  constructor
  · cases kind <;> intro calls <;> cases calls
  · cases kind <;> intro needs <;> cases needs
  · intro l t absent
    cases absent
  · intro l absent
    cases absent
  · intro _
    cases kind <;> rfl

namespace Builder

variable {b : Builder σ}

theorem faithful_push (faithful : ∀ s ∈ b.action.steps, s.Faithful) {step : List (Binding σ) → Step σ}
    (next : ∀ bs, (step bs).Faithful) : ∀ s ∈ (b.push step).action.steps, s.Faithful := by
  intro s member
  rcases List.mem_append.mp member with old | new
  · exact faithful s old
  · rw [List.mem_singleton.mp new]
    exact next b.waiting

/-- A call adds a faithful step or none. -/
theorem faithful_after (faithful : ∀ s ∈ b.action.steps, s.Faithful) (call : Call σ) :
    ∀ s ∈ (b.after call).action.steps, s.Faithful := by
  cases call with
  | handledBy l => exact faithful_push faithful fun bs => Step.faithful_ofLogic rfl bs l _
  | sideEffect l => exact faithful_push faithful fun bs => Step.faithful_ofLogic rfl bs l _
  | toTarget name l => exact faithful_push faithful fun bs => Step.faithful_ofLogic rfl bs l _
  | render t => exact faithful_push faithful fun bs => Step.faithful_ofTarget t bs
  | _ => exact faithful

/-- **The steps of an action that is built are faithful**, whatever the calls. -/
theorem faithful_run (faithful : ∀ s ∈ b.action.steps, s.Faithful) (calls : List (Call σ)) :
    ∀ s ∈ (b.run calls).action.steps, s.Faithful := by
  induction calls generalizing b with
  | nil => exact faithful
  | cons call calls ih => exact ih (faithful_after faithful call)

end Builder

theorem Step.Faithful.mismatch_cases {s : Step σ} (faithful : s.Faithful) {i : Nat} {e : SynthesisFailure}
    (mismatch : s.Mismatch i e) :
    (∃ taken, e = .unsupportedArity i taken maxArity) ∨ (∃ declared accepted, e = .arity i declared accepted) ∨
      ∃ position bound expected, e = .argumentType i position bound expected := by
  cases mismatch with
  | bindings | parameters => exact .inl ⟨_, rfl⟩
  | arity => exact .inr (.inl ⟨_, _, rfl⟩)
  | argument => exact .inr (.inr ⟨_, _, _, rfl⟩)
  | returnType logic declares differ => exact absurd (faithful.returns _ _ logic declares) differ
  | suspension logic differ => exact absurd (faithful.suspends _ logic) differ
  | target renders missing => exact absurd (faithful.target renders) (by simp [missing])

/-- A faithful step has a handler and declares a type where validation asks for them. -/
theorem Action.not_mem_violations_of_faithful {a : Action σ} (faithful : ∀ s ∈ a.steps, s.Faithful)
    {v : Violation} (member : v ∈ a.violations) :
    (∀ i kind, v ≠ .noReturnType i kind) ∧ ∀ i kind, v ≠ .noLogic i kind := by
  rcases mem_violations.mp member with ⟨-, rfl⟩ | ⟨j, s, found, r, -, broken, rfl⟩
  · simp
  · have faithful := faithful s (List.mem_of_getElem? found)
    cases r with
    | declares => exact absurd (faithful.declared broken.1) (by simp [broken.2])
    | handled =>
        have calls : s.kind.isRender = false := by
          simpa [StepKind.invokesLogic] using broken.1
        exact absurd (faithful.handled calls) (by simpa using broken.2)
    | reads b =>
        simp only [Rule.violation]
        split
        · simp
        · split <;> simp
    | _ => simp [Rule.violation]

/-- **Only real mismatches reach synthesis.**  Whatever the action, synthesis never lacks a slot or a handler and
never finds a binding of the surroundings at another type; it fails because a step and what it calls do not fit
each other.  An action that is built, by whatever calls, declares what its handlers are: validation misses no type
and no handler in it, and synthesis can only find that there are too many arguments, more or fewer than the handler
takes, or one of another type. -/
theorem synthesis_mismatches (config : CompilerConfig) (w : Workshop σ) :
    (∀ (a : Action σ) (endpoint : String) (cause : SynthesisFailure),
      (compile config w a).1 = .error (.synthesis endpoint cause) →
        (∀ i binding, cause ≠ .missingSlot i binding) ∧
        (∀ i kind bound expected, cause ≠ .ambientType i kind bound expected) ∧
        (∀ i, cause ≠ .missingLogic i) ∧
        ∃ i, ∃ s : Step σ, a.steps[i]? = some s ∧ s.Mismatch i cause) ∧
    (∀ (method route : String) (calls : List (Builder.Call σ)),
      (∀ v ∈ ((Builder.start method route).run calls).build.violations,
        (∀ i kind, v ≠ .noReturnType i kind) ∧ ∀ i kind, v ≠ .noLogic i kind) ∧
      ∀ (endpoint : String) (cause : SynthesisFailure),
        (compile config w ((Builder.start method route).run calls).build).1 =
            .error (.synthesis endpoint cause) →
          (∃ i taken, cause = .unsupportedArity i taken maxArity) ∨
          (∃ i declared accepted, cause = .arity i declared accepted) ∨
          ∃ i position bound expected, cause = .argumentType i position bound expected) := by
  constructor
  · intro a endpoint cause failed
    obtain ⟨-, i, s, found, mismatch⟩ := mismatch_of_compile failed
    refine ⟨?_, ?_, ?_, i, s, found, mismatch⟩ <;>
      intros <;> rintro rfl <;> cases mismatch
  · intro method route calls
    have faithful : ∀ s ∈ ((Builder.start method route).run calls).build.steps, s.Faithful :=
      Builder.faithful_run (by simp [Builder.start]) calls
    refine ⟨fun v member => Action.not_mem_violations_of_faithful faithful member, fun endpoint cause failed => ?_⟩
    obtain ⟨-, i, s, found, mismatch⟩ := mismatch_of_compile failed
    rcases (faithful s (List.mem_of_getElem? found)).mismatch_cases mismatch with
      ⟨taken, rfl⟩ | ⟨declared, accepted, rfl⟩ | ⟨position, bound, expected, rfl⟩
    · exact .inl ⟨i, taken, rfl⟩
    · exact .inr (.inl ⟨i, declared, accepted, rfl⟩)
    · exact .inr (.inr ⟨i, position, bound, expected, rfl⟩)

namespace Notes

/-- A search that takes the number of a page for a text. -/
def misread : List (Builder.Call NoteStore) :=
  [.title "Misread", .withBinding (.query (.int .u32) "page"),
    .handledBy (handler [.text] .text fun (q, _) s => (q, s))]

/-- The failure of the search. -/
def misreadFailure : SynthesisFailure := .argumentType 0 1 (Ty.int .u32).name Ty.text.name

/-- A page that is shown before anything is done. -/
def hasty : List (Builder.Call NoteStore) := [.render ⟨.view, "note"⟩, .sideEffect greeting]

/-- The search fails for its argument, and the page is refused, but not for want of a type or a handler. -/
theorem misread_mismatch :
    (compile {} .empty ((Builder.start "GET" "/misread").run misread).build).1 =
      .error (.synthesis ((Builder.start "GET" "/misread").run misread).build.display misreadFailure) ∧
    (∃ i, ∃ s : Step NoteStore, ((Builder.start "GET" "/misread").run misread).build.steps[i]? = some s ∧
      s.Mismatch i misreadFailure) ∧
    ((∃ i taken, misreadFailure = .unsupportedArity i taken maxArity) ∨
      (∃ i declared accepted, misreadFailure = .arity i declared accepted) ∨
      ∃ i position bound expected, misreadFailure = .argumentType i position bound expected) ∧
    .renderNotLast 0 ∈ ((Builder.start "GET" "/hasty").run hasty).build.violations ∧
    (∀ i kind, Violation.renderNotLast 0 ≠ .noReturnType i kind) ∧
      ∀ i kind, Violation.renderNotLast 0 ≠ .noLogic i kind := by
  have failed : (compile {} .empty ((Builder.start "GET" "/misread").run misread).build).1 =
      .error (.synthesis ((Builder.start "GET" "/misread").run misread).build.display misreadFailure) := rfl
  obtain ⟨every, built⟩ := synthesis_mismatches {} (.empty : Workshop NoteStore)
  have refused : .renderNotLast 0 ∈ ((Builder.start "GET" "/hasty").run hasty).build.violations := by
    decide +kernel
  exact ⟨failed, (every _ _ _ failed).2.2.2, (built _ _ _).2 _ _ failed, refused, (built _ _ _).1 _ refused⟩

end Notes

end HandlerChain
