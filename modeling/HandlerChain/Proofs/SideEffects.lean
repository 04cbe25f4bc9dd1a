import HandlerChain.Proofs.Soundness

/-!
# What becomes of the results of side effects

The result of a step reaches the next step under the type that the step declares.  A side effect is made to
declare none, and then nothing reads its result: validation refuses a step that would, and a run is the same
whatever the side effect returns.  But the type is a field of its own, and neither validation nor a run looks
at the kind of the step; a side effect that declares what it returns is a function by another name.

Both are said by one relation, of chains that differ in their side effects only.  A run does not tell such
chains apart; what carries the induction is that the results before a step agree unless the step ignores them.

## Main Definitions

* `Step.IgnoresResult`: a step neither reads nor renders the result before.
* `Logic.returning` is a handler that does the same work and returns something else.
* `Step.Changes` says how a side effect may be changed, `EffectsChanged` says so of a chain.

## Main Results

* `Action.WellFormed.withEffects`: a chain with changed side effects still compiles.
* `EffectsChanged.meaningFrom_eq`: and does the same.
* `sideEffects_unread` puts these together, with what validation refuses.
* `sideEffect_overheard`: an accepted chain that returns what its side effect returned.
-/

namespace HandlerChain

variable {σ : Type}

/-- The handler that does the work of another and returns something else. -/
def Logic.returning (l : Logic σ) (t : Ty) (result : Args l.params → σ → t.Denote) : Logic σ where
  params := l.params
  returns := t
  suspends := l.suspends
  run args s := (result args s, (l.run args s).2)

/-- A step has no use for the result before. -/
structure Step.IgnoresResult (step : Step σ) : Prop where
  unrendered : step.kind.isRender = false
  unread : ∀ b ∈ step.bindings, b.source ≠ .previous

/-- A step may be changed into another, where `next?` is the step behind it. -/
inductive Step.Changes (next? : Option (Step σ)) : Step σ → Step σ → Prop
  /-- It need not be changed. -/
  | same (step : Step σ) : Changes next? step step
  /-- A side effect that declares what it returns may be a function. -/
  | function {step : Step σ} (effect : step.kind = .sideEffect) (declared : step.returnType?.isSome) :
      Changes next? step { step with kind := .function }
  /-- A side effect may declare nothing and return anything, if the step behind it ignores the result. -/
  | mute {step : Step σ} {l : Logic σ} (effect : step.kind = .sideEffect) (logic : step.logic? = some l)
      (ignored : ∃ next ∈ next?, next.IgnoresResult) (t : Ty) (result : Args l.params → σ → t.Denote) :
      Changes next? step { step with returnType? := none, logic? := some (l.returning t result) }

/-- The second chain is the first with some side effects changed. -/
inductive EffectsChanged : List (Step σ) → List (Step σ) → Prop
  | nil : EffectsChanged [] []
  | cons {step step' : Step σ} {rest rest' : List (Step σ)} (one : Step.Changes rest.head? step step')
      (more : EffectsChanged rest rest') : EffectsChanged (step :: rest) (step' :: rest')

namespace Step.Changes

variable {next? : Option (Step σ)} {step step' : Step σ}

theorem bindings_eq (changes : Changes next? step step') : step'.bindings = step.bindings := by
  cases changes <;> rfl

theorem isRender_eq (changes : Changes next? step step') : step'.kind.isRender = step.kind.isRender := by
  cases changes with
  | function effect => rw [effect]; rfl
  | _ => rfl

/-- Only side effects are changed. -/
theorem eq_of_isRender (changes : Changes next? step step') (render : step.kind.isRender = true) :
    step' = step := by
  cases changes with
  | same => rfl
  | function effect | mute effect => simp [effect, StepKind.isRender, StepKind.renderKind?] at render

/-- What a step declares is kept, unless the step behind it ignores the result. -/
theorem returnType?_eq (changes : Changes next? step step')
    (heeded : ∀ next ∈ next?, ¬next.IgnoresResult) : step'.returnType? = step.returnType? := by
  cases changes with
  | mute _ _ ignored =>
      obtain ⟨next, behind, ignores⟩ := ignored
      exact absurd ignores (heeded next behind)
  | _ => rfl

theorem yields (changes : Changes next? step step') (yields : step.kind ≠ .sideEffect) :
    step'.kind ≠ .sideEffect := by
  cases changes with
  | same => exact yields
  | function => simp
  | mute effect => exact absurd effect yields

theorem handled (changes : Changes next? step step') (handled : step.logic?.isSome) :
    step'.logic?.isSome := by
  cases changes with
  | same | function => exact handled
  | mute => rfl

theorem declared (changes : Changes next? step step')
    (declared : step.kind.needsValue = true → step.returnType?.isSome)
    (needs : step'.kind.needsValue = true) : step'.returnType?.isSome := by
  cases changes with
  | same => exact declared needs
  | function _ some => exact some
  | mute effect => simp [effect, StepKind.needsValue] at needs

/-- The handler fits the changed step if the old one fitted. -/
theorem fits (changes : Changes next? step step') (fits : ∀ l, step.logic? = some l → step.FitsLogic l)
    (l' : Logic σ) (logic' : step'.logic? = some l') : step'.FitsLogic l' := by
  cases changes with
  | same => exact fits l' logic'
  | function => exact { fits l' logic' with }
  | @mute l _ logic _ t result =>
      cases logic'
      have old := fits l logic
      exact ⟨old.arity, old.types, old.suspends, fun _ impossible => nomatch impossible⟩

end Step.Changes

namespace EffectsChanged

variable {steps steps' : List (Step σ)}

/-- The bindings stay where they are. -/
theorem bindingsFrom_eq (changed : EffectsChanged steps steps') (i : Nat) :
    Action.bindingsFrom i steps' = Action.bindingsFrom i steps := by
  induction changed generalizing i with
  | nil => rfl
  | cons one _ ih => rw [Action.bindingsFrom, Action.bindingsFrom, one.bindings_eq, ih]

theorem length_eq (changed : EffectsChanged steps steps') : steps'.length = steps.length := by
  induction changed with
  | nil => rfl
  | cons _ _ ih => rw [List.length_cons, List.length_cons, ih]

/-- Each step of the changed chain comes from the step at its place. -/
theorem exists_changes (changed : EffectsChanged steps steps') {i : Nat} {step' : Step σ}
    (found : steps'[i]? = some step') :
    ∃ step, steps[i]? = some step ∧ Step.Changes steps[i + 1]? step step' := by
  induction changed generalizing i with
  | nil => simp at found
  | @cons step step' rest rest' one _ ih =>
      rcases i with _ | i
      · cases found
        exact ⟨step, rfl, by simpa [List.head?_eq_getElem?] using one⟩
      · exact ih found

theorem exists_changes_of_mem (changed : EffectsChanged steps steps') {step' : Step σ}
    (member : step' ∈ steps') : ∃ step ∈ steps, ∃ next?, Step.Changes next? step step' := by
  obtain ⟨i, found⟩ := List.mem_iff_getElem?.mp member
  obtain ⟨step, stands, changes⟩ := changed.exists_changes found
  exact ⟨step, List.mem_of_getElem? stands, _, changes⟩

end EffectsChanged

namespace Action

variable {a : Action σ} {steps' : List (Step σ)}

/-- A step that heeds the result before finds the same type declared. -/
theorem typeBefore?_withEffects (changed : EffectsChanged a.steps steps') {i : Nat} {step : Step σ}
    (found : a.steps[i]? = some step) (heeds : ¬step.IgnoresResult) :
    { a with steps := steps' }.typeBefore? i = a.typeBefore? i := by
  rcases i with _ | i
  · rfl
  · have within : i < steps'.length := by
      have := (List.getElem?_eq_some_iff.mp found).1
      rw [changed.length_eq]
      omega
    have stands' := List.getElem?_eq_getElem within
    obtain ⟨before, stands, changes⟩ := changed.exists_changes stands'
    have heeded : ∀ next ∈ a.steps[i + 1]?, ¬next.IgnoresResult := by
      intro next behind
      rw [found, Option.mem_some_iff] at behind
      exact behind ▸ heeds
    rw [typeBefore?, typeBefore?, stands, stands', Option.bind_some, Option.bind_some,
      changes.returnType?_eq heeded]

/-- **With changed side effects, an action is still well-formed.** -/
theorem WellFormed.withEffects (wellFormed : a.WellFormed) (changed : EffectsChanged a.steps steps') :
    { a with steps := steps' }.WellFormed where
  nonempty := by
    have length : steps'.length ≠ 0 := by
      rw [changed.length_eq]
      exact fun none => wellFormed.nonempty (List.length_eq_zero_iff.mp none)
    exact fun empty => length (List.length_eq_zero_iff.mpr empty)
  yields := by
    intro step' found
    rw [List.getLast?_eq_getElem?] at found
    obtain ⟨step, stands, changes⟩ := changed.exists_changes found
    rw [changed.length_eq, ← List.getLast?_eq_getElem?] at stands
    exact changes.yields (wellFormed.yields step stands)
  handled := by
    intro step' member render
    obtain ⟨step, old, _, changes⟩ := changed.exists_changes_of_mem member
    exact changes.handled (wellFormed.handled step old (changes.isRender_eq ▸ render))
  declared := by
    intro step' member needs
    obtain ⟨step, old, _, changes⟩ := changed.exists_changes_of_mem member
    exact changes.declared (wellFormed.declared step old) needs
  renders := by
    intro i step' found render
    obtain ⟨step, stands, changes⟩ := changed.exists_changes found
    have old : step.kind.isRender = true := changes.isRender_eq ▸ render
    have place := wellFormed.renders i step stands old
    have heeds : ¬step.IgnoresResult := fun ignores => by simp [ignores.unrendered] at old
    exact
      { last := place.last.trans changed.length_eq.symm
        notFirst := place.notFirst
        unbound := changes.bindings_eq.trans place.unbound
        model := (typeBefore?_withEffects changed stands heeds).symm ▸ place.model
        alone := place.alone }
  previous := by
    intro i step' found b bound source
    obtain ⟨step, stands, changes⟩ := changed.exists_changes found
    rw [changes.bindings_eq] at bound
    have heeds : ¬step.IgnoresResult := fun ignores => ignores.unread b bound source
    rw [typeBefore?_withEffects changed stands heeds]
    exact wellFormed.previous i step stands b bound source
  defaults := by
    intro step' member b bound
    obtain ⟨step, old, _, changes⟩ := changed.exists_changes_of_mem member
    exact wellFormed.defaults step old b (changes.bindings_eq ▸ bound)
  named := by
    intro step' member b bound
    obtain ⟨step, old, _, changes⟩ := changed.exists_changes_of_mem member
    exact wellFormed.named step old b (changes.bindings_eq ▸ bound)
  fits := by
    intro step' member render l logic
    obtain ⟨step, old, _, changes⟩ := changed.exists_changes_of_mem member
    exact changes.fits (wellFormed.fits step old (changes.isRender_eq ▸ render)) l logic
  targets := by
    intro step' member render
    obtain ⟨step, old, _, changes⟩ := changed.exists_changes_of_mem member
    have before : step.kind.isRender = true := changes.isRender_eq ▸ render
    rw [changes.eq_of_isRender before]
    exact wellFormed.targets step old before

/-- Every side effect of an action is behind the last step but one, and what reads its result finds it
declared. -/
theorem WellFormed.exists_behind (wellFormed : a.WellFormed) {i : Nat} {step : Step σ}
    (found : a.steps[i]? = some step) (effect : step.kind = .sideEffect) :
    ∃ next, a.steps[i + 1]? = some next ∧ (step.returnType?.isSome ∨ next.IgnoresResult) := by
  have within := (List.getElem?_eq_some_iff.mp found).1
  have more : i + 1 < a.steps.length := by
    by_contra ended
    have last : a.steps.getLast? = some step := by
      rw [List.getLast?_eq_getElem?, ← found]
      congr 1
      omega
    exact wellFormed.yields step last effect
  have stands : a.steps[i + 1]? = some a.steps[i + 1] := List.getElem?_eq_getElem more
  refine ⟨a.steps[i + 1], stands, ?_⟩
  have declares {t : ValueType} (before : a.typeBefore? (i + 1) = some t) : step.returnType?.isSome := by
    rw [typeBefore?, found, Option.bind_some] at before
    exact Option.isSome_of_eq_some before
  cases render : a.steps[i + 1].kind.isRender with
  | true =>
      obtain ⟨t, before⟩ := Option.isSome_iff_exists.mp (wellFormed.renders _ _ stands render).model
      exact .inl (declares before)
  | false =>
      by_cases unread : ∀ b ∈ a.steps[i + 1].bindings, b.source ≠ .previous
      · exact .inr ⟨render, unread⟩
      · push Not at unread
        obtain ⟨b, bound, source⟩ := unread
        obtain ⟨-, t, before, -⟩ := wellFormed.previous _ _ stands b bound source
        exact .inl (declares before)

variable {a' : Action σ} {args : Arguments} {host : Host σ} {index : Nat}
  {previous previous' : Option TypedValue}

/-- What a binding stands for depends on the inputs of the action, and on the result before if the binding
reads it. -/
theorem argument_congr (inputs : a'.inputBindings = a.inputBindings) {b : Binding σ}
    (agree : previous' = previous ∨ b.source ≠ .previous) (s : σ) :
    a'.argument args host index previous' b s = a.argument args host index previous b s := by
  have slots : a'.slotOf b = a.slotOf b := by rw [slotOf, slotOf, Action.inputs, Action.inputs, inputs]
  have firsts : a'.firstOf? b = a.firstOf? b := by rw [firstOf?, firstOf?, inputs]
  rcases agree with rfl | other
  · simp only [argument, slots, firsts]
  · unfold argument
    cases source : b.source with
    | previous => exact absurd source other
    | _ => simp only [slots, firsts]

theorem arguments_congr (inputs : a'.inputBindings = a.inputBindings) {bs : List (Binding σ)}
    (agree : previous' = previous ∨ ∀ b ∈ bs, b.source ≠ .previous) (s : σ) :
    a'.arguments args host index previous' bs s = a.arguments args host index previous bs s := by
  induction bs generalizing s with
  | nil => rfl
  | cons b rest ih =>
      have first : previous' = previous ∨ b.source ≠ .previous :=
        agree.imp_right fun others => others b List.mem_cons_self
      have more : previous' = previous ∨ ∀ c ∈ rest, c.source ≠ .previous :=
        agree.imp_right fun others c member => others c (List.mem_cons_of_mem b member)
      simp only [arguments, argument_congr inputs first, ih more]

theorem handle_congr (inputs : a'.inputBindings = a.inputBindings) {bs : List (Binding σ)}
    (agree : previous' = previous ∨ ∀ b ∈ bs, b.source ≠ .previous) (l : Logic σ) (s : σ) :
    a'.handle args host index previous' bs l s = a.handle args host index previous bs l s := by
  simp only [handle, arguments_congr inputs agree]

/-- A handler that returns something else fails when the other fails, and leaves the same state. -/
theorem handle_returning (a : Action σ) (args : Arguments) (host : Host σ) (index : Nat)
    (previous : Option TypedValue) (bs : List (Binding σ)) (l : Logic σ) (t : Ty)
    (result : Args l.params → σ → t.Denote) (s : σ) :
    ∃ v, a.handle args host index previous bs (l.returning t result) s =
      ((a.handle args host index previous bs l s).1.map fun _ => v,
        (a.handle args host index previous bs l s).2) := by
  unfold handle
  rcases a.arguments args host index previous bs s with ⟨e | vs, s'⟩
  · exact ⟨.unit, rfl⟩
  · cases accepted : Args.ofList l.params vs with
    | error e => exact ⟨.unit, by simp only [Logic.returning, accepted, Except.map]⟩
    | ok xs =>
        exact ⟨⟨t, result xs s'⟩, by
          simp only [Logic.returning, accepted, Logic.complete, Except.map]⟩

end Action

/-- **A run does not tell chains apart that differ in their side effects.**  The induction is on the chains;
the results before the next step agree, unless this step ignores them. -/
theorem EffectsChanged.meaningFrom_eq {a a' : Action σ} {args : Arguments} {host : Host σ}
    (inputs : a'.inputBindings = a.inputBindings) (views : a'.view? = a.view?)
    {steps steps' : List (Step σ)} (changed : EffectsChanged steps steps') {index : Nat}
    {previous previous' : Option TypedValue}
    (agree : previous' = previous ∨ ∃ next ∈ steps.head?, next.IgnoresResult) (s : σ) :
    a'.meaningFrom args host index previous' steps' s =
      a.meaningFrom args host index previous steps s := by
  induction changed generalizing index previous previous' s with
  | nil =>
      obtain rfl : previous' = previous := by simpa using agree
      cases previous' <;> simp only [Action.meaningFrom, Action.finish, views]
  | @cons step step' rest rest' one _ ih =>
      have agree : previous' = previous ∨ step.IgnoresResult := by simpa using agree
      have handles (l : Logic σ) : a'.handle args host index previous' step.bindings l s =
          a.handle args host index previous step.bindings l s :=
        Action.handle_congr inputs (agree.imp_right Step.IgnoresResult.unread) l s
      have bound := one.bindings_eq
      -- What does not render and is not muted calls the same handler, and declares the same.
      have called (target : step.renderTarget? = none) (target' : step'.renderTarget? = none)
          (logic' : step'.logic? = step.logic?) (declares : step'.returnType? = step.returnType?) :
          a'.meaningFrom args host index previous' (step' :: rest') s =
            a.meaningFrom args host index previous (step :: rest) s := by
        cases logic : step.logic? with
        | none => simp only [Action.meaningFrom, target, target', logic', logic]
        | some l =>
            simp only [Action.meaningFrom, target, target', logic', logic, bound, handles, declares]
            rcases a.handle args host index previous step.bindings l s with ⟨e | v, s'⟩
            · rfl
            · exact ih (.inl rfl) s'
      cases one with
      | same =>
          cases target : step.renderTarget? with
          | none => exact called target target rfl rfl
          | some t =>
              obtain rfl : previous' = previous := agree.resolve_right fun ignores => by
                simp [Step.renderTarget?_of_not_isRender ignores.unrendered] at target
              simp only [Action.meaningFrom, target]
      | function effect =>
          exact called (Step.renderTarget?_of_not_isRender (by rw [effect]; rfl)) rfl rfl rfl
      | @mute l effect logic ignored t result =>
          have target : step.renderTarget? = none :=
            Step.renderTarget?_of_not_isRender (by rw [effect]; rfl)
          have target' : { step with
              returnType? := none, logic? := some (l.returning t result) }.renderTarget? = none := target
          obtain ⟨v', returned⟩ := a.handle_returning args host index previous step.bindings l t result s
          simp only [Action.meaningFrom, target, target', logic, handles, returned]
          rcases a.handle args host index previous step.bindings l s with ⟨e | v, s'⟩
          · rfl
          · exact ih (.inr ignored) s'

theorem EffectsChanged.inputBindings_eq {a : Action σ} {steps' : List (Step σ)}
    (changed : EffectsChanged a.steps steps') :
    { a with steps := steps' }.inputBindings = a.inputBindings := by
  rw [Action.inputBindings, Action.inputBindings, Action.allBindings, Action.allBindings,
    changed.bindingsFrom_eq]

/-- **The result of a side effect is read if and only if it is declared.**  Validation refuses a step that
reads or renders the result of a step that declares none.  In an action that compiles, a side effect is
followed by a step, and this ignores the result unless the side effect declares it.  Where it is ignored the
side effect may return anything, and where it is declared the side effect may as well be a function: the
action compiles as before, and every run does the same. -/
theorem sideEffects_unread (a : Action σ) :
    (∀ i, .previousEmpty i ∈ a.violations ↔
      ∃ before step, a.steps[i]? = some before ∧ a.steps[i + 1]? = some step ∧
        before.returnType? = none ∧ ∃ b ∈ step.bindings, b.source = .previous) ∧
    (∀ i, .renderNothing (i + 1) ∈ a.violations ↔
      ∃ before step, a.steps[i]? = some before ∧ a.steps[i + 1]? = some step ∧
        before.returnType? = none ∧ step.kind.isRender = true) ∧
    ∀ (config : CompilerConfig) (w w' : Workshop σ) (e : Endpoint σ) (events : List Event)
      (registry : Registry σ), compile config w a = (.ok e, w', events) → w'.registry.Grows registry →
      (∀ i step, a.steps[i]? = some step → step.kind = .sideEffect →
        ∃ next, a.steps[i + 1]? = some next ∧ (step.returnType?.isSome ∨ next.IgnoresResult)) ∧
      ∀ steps', EffectsChanged a.steps steps' → ∀ v : Workshop σ,
        ∃ e' v' events', compile config v { a with steps := steps' } = (.ok e', v', events') ∧
          ∀ registry', v'.registry.Grows registry' → ∀ args host s,
            e'.unit.invoke registry' args host s = e.unit.invoke registry args host s := by
  refine ⟨fun i => a.previousEmpty_mem_violations_iff, fun i => a.renderNothing_mem_violations_iff, ?_⟩
  intro config w w' e events registry compiled grown
  obtain ⟨wellFormed, -, realizes, -⟩ := compile_realizes compiled
  refine ⟨fun i step found effect => wellFormed.exists_behind found effect, fun steps' changed v => ?_⟩
  obtain ⟨e', v', events', compiled'⟩ :=
    exists_compile_of_wellFormed config v (wellFormed.withEffects changed)
  obtain ⟨wellFormed', -, realizes', -⟩ := compile_realizes compiled'
  refine ⟨e', v', events', compiled', fun registry' grown' args host s => ?_⟩
  rw [(realizes'.grows grown').invoke_eq_meaning wellFormed'.toValid,
    (realizes.grows grown).invoke_eq_meaning wellFormed.toValid]
  exact changed.meaningFrom_eq changed.inputBindings_eq rfl (.inl rfl) s

namespace Notes

/-- Takes a number for a note and says nothing. -/
def skipId : Logic NoteStore := handler [] .unit fun _ s => ((), s.takeId.2)

/-- Says hello. -/
def hello : Logic NoteStore := handler [] .text fun _ s => ("hello", s)

/-- An action that takes a number for a note before it says hello. -/
def skipAndHello : Action NoteStore :=
  { method := "GET", route := "/skip", steps := [.ofLogic .sideEffect [] skipId, .ofLogic .function [] hello] }

/-- An action whose side effect says hello and declares that it does; the next step repeats it. -/
def overheard : Action NoteStore :=
  { method := "GET"
    route := "/overheard"
    steps := [{ Step.ofLogic .sideEffect [] hello with returnType? := some hello.returnType },
      .ofLogic .function [.previous .text] (handler [.text] .text fun (text, _) s => (text, s))] }

end Notes

/-- A number is taken all the same if the side effect that takes it says something. -/
theorem skipAndHello_unread :
    let steps := [{ Step.ofLogic .sideEffect [] Notes.skipId with
        returnType? := none, logic? := some (Notes.skipId.returning .text fun _ _ => "skipped") },
      .ofLogic .function [] Notes.hello]
    ∃ (e e' : Endpoint NoteStore) (w w' : Workshop NoteStore) (events events' : List Event),
      compile {} .empty Notes.skipAndHello = (.ok e, w, events) ∧ w.registry.Grows w'.registry ∧
        compile {} w { Notes.skipAndHello with steps } = (.ok e', w', events') ∧
        e'.unit.invoke w'.registry (.ofValues []) (.detached .empty) .empty =
          (.ok (.value ⟨.encoded .text, .text, "hello"⟩), NoteStore.empty.takeId.2) := by
  intro steps
  have formed : Notes.skipAndHello.WellFormed := Action.wellFormed_of_prepared rfl rfl ⟨_, rfl⟩
  obtain ⟨e, w, events, compiled⟩ := exists_compile_of_wellFormed {} .empty formed
  have ignores : (Step.ofLogic .function [] Notes.hello).IgnoresResult := ⟨rfl, by simp [Step.ofLogic]⟩
  have changed : EffectsChanged Notes.skipAndHello.steps steps :=
    .cons (.mute rfl rfl ⟨_, rfl, ignores⟩ _ _) (.cons (.same _) .nil)
  obtain ⟨-, -, accepted⟩ := sideEffects_unread Notes.skipAndHello
  obtain ⟨-, unread⟩ := accepted _ _ _ _ _ _ compiled .refl
  obtain ⟨e', w', events', compiled', same⟩ := unread steps changed w
  obtain ⟨-, -, realizes, -⟩ := compile_realizes compiled
  obtain ⟨-, -, -, grown⟩ := compile_realizes compiled'
  refine ⟨e, e', w, w', events, events', compiled, grown, compiled', ?_⟩
  rw [same _ .refl, realizes.invoke_eq_meaning formed.toValid]
  rfl

/-- The action is accepted, and ends with what its side effect said. -/
theorem sideEffect_overheard :
    Notes.overheard.steps.head?.map Step.kind = some .sideEffect ∧ Notes.overheard.violations = [] ∧
    ∃ (e : Endpoint NoteStore) (w : Workshop NoteStore) (events : List Event),
      compile {} .empty Notes.overheard = (.ok e, w, events) ∧
        e.unit.invoke w.registry (.ofValues []) (.detached .empty) .empty =
          (.ok (.value ⟨.encoded .text, .text, "hello"⟩), .empty) := by
  have formed : Notes.overheard.WellFormed := Action.wellFormed_of_prepared rfl rfl ⟨_, rfl⟩
  obtain ⟨e, w, events, compiled⟩ := exists_compile_of_wellFormed {} .empty formed
  obtain ⟨-, -, realizes, -⟩ := compile_realizes compiled
  refine ⟨rfl, rfl, e, w, events, compiled, ?_⟩
  rw [realizes.invoke_eq_meaning formed.toValid]
  rfl

end HandlerChain
