import HandlerChain.Proofs.Verdicts
import HandlerChain.Unit.Compiler

/-!
# What validation judges

That no step of a chain breaks a rule is the same as `Action.Valid`, and that no route parameter is stray the same
as `Action.RoutesNamed`.

## Main Results

* `Action.previousEmpty_mem_violations_iff` and `Action.renderNothing_mem_violations_iff` say when a result is
  missed.
* `Action.violations_eq_nil_iff` is the first equivalence, `Action.strayRouteParameter?_eq_none_iff` the
  second.
-/

namespace HandlerChain

section

variable {σ : Type} {s : Step σ} {p : Standing} {r : Rule σ} {i : Nat}

theorem Binding.kind_eq_previous_iff {b : Binding σ} : b.kind = .previousHandlerResult ↔ b.source = .previous := by
  unfold Binding.kind
  cases b.source <;> simp [Source.kind]

/-- Only a step that reads the result before can miss it. -/
theorem Rule.violation_eq_previousEmpty_iff :
    r.violation s p = .previousEmpty i ↔
      (∃ b, r = .reads b) ∧ p.before? = none ∧ p.number ≠ 0 ∧ p.number - 1 = i := by
  cases r with
  | reads b =>
      simp only [violation]
      cases p.before? <;> split <;> simp_all
  | _ => simp [violation]

/-- Only a step that renders can miss its model. -/
theorem Rule.violation_eq_renderNothing_iff :
    r.violation s p = .renderNothing i ↔ r = .hasModel ∧ p.number = i := by
  cases r with
  | reads b =>
      simp only [violation]
      cases p.before? <;> split <;> simp
  | _ => simp [violation]

end

namespace Action

variable {σ : Type}

/-- A step declares nothing if the one behind it stands behind nothing. -/
theorem before?_standing_eq_none_iff {a : Action σ} {i : Nat} {before : Step σ}
    (stands : a.steps[i]? = some before) :
    (a.standing (i + 1)).before? = none ↔ before.returnType? = none := by
  simp [standing, typeBefore?, stands]

/-- The result of a step without a declared type is missed by a step that reads it. -/
theorem previousEmpty_mem_violations_iff {a : Action σ} {i : Nat} :
    .previousEmpty i ∈ a.violations ↔
      ∃ before step, a.steps[i]? = some before ∧ a.steps[i + 1]? = some step ∧
        before.returnType? = none ∧ ∃ b ∈ step.bindings, b.source = .previous := by
  rw [mem_violations]
  constructor
  · rintro (⟨-, ⟨⟩⟩ | ⟨j, step, found, r, member, broken, said⟩)
    obtain ⟨⟨b, rfl⟩, silent, later, place⟩ := Rule.violation_eq_previousEmpty_iff.mp said
    obtain rfl : j = i + 1 := (Nat.succ_pred_eq_of_ne_zero later).symm.trans (congrArg Nat.succ place)
    have stands := List.getElem?_eq_getElem (Nat.lt_of_succ_lt (List.getElem?_eq_some_iff.mp found).1)
    exact ⟨_, step, stands, found, (before?_standing_eq_none_iff stands).mp silent, b,
      Step.mem_rules.mp member b (.inl rfl), Binding.kind_eq_previous_iff.mp broken.1⟩
  · rintro ⟨before, step, stands, found, silent, b, bound, source⟩
    have silent := (before?_standing_eq_none_iff stands).mpr silent
    refine .inr ⟨i + 1, step, found, .reads b, Step.mem_rules.mpr (by simpa using bound),
      ⟨Binding.kind_eq_previous_iff.mpr source, by simp [silent]⟩, ?_⟩
    exact Rule.violation_eq_previousEmpty_iff.mpr ⟨⟨b, rfl⟩, silent, Nat.succ_ne_zero i, rfl⟩

/-- And by a step that renders it. -/
theorem renderNothing_mem_violations_iff {a : Action σ} {i : Nat} :
    .renderNothing (i + 1) ∈ a.violations ↔
      ∃ before step, a.steps[i]? = some before ∧ a.steps[i + 1]? = some step ∧
        before.returnType? = none ∧ step.kind.isRender = true := by
  rw [mem_violations]
  constructor
  · rintro (⟨-, ⟨⟩⟩ | ⟨j, step, found, r, -, broken, said⟩)
    obtain ⟨rfl, rfl⟩ := Rule.violation_eq_renderNothing_iff.mp said
    have stands := List.getElem?_eq_getElem (Nat.lt_of_succ_lt (List.getElem?_eq_some_iff.mp found).1)
    exact ⟨_, step, stands, found, (before?_standing_eq_none_iff stands).mp broken.2, broken.1⟩
  · rintro ⟨before, step, stands, found, silent, render⟩
    exact .inr ⟨i + 1, step, found, .hasModel, Step.mem_rules.mpr (by simp),
      ⟨render, (before?_standing_eq_none_iff stands).mpr silent⟩, rfl⟩

/-- If no step breaks a rule, the rules of a chain hold. -/
theorem valid_of_not_broken {a : Action σ} (nonempty : a.steps ≠ [])
    (unbroken : ∀ (i : Nat) (step : Step σ), a.steps[i]? = some step →
      ∀ r ∈ step.rules, ¬r.Broken step (a.standing i)) : a.Valid := by
  have each : ∀ step ∈ a.steps, ∃ i, a.steps[i]? = some step := fun _ => List.mem_iff_getElem?.mp
  -- A rule that is not about a binding is for every step.
  have every {i : Nat} {step : Step σ} (found : a.steps[i]? = some step) (r : Rule σ)
      (general : ∀ b, r ≠ .reads b ∧ r ≠ .fallsBack b) : ¬r.Broken step (a.standing i) :=
    unbroken i step found r (Step.mem_rules.mpr fun b either => absurd either (not_or.mpr (general b)))
  refine
    { nonempty := nonempty
      yields := fun step found kind => ?_
      handled := fun step member calls => ?_
      declared := fun step member needs => ?_
      renders := fun i step found renders => ?_
      previous := fun i step found b bound source => ?_
      defaults := fun step member b bound v given => ?_ }
  · rw [List.getLast?_eq_getElem?] at found
    have length := List.length_pos_iff.mpr nonempty
    exact every found .yields (by simp) ⟨by simp [standing]; omega, kind⟩
  · obtain ⟨i, found⟩ := each step member
    simpa [Rule.Broken, StepKind.invokesLogic, calls, Option.isSome_iff_ne_none] using
      every found .handled (by simp)
  · obtain ⟨i, found⟩ := each step member
    simpa [Rule.Broken, needs, Option.ne_none_iff_isSome] using every found .declares (by simp)
  · have last : i + 1 = a.steps.length := by
      simpa [Rule.Broken, renders, standing] using every found .endsChain (by simp)
    have model : (a.typeBefore? i).isSome := by
      simpa [Rule.Broken, renders, standing, Option.ne_none_iff_isSome] using every found .hasModel (by simp)
    refine ⟨last, ?_, ?_, model, ?_⟩
    · rcases i with _ | i
      · simp [typeBefore?] at model
      · exact Nat.succ_pos i
    · simpa [Rule.Broken, renders] using every found .unbound (by simp)
    · simpa [Rule.Broken, renders, standing, last] using every found .rendersAlone (by simp)
  · have reads := unbroken i step found (.reads b) (Step.mem_rules.mpr (by simpa using bound))
    obtain ⟨t, before, type⟩ : ∃ t, a.typeBefore? i = some t ∧ t.ty = b.type.ty := by
      simpa [Rule.Broken, Binding.kind_eq_previous_iff, source, standing] using reads
    rcases i with _ | i
    · cases before
    · exact ⟨Nat.succ_pos i, t, before, type⟩
  · obtain ⟨i, found⟩ := each step member
    by_contra other
    exact unbroken i step found (.fallsBack b) (Step.mem_rules.mpr (by simpa using bound)) ⟨v, given, other⟩

/-- And if they hold, no step breaks a rule. -/
theorem Valid.not_broken {a : Action σ} (valid : a.Valid) {i : Nat} {step : Step σ}
    (found : a.steps[i]? = some step) {r : Rule σ} (member : r ∈ step.rules) :
    ¬r.Broken step (a.standing i) := by
  have inside := List.mem_of_getElem? found
  intro broken
  cases r with
  | declares => exact absurd (valid.declared step inside broken.1) (by simp [broken.2])
  | handled =>
      have calls : step.kind.isRender = false := by simpa [StepKind.invokesLogic] using broken.1
      exact absurd (valid.handled step inside calls) (by simpa using broken.2)
  | endsChain =>
      have last := (valid.renders i step found broken.1).last
      simp [Rule.Broken, standing, last] at broken
  | rendersAlone =>
      have alone := (valid.renders i step found broken.1).alone
      simp [Rule.Broken, standing, alone] at broken
  | unbound =>
      have unbound := (valid.renders i step found broken.1).unbound
      simp [Rule.Broken, unbound] at broken
  | hasModel =>
      have model := (valid.renders i step found broken.1).model
      simp [Rule.Broken, standing, Option.isSome_iff_ne_none.mp model] at broken
  | reads b =>
      have bound := Step.mem_rules.mp member b (.inl rfl)
      obtain ⟨-, t, before, type⟩ :=
        valid.previous i step found b bound (Binding.kind_eq_previous_iff.mp broken.1)
      exact broken.2 (by simp [standing, before, type])
  | fallsBack b =>
      obtain ⟨v, given, other⟩ := broken
      exact other (valid.defaults step inside b (Step.mem_rules.mp member b (.inr rfl)) v given)
  | yields =>
      have last : i + 1 = a.steps.length := of_decide_eq_true broken.1
      refine valid.yields step ?_ broken.2
      rw [List.getLast?_eq_getElem?, ← last, Nat.add_sub_cancel, found]

/-- **Validation finds nothing exactly if the rules of a chain hold.** -/
theorem violations_eq_nil_iff (a : Action σ) : a.violations = [] ↔ a.Valid := by
  rw [violations_eq_nil_iff_unbroken]
  constructor
  · rintro ⟨nonempty, unbroken⟩
    exact valid_of_not_broken nonempty unbroken
  · intro valid
    exact ⟨valid.nonempty, fun i step found r member => valid.not_broken found member⟩

theorem mem_bindingsFrom {b : Binding σ} {i : Nat} {steps : List (Step σ)} :
    b ∈ (bindingsFrom i steps).map Prod.snd ↔ ∃ step ∈ steps, b ∈ step.bindings := by
  induction steps generalizing i with
  | nil => simp [bindingsFrom]
  | cons s rest ih => simp only [bindingsFrom, List.map_append, List.mem_append, ih]; simp

theorem mem_allBindings {a : Action σ} {b : Binding σ} :
    b ∈ a.allBindings.map Prod.snd ↔ ∃ step ∈ a.steps, b ∈ step.bindings :=
  mem_bindingsFrom

theorem hasParameter_iff {template name : String} :
    Route.hasParameter template name = true ↔
      ∃ p ∈ Route.parameters template, Text.eqIgnoreAsciiCase p.name name = true := by
  simp [Route.hasParameter, Text.eqIgnoreAsciiCase, Text.lowerAscii]

/-- **No route parameter is stray exactly if the route names them all.** -/
theorem strayRouteParameter?_eq_none_iff (a : Action σ) :
    a.strayRouteParameter? = none ↔ a.RoutesNamed := by
  rw [strayRouteParameter?, List.findSome?_eq_none_iff]
  constructor
  · intro all
    refine ⟨fun step member b bound name source => ?_⟩
    have present := all b (mem_allBindings.mpr ⟨step, member, bound⟩)
    simp only [source] at present
    exact hasParameter_iff.mp (by simpa using present)
  · intro routes b member
    obtain ⟨step, inside, bound⟩ := mem_allBindings.mp member
    cases source : b.source with
    | route name =>
        have present := hasParameter_iff.mpr (routes.named step inside b bound name source)
        simp [present]
    | _ => rfl

end Action

end HandlerChain
