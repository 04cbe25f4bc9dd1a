import HandlerChain.Notes.Actions
import HandlerChain.Proofs.LetterCase
import HandlerChain.Proofs.Synthesis

/-!
# What compiles

Compilation refuses an action for the first group of rules that it breaks, and compiles every action that
breaks none.  No pass asks for more than the rules say, and what one pass leaves unasked another asks.

## Main Results

* `compile_fst_of_not_valid`, `compile_fst_of_not_routesNamed`, `compile_fst_of_not_signaturesFit` and
  `compile_fst_of_wellFormed` are the four ends of a compilation; every action comes to one of them.
* `compile_accepts_wellFormed` says the same of the answers: each is given for its own actions only.
* `compile_realizes`: an action that compiles is well-formed, and its unit realizes it.
* `Action.wellFormed_of_prepared`: where the passes find no fault there is none.
* `Action.WellFormed.withRoute`: an action stays well-formed under a route with the same placeholders.
* `Notes.wellFormed_of_mem`: the actions on notes are well-formed.
-/

namespace HandlerChain

variable {σ : Type} {a : Action σ} (config : CompilerConfig) (w : Workshop σ)

theorem compile_fst_of_not_valid (invalid : ¬a.Valid) :
    (compile config w a).1 = .error (.validation a.display a.violations) := by
  cases violations : a.violations with
  | nil => exact absurd (a.violations_eq_nil_iff.mp violations) invalid
  | cons v vs => simp only [compile, violations]

theorem compile_fst_of_not_routesNamed (valid : a.Valid) (stray : ¬a.RoutesNamed) :
    ∃ parameter, (compile config w a).1 = .error (.routeMismatch a.display parameter a.route) := by
  cases found : a.strayRouteParameter? with
  | none => exact absurd (a.strayRouteParameter?_eq_none_iff.mp found) stray
  | some parameter =>
      exact ⟨parameter, by simp only [compile, a.violations_eq_nil_iff.mpr valid, found]⟩

theorem compile_of_routesNamed (valid : a.Valid) (named : a.RoutesNamed) :
    compile config w a =
      match synthesize config w a a.plan with
      | (.error e, w, events) =>
        (.error (.synthesis a.display e), w,
          .compiling a.steps.length :: events ++ [.synthesisFailed e.message])
      | (.ok endpoint, w, events) => (.ok endpoint, w, .compiling a.steps.length :: events) := by
  have violations := a.violations_eq_nil_iff.mpr valid
  have stray := a.strayRouteParameter?_eq_none_iff.mpr named
  rcases synthesized : synthesize config w a a.plan with ⟨_ | e, w', events⟩ <;>
    simp only [compile, violations, stray, synthesized]

theorem compile_fst_of_not_signaturesFit (valid : a.Valid) (named : a.RoutesNamed)
    (unfit : ¬a.SignaturesFit) :
    ∃ cause, (compile config w a).1 = .error (.synthesis a.display cause) := by
  cases prepared : prepareAction a a.plan with
  | error cause =>
      exact ⟨cause, by simp only [compile_of_routesNamed config w valid named, synthesize, prepared]⟩
  | ok r => exact absurd ((Action.prepareAction_isOk_iff valid).mp ⟨r, prepared⟩) unfit

theorem compile_fst_of_wellFormed (wellFormed : a.WellFormed) :
    ∃ e, (compile config w a).1 = .ok e := by
  obtain ⟨r, prepared⟩ :=
    (Action.prepareAction_isOk_iff wellFormed.toValid).mpr wellFormed.toSignaturesFit
  simp only [compile_of_routesNamed config w wellFormed.toValid wellFormed.toRoutesNamed, synthesize,
    prepared]
  exact ⟨_, rfl⟩

/-- **Compilation accepts exactly the well-formed actions.**  An action that is refused is refused by
validation if it breaks a rule of the chain, with all violations; else for a route parameter that its
route does not have, if there is one; and else because a step does not fit its handler or has no target.
-/
theorem compile_accepts_wellFormed (a : Action σ) :
    ((∃ e, (compile config w a).1 = .ok e) ↔ a.WellFormed) ∧
      ((compile config w a).1 = .error (.validation a.display a.violations) ↔ ¬a.Valid) ∧
      ((∃ parameter, (compile config w a).1 = .error (.routeMismatch a.display parameter a.route)) ↔
        a.Valid ∧ ¬a.RoutesNamed) ∧
      ((∃ cause, (compile config w a).1 = .error (.synthesis a.display cause)) ↔
        a.Valid ∧ a.RoutesNamed ∧ ¬a.SignaturesFit) := by
  -- The cases are the groups in the order in which they are judged; in each one answer is given, and the
  -- other three differ from it.
  by_cases valid : a.Valid
  swap
  · have answer := compile_fst_of_not_valid config w valid
    have unformed : ¬a.WellFormed := fun wellFormed => valid wellFormed.toValid
    simp [answer, valid, unformed]
  by_cases named : a.RoutesNamed
  swap
  · obtain ⟨parameter, answer⟩ := compile_fst_of_not_routesNamed config w valid named
    have unformed : ¬a.WellFormed := fun wellFormed => named wellFormed.toRoutesNamed
    simp [answer, valid, named, unformed]
  by_cases fit : a.SignaturesFit
  swap
  · obtain ⟨cause, answer⟩ := compile_fst_of_not_signaturesFit config w valid named fit
    have unformed : ¬a.WellFormed := fun wellFormed => fit wellFormed.toSignaturesFit
    simp [answer, valid, named, fit, unformed]
  obtain ⟨e, answer⟩ := compile_fst_of_wellFormed config w ⟨valid, named, fit⟩
  have formed : a.WellFormed := ⟨valid, named, fit⟩
  simp [answer, valid, named, fit, formed]

theorem exists_compile_of_wellFormed (wellFormed : a.WellFormed) :
    ∃ e w' events, compile config w a = (.ok e, w', events) := by
  obtain ⟨e, answer⟩ := compile_fst_of_wellFormed config w wellFormed
  exact ⟨e, _, _, Prod.ext answer rfl⟩

variable {config w}

/-- **What a compilation leaves**: a well-formed action, a unit that realizes it, and a registry that has
only grown. -/
theorem compile_realizes {w' : Workshop σ} {e : Endpoint σ} {events : List Event}
    (compiled : compile config w a = (.ok e, w', events)) :
    a.WellFormed ∧ e.action = a ∧ e.unit.Realizes a w'.registry ∧ w.registry.Grows w'.registry := by
  have answer : (compile config w a).1 = .ok e := by rw [compiled]
  have valid : a.Valid := by
    by_contra invalid
    simp [compile_fst_of_not_valid config w invalid] at answer
  have named : a.RoutesNamed := by
    by_contra stray
    obtain ⟨_, refused⟩ := compile_fst_of_not_routesNamed config w valid stray
    simp [refused] at answer
  have fit : a.SignaturesFit := by
    by_contra unfit
    obtain ⟨_, refused⟩ := compile_fst_of_not_signaturesFit config w valid named unfit
    simp [refused] at answer
  refine ⟨⟨valid, named, fit⟩, ?_⟩
  rw [compile_of_routesNamed config w valid named] at compiled
  rcases synthesized : synthesize config w a a.plan with ⟨_ | made, w'', events'⟩
  · simp [synthesized] at compiled
  · simp only [synthesized, Prod.mk.injEq, Except.ok.injEq] at compiled
    obtain ⟨rfl, rfl, -⟩ := compiled
    exact synthesize_realizes synthesized

/-- What an action that compiles leaves, in terms of the calls that were prepared: their keys are in the
unit, and their handlers in the registry. -/
theorem prepared_of_compile {w' : Workshop σ} {e : Endpoint σ} {events : List Event}
    (compiled : compile config w a = (.ok e, w', events)) :
    ∃ parameters calls, prepareAction a a.plan = .ok (parameters, calls) ∧
      e = a.endpoint config w.units parameters (w.register 0 calls).1 ∧
        w' = { (w.register 0 calls).2.1 with units := w.units + 1 } := by
  obtain ⟨wellFormed, -⟩ := compile_realizes compiled
  obtain ⟨⟨parameters, calls⟩, prepared⟩ :=
    (Action.prepareAction_isOk_iff wellFormed.toValid).mpr wellFormed.toSignaturesFit
  rw [compile_of_routesNamed config w wellFormed.toValid wellFormed.toRoutesNamed, synthesize] at compiled
  simp only [prepared, Prod.mk.injEq, Except.ok.injEq] at compiled
  obtain ⟨rfl, rfl, -⟩ := compiled
  rw [w.register_units]
  exact ⟨parameters, calls, prepared, rfl, rfl⟩

/-- The endpoint of an action that compiles, whose unit has the number of units made before. -/
theorem exists_endpoint_of_compile {w' : Workshop σ} {e : Endpoint σ} {events : List Event}
    (compiled : compile config w a = (.ok e, w', events)) :
    (∃ parameters body, e = a.endpoint config w.units parameters body) ∧ w'.units = w.units + 1 := by
  obtain ⟨parameters, calls, -, rfl, rfl⟩ := prepared_of_compile compiled
  exact ⟨⟨parameters, _, rfl⟩, rfl⟩

/-- An action in which the passes find no fault is well-formed. -/
theorem Action.wellFormed_of_prepared (judged : a.violations = []) (named : a.strayRouteParameter? = none)
    (prepared : ∃ r, prepareAction a a.plan = .ok r) : a.WellFormed := by
  have valid := a.violations_eq_nil_iff.mp judged
  exact ⟨valid, a.strayRouteParameter?_eq_none_iff.mp named, (prepareAction_isOk_iff valid).mp prepared⟩

/-- The rules of a chain do not speak of the method. -/
theorem Action.WellFormed.withMethod (wellFormed : a.WellFormed) (method : String) :
    { a with method := method }.WellFormed where
  toValid :=
    { nonempty := wellFormed.nonempty
      yields := wellFormed.yields
      handled := wellFormed.handled
      declared := wellFormed.declared
      renders := fun i step found render =>
        { wellFormed.renders i step found render with }
      previous := wellFormed.previous
      defaults := wellFormed.defaults }
  toRoutesNamed := { named := wellFormed.named }
  toSignaturesFit := { fits := wellFormed.fits, targets := wellFormed.targets }

/-- The rules of a chain do not speak of the route, only of the names of its placeholders. -/
theorem Action.WellFormed.withRoute (wellFormed : a.WellFormed) {route : String}
    (kept : ∀ p ∈ Route.parameters a.route, ∃ q ∈ Route.parameters route,
      Text.lowerAscii q.name = Text.lowerAscii p.name) : { a with route := route }.WellFormed where
  toValid :=
    { nonempty := wellFormed.nonempty
      yields := wellFormed.yields
      handled := wellFormed.handled
      declared := wellFormed.declared
      renders := fun i step found render =>
        { wellFormed.renders i step found render with }
      previous := wellFormed.previous
      defaults := wellFormed.defaults }
  toRoutesNamed :=
    { named := fun step member b bound name source => by
        obtain ⟨p, listed, same⟩ := wellFormed.named step member b bound name source
        obtain ⟨q, kept, same'⟩ := kept p listed
        exact ⟨q, kept, Text.eqIgnoreAsciiCase_iff.mpr (same'.trans (Text.eqIgnoreAsciiCase_iff.mp same))⟩ }
  toSignaturesFit := { fits := wellFormed.fits, targets := wellFormed.targets }

/-- Every action of the server that keeps notes is well-formed. -/
theorem Notes.wellFormed_of_mem {a : Action NoteStore} (member : a ∈ Notes.actions) : a.WellFormed := by
  have judged : ∀ a ∈ Notes.actions, a.violations = [] := by decide +kernel
  have named : ∀ a ∈ Notes.actions, a.strayRouteParameter? = none := by decide +kernel
  refine Action.wellFormed_of_prepared (judged a member) (named a member) ?_
  simp only [Notes.actions, List.mem_cons, List.not_mem_nil, or_false] at member
  rcases member with rfl | rfl | rfl | rfl | rfl | rfl <;> exact ⟨_, rfl⟩

/-- A note can be found under any route that has a placeholder for its number. -/
theorem Notes.getNote_withRoute {route : String} {p : Route.Parameter} (listed : p ∈ Route.parameters route)
    (named : Text.lowerAscii p.name = Text.lowerAscii "id") :
    { Notes.getNote with route := route }.WellFormed := by
  have formed := Notes.wellFormed_of_mem (a := Notes.getNote) (by simp [Notes.actions])
  have own : Route.parameters Notes.getNote.route = [⟨"id", some "int", false, false⟩] := by decide +kernel
  refine formed.withRoute fun q member => ⟨p, listed, ?_⟩
  rw [own, List.mem_singleton] at member
  rw [member, named]

/-- The endpoint that finds a note under a route. -/
theorem Notes.exists_getNote {route : String} (formed : { Notes.getNote with route := route }.WellFormed)
    (w : Workshop NoteStore) :
    ∃ e w' events, compile {} w { Notes.getNote with route := route } = (.ok e, w', events) ∧
      e.path = Route.normalize route ∧ e.action.method = "GET" := by
  obtain ⟨e, w', events, compiled⟩ := exists_compile_of_wellFormed {} w formed
  obtain ⟨-, action, -⟩ := compile_realizes compiled
  exact ⟨e, w', events, compiled, by rw [Endpoint.path, action], by rw [action]; rfl⟩

end HandlerChain
