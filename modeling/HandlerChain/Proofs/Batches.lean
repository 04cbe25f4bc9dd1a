import HandlerChain.Proofs.Twins

/-!
# Actions of a batch are compiled as if alone

A batch compiles its actions in order, all in one workshop.  That an action stands in a batch cannot be seen in
what becomes of it: it is refused exactly if it would be refused alone, and else its endpoint is the one that it
would get alone but for names and keys that are drawn.  The induction is on the list of actions, from any
workshop on; the registry that the later actions leave has grown from that of the earlier ones, so these still
find their handlers.

## Main Definitions

* `solo?` and `soloFailure?` are what becomes of an action that is compiled alone.
* `Endpoint.ActsAs` relates endpoints that are twins and run alike from then on.

## Main Results

* `compileAll_of_failFast`: a batch that stops at its first failure is the whole batch of a shorter list.
* `compileAll_gains`: the registry gains the handlers of what compiled, and nothing else.
* `compileAll_solo` puts these together.
-/

namespace HandlerChain

variable {σ : Type}

/-- The endpoint of an action that is compiled alone, with the workshop that this leaves. -/
def solo? (config : CompilerConfig) (w : Workshop σ) (a : Action σ) : Option (Endpoint σ × Workshop σ) :=
  match compile config w a with
  | (.ok e, w', _) => some (e, w')
  | (.error _, _, _) => none

/-- The error of an action that is compiled alone. -/
def soloFailure? (config : CompilerConfig) (w : Workshop σ) (a : Action σ) : Option CompileError :=
  match compile config w a with
  | (.ok _, _, _) => none
  | (.error cause, _, _) => some cause

/-- Endpoints that differ in what was drawn for them only, and give the same in every invocation, each in
its registry and in all that come from it. -/
structure Endpoint.ActsAs (config : CompilerConfig) (registry registry' : Registry σ)
    (e e' : Endpoint σ) : Prop where
  twin : e.Twin config e'
  invoke : ∀ later later', registry.Grows later → registry'.Grows later' → ∀ args host s,
    e.unit.invoke later args host s = e'.unit.invoke later' args host s ∧
      e.unit.invokeImmediate later args host s = e'.unit.invokeImmediate later' args host s

theorem Endpoint.ActsAs.grows {config : CompilerConfig} {registry registry' later : Registry σ}
    {e e' : Endpoint σ} (acts : e.ActsAs config registry registry' e') (grown : registry.Grows later) :
    e.ActsAs config later registry' e' where
  twin := acts.twin
  invoke _ _ more more' := acts.invoke _ _ (grown.trans more) more'

section

variable {config : CompilerConfig} {w w' w₀ : Workshop σ} {a : Action σ} {events : List Event}

theorem soloFailure?_eq : soloFailure? config w a = a.refusal? := by
  unfold soloFailure?
  rcases compiled : compile config w a with ⟨cause | e, w', events⟩
  · exact (compile_eq_error_iff.mp (congrArg Prod.fst compiled)).symm
  · exact (refusal?_of_compile compiled).symm

/-- What compiles does so alone, too. -/
theorem exists_solo {e : Endpoint σ} (compiled : compile config w a = (.ok e, w', events))
    (w₀ : Workshop σ) :
    ∃ e₀ w₀', solo? config w₀ a = some (e₀, w₀') ∧
      e.ActsAs config w'.registry w₀'.registry e₀ := by
  obtain ⟨wellFormed, -⟩ := compile_realizes compiled
  obtain ⟨e₀, w₀', events₀, compiled₀⟩ := exists_compile_of_wellFormed config w₀ wellFormed
  refine ⟨e₀, w₀', by simp only [solo?, compiled₀], twin_of_compile compiled compiled₀, ?_⟩
  intro later later' grown grown' args host s
  exact (runsAs_of_compile compiled compiled₀ grown grown').invoke_eq args host s

theorem solo?_of_error {cause : CompileError}
    (failed : compile config w a = (.error cause, w', events)) (w₀ : Workshop σ) :
    solo? config w₀ a = none := by
  have refused := compile_eq_error_iff.mp (congrArg Prod.fst failed)
  have alone : (compile config w₀ a).1 = .error cause := compile_eq_error_iff.mpr refused
  rcases compiled : compile config w₀ a with ⟨cause | e, w₀', events₀⟩
  · simp only [solo?, compiled]
  · rw [compiled] at alone
    cases alone

end

/-- A compilation does not ask what follows a failure. -/
theorem compile_withFailFast (config : CompilerConfig) (failFast : Bool) (w : Workshop σ) (a : Action σ) :
    compile { config with failFast } w a = compile config w a := rfl

section

variable {config : CompilerConfig} {w w' w'' : Workshop σ} {a : Action σ} {as : List (Action σ)}
  {events more : List Event} {report : BatchReport σ} {log : List (String × Event)}

/-! ### One action of a batch -/

theorem compileAll_cons_ok {e : Endpoint σ} (compiled : compile config w a = (.ok e, w', events))
    (rest : compileAll config w' as = (report, w'', log)) :
    compileAll config w (a :: as) =
      ({ report with compiled := e :: report.compiled }, w'',
        events.map (fun event => (a.display, event)) ++ log) := by
  simp only [compileAll, compiled, rest]

theorem compileAll_cons_error {cause : CompileError}
    (failed : compile config w a = (.error cause, w', events)) (goesOn : config.failFast = false)
    (rest : compileAll config w as = (report, w'', log)) :
    compileAll config w (a :: as) =
      ({ report with failures := cause :: report.failures }, w'',
        events.map (fun event => (a.display, event)) ++ log) := by
  obtain rfl := compile_error_workshop failed
  simp [compileAll, failed, rest, goesOn]

theorem compileAll_cons_stop {cause : CompileError}
    (failed : compile config w a = (.error cause, w', events)) (stops : config.failFast = true) :
    compileAll config w (a :: as) =
      (⟨[], [cause]⟩, w, events.map fun event => (a.display, event)) := by
  obtain rfl := compile_error_workshop failed
  simp [compileAll, failed, stops]

end

/-! ### A whole batch -/

section

variable (config : CompilerConfig) (w w₀ : Workshop σ) (as : List (Action σ))

/-- What a batch does to a registry: it gains the keys of the units that were made, and these realize their
actions in what it becomes. -/
theorem compileAll_gains {report : BatchReport σ} {w' : Workshop σ} {log : List (String × Event)}
    (done : compileAll config w as = (report, w', log)) :
    w.registry.Grows w'.registry ∧
      w.registry.Gains (report.compiled.flatMap fun e => e.unit.handlerKeys) w'.registry ∧
        ∀ e ∈ report.compiled, e.unit.Realizes e.action w'.registry := by
  induction as generalizing w report log with
  | nil =>
      cases done
      exact ⟨.refl, Registry.Gains.refl _, fun _ none => absurd none List.not_mem_nil⟩
  | cons a rest ih =>
      rcases compiled : compile config w a with ⟨cause | e, w₁, events⟩
      · cases stops : config.failFast with
        | true =>
            rw [compileAll_cons_stop compiled stops] at done
            cases done
            exact ⟨.refl, Registry.Gains.refl _, fun _ none => absurd none List.not_mem_nil⟩
        | false =>
            rcases later : compileAll config w rest with ⟨report', w₂, log'⟩
            rw [compileAll_cons_error compiled stops later] at done
            cases done
            have rest := ih w later
            exact rest
      · rcases later : compileAll config w₁ rest with ⟨report', w₂, log'⟩
        rw [compileAll_cons_ok compiled later] at done
        cases done
        obtain ⟨grown, gained, realized⟩ := ih w₁ later
        obtain ⟨-, rfl, realizes, first⟩ := compile_realizes compiled
        exact ⟨first.trans grown, (compile_gains compiled).trans gained,
          List.forall_mem_cons.mpr ⟨realizes.grows grown, realized⟩⟩

/-- **A batch that goes on does to each action what is done to it alone.** -/
theorem compileAll_forall₂_solo {report : BatchReport σ} {w' : Workshop σ} {log : List (String × Event)}
    (goesOn : config.failFast = false) (done : compileAll config w as = (report, w', log)) :
    report.failures = as.filterMap (soloFailure? config w₀) ∧
      List.Forall₂ (fun e alone => e.ActsAs config w'.registry alone.2.registry alone.1)
        report.compiled (as.filterMap (solo? config w₀)) := by
  induction as generalizing w report log with
  | nil =>
      cases done
      exact ⟨rfl, .nil⟩
  | cons a rest ih =>
      rcases compiled : compile config w a with ⟨cause | e, w₁, events⟩
      · rcases later : compileAll config w rest with ⟨report', w₂, log'⟩
        rw [compileAll_cons_error compiled goesOn later] at done
        cases done
        obtain ⟨failures, endpoints⟩ := ih w later
        have refused := compile_eq_error_iff.mp (congrArg Prod.fst compiled)
        rw [List.filterMap_cons_some (soloFailure?_eq.trans refused),
          List.filterMap_cons_none (solo?_of_error compiled w₀)]
        exact ⟨congrArg (cause :: ·) failures, endpoints⟩
      · rcases later : compileAll config w₁ rest with ⟨report', w₂, log'⟩
        rw [compileAll_cons_ok compiled later] at done
        cases done
        obtain ⟨failures, endpoints⟩ := ih w₁ later
        obtain ⟨e₀, w₀', alone, acts⟩ := exists_solo compiled w₀
        rw [List.filterMap_cons_none (soloFailure?_eq.trans (refusal?_of_compile compiled)),
          List.filterMap_cons_some alone]
        -- The rest of the batch has only added handlers to those of this endpoint.
        exact ⟨failures, .cons (acts.grows (compileAll_gains config w₁ rest later).1) endpoints⟩

/-- **A batch that stops at its first failure** is the whole batch of the actions up to this one. -/
theorem compileAll_of_failFast (stops : config.failFast = true) :
    compileAll config w as =
      compileAll { config with failFast := false } w
        (as.take (as.findIdx (fun a => (soloFailure? config w₀ a).isSome) + 1)) := by
  induction as generalizing w with
  | nil => rfl
  | cons a rest ih =>
      rcases compiled : compile config w a with ⟨cause | e, w₁, events⟩
      · have refused := compile_eq_error_iff.mp (congrArg Prod.fst compiled)
        have here : (soloFailure? config w₀ a).isSome = true := by
          rw [soloFailure?_eq, refused, Option.isSome_some]
        rw [compileAll_cons_stop compiled stops, List.findIdx_cons, here, cond_true, List.take_succ_cons,
          List.take_zero, compileAll_cons_error (compile_withFailFast config false w a ▸ compiled) rfl rfl]
        simp [compileAll]
      · have passed : (soloFailure? config w₀ a).isSome = false := by
          rw [soloFailure?_eq, refusal?_of_compile compiled, Option.isSome_none]
        rw [compileAll_cons_ok compiled rfl, List.findIdx_cons, passed, cond_false, List.take_succ_cons,
          compileAll_cons_ok (compile_withFailFast config false w a ▸ compiled) rfl, ih w₁]

/-- **Actions of a batch are compiled as if alone.**  A batch that goes on after failures gives the errors of
the actions that do not compile alone and the endpoints of those that do, each in order; an endpoint is the
one that its action gets alone, but for what is drawn, and acts like it in every invocation.  A batch that
stops at a failure is the whole batch of the shortest part, from the first action on, that has one, or of all
actions if none fails.  The registry gains the handlers of the endpoints, under keys that were free, and is
otherwise as before. -/
theorem compileAll_solo :
    (config.failFast = false →
      (compileAll config w as).1.failures = as.filterMap (soloFailure? config w₀) ∧
        List.Forall₂
          (fun e alone => e.ActsAs config (compileAll config w as).2.1.registry alone.2.registry alone.1)
          (compileAll config w as).1.compiled (as.filterMap (solo? config w₀))) ∧
      (config.failFast = true →
        compileAll config w as =
          compileAll { config with failFast := false } w
            (as.take (as.findIdx (fun a => (soloFailure? config w₀ a).isSome) + 1))) ∧
      w.registry.Gains ((compileAll config w as).1.compiled.flatMap fun e => e.unit.handlerKeys)
          (compileAll config w as).2.1.registry ∧
        List.Forall₂
          (fun step key => ∃ l, step.logic? = some l ∧
            (compileAll config w as).2.1.registry.get? key = some l)
          ((compileAll config w as).1.compiled.flatMap fun e =>
            e.action.steps.filter fun step => step.kind.invokesLogic)
          ((compileAll config w as).1.compiled.flatMap fun e => e.unit.handlerKeys) := by
  obtain ⟨-, gained, realized⟩ := compileAll_gains config w as rfl
  refine ⟨fun goesOn => compileAll_forall₂_solo config w w₀ as goesOn rfl,
    fun stops => compileAll_of_failFast config w w₀ as stops, gained, ?_⟩
  generalize (compileAll config w as).1.compiled = compiled at realized
  induction compiled with
  | nil => exact .nil
  | cons e rest ih =>
      obtain ⟨here, later⟩ := List.forall_mem_cons.mp realized
      exact List.rel_append (forall₂_handlerKeys here.body) (ih later)

end

end HandlerChain
