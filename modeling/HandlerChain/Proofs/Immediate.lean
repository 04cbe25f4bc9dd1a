import HandlerChain.Proofs.Soundness

/-!
# Running without waiting

A unit can be run by a caller that does not wait for handlers that suspend.  Whether it would have to is
decided before the run, by the shape of the unit; the shape is made of what the steps declare, and what they
declare was compared with their handlers.  So a unit with a handler that suspends is refused untouched, and a
run of any other comes to no point at which it would wait.

## Main Definitions

* `DispatchUnit.Waits` says that a handler of a unit suspends.

## Main Results

* `StepCall.Realizes.suspends_iff`: a call declares that it suspends exactly if its handler does.
* `DispatchUnit.runStep_awaits` and `DispatchUnit.run_awaits`: where no handler suspends, waiting makes no
  difference.
* `DispatchUnit.invoke_wouldSuspend`: a run that waits is never refused, unless by its surroundings.
* `invokeImmediate_compiled` puts these together for the units of all actions that compile.
-/

namespace HandlerChain

/-! ### Handlers that suspend -/

/-- One of the handlers that a unit calls suspends. -/
def DispatchUnit.Waits {σ : Type} (u : DispatchUnit σ) (registry : Registry σ) : Prop :=
  ∃ call ∈ u.body, ∃ l, logic registry call = .ok l ∧ l.suspends = true

namespace StepCall.Realizes

variable {σ : Type} {plan : Plan σ} {registry : Registry σ} {step : Step σ} {call : StepCall}

/-- The handler of a call is the handler of its step; a call that renders has none. -/
theorem logic_eq_ok_iff (realizes : Realizes plan registry step call) {l : Logic σ} :
    DispatchUnit.logic registry call = .ok l ↔ step.kind.isRender = false ∧ step.logic? = some l := by
  cases realizes with
  | render render => simp [DispatchUnit.logic, render]
  | handler render logic _ _ registered => simp [DispatchUnit.logic, registered, render, logic]

/-- **A call declares that it suspends exactly if its handler does.** -/
theorem suspends_iff (realizes : Realizes plan registry step call) :
    call.suspends = true ↔ ∃ l, DispatchUnit.logic registry call = .ok l ∧ l.suspends = true := by
  cases realizes with
  | render => simp [DispatchUnit.logic]
  | handler _ _ fits _ registered => simp [DispatchUnit.logic, registered, fits.suspends]

end StepCall.Realizes

namespace DispatchUnit.Realizes

variable {σ : Type} {u : DispatchUnit σ} {a : Action σ} {registry : Registry σ}

/-- A unit waits exactly if a step of its action has a handler to call that suspends. -/
theorem waits_iff (realizes : u.Realizes a registry) :
    u.Waits registry ↔
      ∃ step ∈ a.steps, step.kind.isRender = false ∧ ∃ l, step.logic? = some l ∧ l.suspends = true := by
  constructor
  · rintro ⟨call, called, l, found, suspends⟩
    obtain ⟨step, member, carries⟩ := exists_mem_of_forall₂ realizes.body.flip called
    obtain ⟨render, logic⟩ := carries.logic_eq_ok_iff.mp found
    exact ⟨step, member, render, l, logic, suspends⟩
  · rintro ⟨step, member, render, l, logic, suspends⟩
    obtain ⟨call, called, carries⟩ := exists_mem_of_forall₂ realizes.body member
    exact ⟨call, called, l, carries.logic_eq_ok_iff.mpr ⟨render, logic⟩, suspends⟩

/-- The shape of a unit tells whether it waits. -/
theorem suspends_iff_waits (realizes : u.Realizes a registry) (shape : u.returns = returnShapeOf u.body) :
    u.suspends = true ↔ u.Waits registry := by
  have declared : u.suspends = true ↔ ∃ call ∈ u.body, call.suspends = true := by
    rw [suspends, shape, decide_eq_true_iff, returnShapeOf, ← List.any_eq_true]
    split <;> simp [*]
  rw [declared, Waits]
  refine exists_congr fun call => and_congr_right fun called => ?_
  obtain ⟨_, -, carries⟩ := exists_mem_of_forall₂ realizes.body.flip called
  exact carries.suspends_iff

end DispatchUnit.Realizes

namespace DispatchUnit

variable {σ : Type} {u : DispatchUnit σ} {registry : Registry σ} {args : Arguments} {host : Host σ}

/-! ### Waiting makes no difference -/

/-- A call whose handler does not suspend is done at once. -/
theorem runStep_awaits {call : StepCall}
    (ready : ∀ l, logic registry call = .ok l → l.suspends = false) (awaits : Bool) (index : Nat)
    (previous : Option TypedValue) (s : σ) :
    u.runStep registry awaits index call args host previous s =
      u.runStep registry true index call args host previous s := by
  unfold runStep
  cases found : logic registry call with
  | error e => rfl
  | ok l =>
      rcases u.resolveArgs index args host previous call.args s with ⟨_ | vs, s'⟩
      · rfl
      · cases accepted : Args.ofList l.params vs <;> simp [Logic.call, accepted, ready l found]

/-- So is a sequence of such calls. -/
theorem runFrom_awaits {calls : List StepCall}
    (ready : ∀ call ∈ calls, ∀ l, logic registry call = .ok l → l.suspends = false) (awaits : Bool)
    (index : Nat) (previous : Option TypedValue) (s : σ) :
    u.runFrom registry awaits args host index previous calls s =
      u.runFrom registry true args host index previous calls s := by
  induction calls generalizing index previous s with
  | nil => rfl
  | cons call rest ih =>
      rw [runFrom, runFrom, runStep_awaits (ready call List.mem_cons_self) awaits]
      simp only [ih fun c member => ready c (List.mem_cons_of_mem call member)]

/-- **Where no handler suspends, waiting makes no difference**: every step gives the same, also the one that
fails. -/
theorem run_awaits (ready : ¬u.Waits registry) (awaits : Bool) (s : σ) :
    u.run registry awaits args host s = u.run registry true args host s := by
  have each : ∀ call ∈ u.body, ∀ l, logic registry call = .ok l → l.suspends = false := by
    intro call called l found
    exact Bool.eq_false_iff.mpr fun suspends => ready ⟨call, called, l, found, suspends⟩
  unfold run
  cases u.strategy with
  | sequenced => exact runFrom_awaits each awaits 0 none s
  | direct =>
      simp only [runDirect]
      cases body : u.body with
      | nil => rfl
      | cons call rest => simp only [runStep_awaits (each call (by simp [body])) awaits]

/-! ### Refusals -/

/-- **A run that waits is refused by its surroundings only**, where they answer so when a result is shown. -/
theorem invoke_wouldSuspend {s s' : σ} (refused : u.invoke registry args host s = (.error .wouldSuspend, s')) :
    ∃ request s'', host.render request s'' = (.error .wouldSuspend, s') := by
  cases invoke_error refused with
  | render request t shown => exact ⟨request, t, shown⟩

end DispatchUnit

/-- **A unit is run without waiting exactly if none of its handlers suspends.**  If one does, the run is
refused, whatever the handlers are, and nothing has been done.  If none does, the outcome or the error and the
work on the state are those of a run that waits; and such a run is refused only where the surroundings
themselves answer so when they are asked to show the result.  The handlers of a unit are those of the steps
that do not render. -/
theorem invokeImmediate_compiled {σ : Type} {config : CompilerConfig} {w w' : Workshop σ} {a : Action σ}
    {e : Endpoint σ} {events : List Event} {registry : Registry σ}
    (compiled : compile config w a = (.ok e, w', events)) (grown : w'.registry.Grows registry)
    (args : Arguments) (host : Host σ) (s : σ) :
    (e.unit.Waits registry ↔
      ∃ step ∈ a.steps, step.kind.isRender = false ∧ ∃ l, step.logic? = some l ∧ l.suspends = true) ∧
    (e.unit.Waits registry → ∀ anyRegistry : Registry σ,
      e.unit.invokeImmediate anyRegistry args host s = (.error .wouldSuspend, s)) ∧
    (¬e.unit.Waits registry →
      e.unit.invokeImmediate registry args host s = e.unit.invoke registry args host s ∧
      ∀ s', e.unit.invokeImmediate registry args host s = (.error .wouldSuspend, s') →
        ∃ request s'', host.render request s'' = (.error .wouldSuspend, s')) := by
  obtain ⟨-, -, realizes, -⟩ := compile_realizes compiled
  have realizes := realizes.grows grown
  have shape : e.unit.returns = returnShapeOf e.unit.body := by
    obtain ⟨⟨parameters, body, rfl⟩, -⟩ := exists_endpoint_of_compile compiled
    rfl
  have suspends := realizes.suspends_iff_waits shape
  refine ⟨realizes.waits_iff, fun waits anyRegistry => ?_, fun ready => ?_⟩
  · rw [DispatchUnit.invokeImmediate, if_pos (suspends.mpr waits)]
  · have immediate : e.unit.invokeImmediate registry args host s = e.unit.invoke registry args host s := by
      rw [DispatchUnit.invokeImmediate, if_neg fun shape => ready (suspends.mp shape),
        DispatchUnit.run_awaits ready, DispatchUnit.invoke]
    refine ⟨immediate, fun s' refused => ?_⟩
    rw [immediate] at refused
    exact DispatchUnit.invoke_wouldSuspend refused

/-- Keeping a note suspends, so a caller that does not wait is refused and no note is kept; finding one does
not, and there is none. -/
theorem createNote_invokeImmediate :
    let new : Arguments :=
      .ofValues [⟨Notes.newNoteType, "Milk", "two", ()⟩, ⟨.service Notes.storeName, (0 : Nat)⟩]
    let wanted : Arguments := .ofValues [⟨.service Notes.storeName, (0 : Nat)⟩, ⟨.int .u64, IntKind.wrap .u64 1⟩]
    let host : Host NoteStore := .detached .empty
    ∃ (e e' : Endpoint NoteStore) (w w' : Workshop NoteStore) (events events' : List Event),
      compile {} .empty Notes.createNote = (.ok e, w, events) ∧
      compile {} w Notes.getNote = (.ok e', w', events') ∧ w.registry.Grows w'.registry ∧
        e.unit.invokeImmediate w'.registry new host .empty = (.error .wouldSuspend, .empty) ∧
        e'.unit.invokeImmediate w'.registry wanted host .empty =
          (.ok (.value ⟨.encoded (.option Notes.noteType), .option Notes.noteType, none⟩), .empty) := by
  intro new wanted host
  have creates := Notes.wellFormed_of_mem (a := Notes.createNote) (by simp [Notes.actions])
  have finds := Notes.wellFormed_of_mem (a := Notes.getNote) (by simp [Notes.actions])
  obtain ⟨e, w, events, compiled⟩ := exists_compile_of_wellFormed {} .empty creates
  obtain ⟨e', w', events', compiled'⟩ := exists_compile_of_wellFormed {} w finds
  obtain ⟨-, -, realizes', grown⟩ := compile_realizes compiled'
  obtain ⟨waits_iff, refused, -⟩ := invokeImmediate_compiled compiled grown new host .empty
  obtain ⟨waits_iff', -, agrees⟩ := invokeImmediate_compiled compiled' .refl wanted host .empty
  have waits : e.unit.Waits w'.registry := waits_iff.mpr ⟨_, .tail _ (.head _), rfl, _, rfl, rfl⟩
  have ready : ¬e'.unit.Waits w'.registry := by
    rw [waits_iff']
    rintro ⟨step, member, -, l, logic, suspends⟩
    cases List.mem_singleton.mp member
    cases logic
    cases suspends
  refine ⟨e, e', w, w', events, events', compiled, compiled', grown, refused waits _, ?_⟩
  rw [(agrees ready).1, realizes'.invoke_eq_meaning finds.toValid]
  rfl

end HandlerChain
