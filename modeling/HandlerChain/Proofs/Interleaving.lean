import HandlerChain.Proofs.Registration
import HandlerChain.Proofs.Threading
import HandlerChain.Unit.Floor
import Mathlib.Logic.Function.Iterate

/-!
# Compilations do not interfere

Compilations that share a registry take turns, and units that are finished run in between.  A key that was
returned for a handler leads to it for ever, and no key is returned twice.  So a run that looks a handler up
finds the one that its own compilation has stored, and the run goes as if nobody else had stored anything.

That two floors agree cannot be shown run by run, since the handlers of all runs share one state.  It is shown
turn by turn: on a floor that is sound, a turn does the same whether runs see the shared registry or only the
entries of their own units, and it leaves a sound floor.

## Main Definitions

* `Compilation.Sound` says how far a compilation has come with its calls, and that its keys are its own.
* `Floor.Sound` is what turns keep.

## Main Results

* `DispatchUnit.iterate_advance`: the steps of a run, taken one after the other, are the run.
* `Floor.exists_takeAll_compile`: a compilation that is alone does what `compile` does.
* `Floor.Sound.take`: a turn keeps a floor sound, and does not depend on what runs see.
* `Floor.takeAll_apart`: compilations and runs that take turns do not interfere.
-/

namespace HandlerChain

namespace DispatchUnit

variable {σ : Type} {u : DispatchUnit σ} {registry registry' : Registry σ} {awaits : Bool}
  {args : Arguments} {host : Host σ}

/-- A step that calls a handler depends on the registry only by its own key. -/
theorem runStep_congr {call : StepCall}
    (agree : ∀ key, call.key? = some key → registry.get? key = registry'.get? key) (index : Nat)
    (previous : Option TypedValue) (s : σ) :
    u.runStep registry awaits index call args host previous s =
      u.runStep registry' awaits index call args host previous s := by
  have found : logic registry call = logic registry' call := by
    unfold logic
    cases keyed : call.key? with
    | none => rfl
    | some key => simp only [agree key keyed]
  rw [runStep, found, runStep]

/-- **A step of a run depends on the registry only by the keys of its unit.** -/
theorem advance_congr (agree : ∀ key ∈ u.handlerKeys, registry.get? key = registry'.get? key) :
    u.advance registry awaits args host = u.advance registry' awaits args host := by
  have same : ∀ call ∈ u.body, ∀ index previous s,
      u.runStep registry awaits index call args host previous s =
        u.runStep registry' awaits index call args host previous s := fun call member =>
    runStep_congr fun key keyed => agree key (List.mem_filterMap.mpr ⟨call, member, keyed⟩)
  funext ⟨stage, s⟩
  cases stage with
  | ended answer => rfl
  | before index previous =>
      rw [advance, advance]
      cases strategy : u.strategy with
      | direct =>
          rw [runDirect, runDirect]
          cases body : u.body with
          | nil => rfl
          | cons call rest => simp only [same call (by simp [body])]
      | sequenced =>
          cases found : u.body[index]? with
          | none => simp only [runFrom]
          | some call =>
              have same := same call (List.mem_of_getElem? found)
              cases shown : call.render? <;> simp [runFrom, shown, same]

/-- The steps of a sequence, taken one after the other, are the sequence. A run that has ended stays at its
end, so it does no harm that a step that renders or fails leaves no step to be taken. -/
theorem iterate_advance_before (sequenced : u.strategy = .sequenced) {calls : List StepCall} {index : Nat}
    (left : u.body.drop index = calls) (previous : Option TypedValue) (s : σ) :
    (u.advance registry awaits args host)^[calls.length + 1] (.before index previous, s) =
      (u.runFrom registry awaits args host index previous calls s).map .ended id := by
  have ended : ∀ n answer s', (u.advance registry awaits args host)^[n] (.ended answer, s') =
      (.ended answer, s') := fun n answer s' => Function.iterate_fixed rfl n
  induction calls generalizing index previous s with
  | nil =>
      have beyond : u.body[index]? = none :=
        List.getElem?_eq_none (List.drop_eq_nil_iff.mp left)
      simp only [List.length_nil, Nat.zero_add, Function.iterate_one, advance, sequenced, beyond]
      rfl
  | cons call rest ih =>
      have found : u.body[index]? = some call := by rw [← List.head?_drop, left, List.head?_cons]
      rw [List.length_cons, Function.iterate_succ_apply, advance, sequenced, found]
      cases shown : call.render? with
      | some t => simp only [Option.isSome_some, ↓reduceIte, ended, runFrom, shown]; rfl
      | none =>
          simp only [Option.isSome_none, Bool.false_eq_true, ↓reduceIte, runFrom, shown]
          rcases u.runStep registry awaits index call args host previous s with ⟨_ | v, s'⟩
          · exact ended _ _ s'
          · refine ih ?_ _ s'
            rw [← List.drop_drop, left, List.drop_one, List.tail_cons]

/-- **The steps of a run, taken one after the other, are the run.** -/
theorem iterate_advance (u : DispatchUnit σ) (registry : Registry σ) (awaits : Bool) (args : Arguments)
    (host : Host σ) (s : σ) :
    (u.advance registry awaits args host)^[u.body.length + 1] (u.begin awaits, s) =
      (if awaits then u.invoke registry args host s else u.invokeImmediate registry args host s).map
        .ended id := by
  have whole : (u.advance registry awaits args host)^[u.body.length + 1] (.before 0 none, s) =
      (u.run registry awaits args host s).map .ended id := by
    cases strategy : u.strategy with
    | direct =>
        rw [Function.iterate_succ_apply, advance, run]
        simp only [strategy]
        exact Function.iterate_fixed rfl _
    | sequenced => rw [iterate_advance_before strategy List.drop_zero, run, strategy]
  unfold begin invokeImmediate
  cases awaits with
  | true => simpa [invoke] using whole
  | false =>
      cases suspends : u.suspends with
      | true => exact Function.iterate_fixed rfl _
      | false => simpa using whole

/-- An invocation depends on the registry only by the keys of its unit. -/
theorem invocation_congr (agree : ∀ key ∈ u.handlerKeys, registry.get? key = registry'.get? key)
    (args : Arguments) (host : Host σ) (s : σ) :
    u.invoke registry args host s = u.invoke registry' args host s ∧
      u.invokeImmediate registry args host s = u.invokeImmediate registry' args host s := by
  have same : ∀ awaits : Bool,
      (if awaits then u.invoke registry args host s else u.invokeImmediate registry args host s).map
          Stage.ended id =
        (if awaits then u.invoke registry' args host s
          else u.invokeImmediate registry' args host s).map Stage.ended id := fun awaits => by
    rw [← iterate_advance, ← iterate_advance, advance_congr agree]
  have ended : ∀ x y : Except DispatchError Outcome × σ,
      x.map Stage.ended id = y.map Stage.ended id → x = y := by
    rintro ⟨x, s⟩ ⟨y, s'⟩ equal
    simpa using equal
  exact ⟨ended _ _ (same true), ended _ _ (same false)⟩

end DispatchUnit

variable {σ : Type}

namespace Compilation

variable {c : Compilation σ} {registry : Registry σ}

/-- How far a compilation has come: the calls of the body are registered among its own entries, the calls
that are left are those that the action still has, and the keys of the body are those of its entries, which
have been returned. -/
structure Sound (c : Compilation σ) (returned : List (HandlerKey × Logic σ)) : Prop where
  wellFormed : c.action.WellFormed
  calls : ∃ done, prepareAction c.action c.action.plan = .ok (c.parameters, done ++ c.left) ∧
    List.Forall₂ (StepCall.Registered c.own) done c.body
  keys : c.body.filterMap StepCall.key? = c.own.keys
  listed : c.stored ⊆ returned

theorem Sound.mono {returned returned' : List (HandlerKey × Logic σ)} (sound : c.Sound returned)
    (longer : returned ⊆ returned') : c.Sound returned' :=
  { sound with listed := List.Subset.trans sound.listed longer }

/-- A compilation starts if its action is well-formed, and has all of its calls left. -/
theorem start?_eq_some_iff {config : CompilerConfig} {number : Nat} {a : Action σ} :
    start? config number a = some c ↔
      a.WellFormed ∧ ∃ parameters calls, prepareAction a a.plan = .ok (parameters, calls) ∧
        c = { config, action := a, number, parameters, left := calls } := by
  unfold start?
  by_cases valid : a.Valid
  swap
  · have violations := mt a.violations_eq_nil_iff.mp valid
    have unformed : ¬a.WellFormed := fun wellFormed => valid wellFormed.toValid
    simp [violations, unformed]
  by_cases named : a.RoutesNamed
  swap
  · have stray := mt a.strayRouteParameter?_eq_none_iff.mp named
    have unformed : ¬a.WellFormed := fun wellFormed => named wellFormed.toRoutesNamed
    simp [stray, unformed]
  rw [a.violations_eq_nil_iff.mpr valid, a.strayRouteParameter?_eq_none_iff.mpr named]
  have formed : a.WellFormed ↔ ∃ r, prepareAction a a.plan = .ok r := by
    rw [Action.prepareAction_isOk_iff valid]
    exact ⟨fun wellFormed => wellFormed.toSignaturesFit, fun fit => ⟨valid, named, fit⟩⟩
  cases prepared : prepareAction a a.plan with
  | error e => simp [formed, prepared]
  | ok r =>
      obtain ⟨parameters, calls⟩ := r
      simp [formed, prepared, eq_comm]

theorem Sound.start {config : CompilerConfig} {number : Nat} {a : Action σ}
    (started : start? config number a = some c) (returned : List (HandlerKey × Logic σ)) :
    c.Sound returned := by
  obtain ⟨wellFormed, parameters, calls, prepared, rfl⟩ := start?_eq_some_iff.mp started
  exact ⟨wellFormed, ⟨[], prepared, .nil⟩, rfl, List.nil_subset _⟩

theorem turn_plain (registry : Registry σ) (source : KeySource) {call : StepCall}
    {left : List (StepCall × Option (Logic σ))} (remains : c.left = (call, none) :: left) :
    c.turn registry source = ([], { c with body := c.body ++ [call], left }, registry) := by
  simp only [turn, remains]

theorem turn_keyed (registry : Registry σ) (source : KeySource) {call : StepCall} {l : Logic σ}
    {left : List (StepCall × Option (Logic σ))} (remains : c.left = (call, some l) :: left) :
    c.turn registry source =
      let key := (registry.add source l).1
      ([(key, l)],
        { c with
          body := c.body ++ [{ call with key? := some key }], stored := c.stored ++ [(key, l)], left },
        (registry.add source l).2.1) := by
  simp only [turn, remains]

/-- A turn gains the keys that it returns. -/
theorem turn_gains (c : Compilation σ) (registry : Registry σ) (source : KeySource) :
    registry.Gains ((c.turn registry source).1.map Prod.fst) (c.turn registry source).2.2 := by
  unfold turn
  split
  · exact .refl registry
  · exact .refl registry
  · exact .add registry source _

theorem turn_grows (c : Compilation σ) (registry : Registry σ) (source : KeySource) :
    registry.Grows (c.turn registry source).2.2 := by
  unfold turn
  split
  · exact .refl
  · exact .refl
  · exact Registry.Grows.refl.add source _

theorem get?_turn {source : KeySource} {entry : HandlerKey × Logic σ}
    (returned : entry ∈ (c.turn registry source).1) :
    (c.turn registry source).2.2.get? entry.1 = some entry.2 := by
  unfold turn at returned ⊢
  split at returned
  · cases returned
  · cases returned
  · rw [List.mem_singleton] at returned
    exact returned ▸ registry.get?_add_self source _

/-- A call that is registered stays so when an entry comes to the end. -/
theorem registered_append {entries : List (HandlerKey × Logic σ)} {entry : HandlerKey × Logic σ}
    {call : StepCall × Option (Logic σ)} {call' : StepCall}
    (registered : StepCall.Registered ⟨entries⟩ call call') :
    StepCall.Registered ⟨entries ++ [entry]⟩ call call' := by
  cases registered with
  | plain => exact .plain _
  | keyed call found =>
      refine .keyed call ?_
      rw [Registry.get?] at found ⊢
      rw [List.lookup_append, found, Option.some_or]

/-- A key that is new among the entries leads to its handler, also at their end. -/
theorem get?_append_new {entries : List (HandlerKey × Logic σ)} {key : HandlerKey} (l : Logic σ)
    (new : key ∉ Registry.keys ⟨entries⟩) : Registry.get? ⟨entries ++ [(key, l)]⟩ key = some l := by
  have absent : entries.lookup key = none :=
    List.lookup_eq_none_iff.mpr fun entry stored =>
      bne_iff_ne.mpr fun same => new (List.mem_map.mpr ⟨entry, stored, same.symm⟩)
  rw [Registry.get?, List.lookup_append, absent, Option.none_or, List.lookup_cons_self]

/-- **A turn keeps a compilation sound.**  The key that it stores is free, so no own entry hides the new
one. -/
theorem Sound.turn {returned : List (HandlerKey × Logic σ)} (sound : c.Sound returned)
    (taken : ∀ entry ∈ returned, entry.1 ∈ registry.keys) (source : KeySource) :
    (c.turn registry source).2.1.Sound (returned ++ (c.turn registry source).1) := by
  obtain ⟨done, prepared, registered⟩ := sound.calls
  have blank : ∀ call ∈ c.left, call.1.key? = none := fun call member =>
    prepareSteps_key? (prepareAction_eq_ok_iff.mp prepared).2 call (List.mem_append_right done member)
  cases remains : c.left with
  | nil => simpa only [Compilation.turn, remains, List.append_nil] using sound
  | cons call left =>
      rw [remains] at blank prepared
      obtain ⟨call, _ | l⟩ := call
      · have keyless : call.key? = none := blank _ List.mem_cons_self
        rw [turn_plain registry source remains, List.append_nil]
        refine ⟨sound.wellFormed, ⟨done ++ [(call, none)], ?_, ?_⟩, ?_, sound.listed⟩
        · rwa [List.append_assoc]
        · exact List.rel_append registered (.cons (.plain call) .nil)
        · rw [List.filterMap_append, List.filterMap_cons_none keyless, List.filterMap_nil, List.append_nil]
          exact sound.keys
      · have new : (registry.add source l).1 ∉ c.own.keys := by
          intro own
          obtain ⟨entry, stored, same⟩ := List.mem_map.mp own
          exact registry.add_fst_notMem source l (same ▸ taken entry (sound.listed stored))
        rw [turn_keyed registry source remains]
        refine ⟨sound.wellFormed, ⟨done ++ [(call, some l)], ?_, ?_⟩, ?_, ?_⟩
        · rwa [List.append_assoc]
        · refine List.rel_append (registered.imp fun _ _ => registered_append) (.cons ?_ .nil)
          exact .keyed call (get?_append_new l new)
        · rw [List.filterMap_append, sound.keys]
          simp [Registry.keys, own]
        · exact List.append_subset.mpr
            ⟨List.subset_append_of_subset_left _ sound.listed, List.subset_append_right _ _⟩

/-- A finished compilation has a unit that carries out its action. -/
theorem Sound.realizes {returned : List (HandlerKey × Logic σ)} (sound : c.Sound returned)
    (finished : c.isFinished = true) : c.endpoint.unit.Realizes c.action c.own := by
  obtain ⟨done, prepared, registered⟩ := sound.calls
  rw [List.isEmpty_iff.mp finished, List.append_nil] at prepared
  obtain ⟨parameters, steps⟩ := prepareAction_eq_ok_iff.mp prepared
  exact ⟨parameters, realizes_of_prepareSteps (prepareSteps_forall₂ steps) registered, rfl, rfl⟩

/-- Each key of a finished unit leads to one of the own entries. -/
theorem Sound.exists_own {returned : List (HandlerKey × Logic σ)} (sound : c.Sound returned)
    {key : HandlerKey} (used : key ∈ c.endpoint.unit.handlerKeys) :
    ∃ l, c.own.get? key = some l ∧ (key, l) ∈ returned := by
  have own : key ∈ c.own.keys := sound.keys ▸ used
  obtain ⟨l, found⟩ := Registry.exists_get?_of_mem_keys own
  exact ⟨l, found, sound.listed (Registry.mem_entries_of_get? found)⟩

end Compilation

/-- The keys of a run lead to entries of its own unit that have been returned. -/
def Run.Sound (r : Run σ) (returned : List (HandlerKey × Logic σ)) : Prop :=
  ∀ key ∈ r.unit.handlerKeys, ∃ l, r.own.get? key = some l ∧ (key, l) ∈ returned

theorem Run.Sound.mono {r : Run σ} {returned returned' : List (HandlerKey × Logic σ)}
    (sound : r.Sound returned) (longer : returned ⊆ returned') : r.Sound returned' := by
  intro key used
  obtain ⟨l, found, listed⟩ := sound key used
  exact ⟨l, found, longer listed⟩

namespace Floor

variable {start : Registry σ} {f : Floor σ}

/-- What turns keep: the registry has gained the keys that were returned, each leads to its handler, and
compilations and runs use no others. -/
structure Sound (start : Registry σ) (f : Floor σ) : Prop where
  gains : start.Gains (f.returned.map Prod.fst) f.registry
  kept : ∀ entry ∈ f.returned, f.registry.get? entry.1 = some entry.2
  compilations : ∀ c ∈ f.compilations, c.Sound f.returned
  runs : ∀ r ∈ f.runs, r.Sound f.returned

theorem Sound.idle (registry : Registry σ) (state : σ) : Sound registry (idle registry state) where
  gains := .refl registry
  kept _ none := absurd none List.not_mem_nil
  compilations _ none := absurd none List.not_mem_nil
  runs _ none := absurd none List.not_mem_nil

/-- On a sound floor a run finds by its keys what its own compilation has stored. -/
theorem Sound.get?_eq (sound : Sound start f) {own : Registry σ} {key : HandlerKey} {l : Logic σ}
    (found : own.get? key = some l) (listed : (key, l) ∈ f.returned) :
    f.registry.get? key = own.get? key :=
  (sound.kept _ listed).trans found.symm

/-- What runs see of the registry makes no difference to a turn. -/
theorem Sound.take_congr (sound : Sound start f) (turn : Turn σ) :
    f.take .shared turn = f.take .apart turn := by
  cases turn with
  | start | compile | invoke => rfl
  | run j =>
      cases running : f.runs[j]? with
      | none => simp only [take, running]
      | some r =>
          have same : r.unit.advance f.registry r.awaits r.args r.host =
              r.unit.advance r.own r.awaits r.args r.host :=
            DispatchUnit.advance_congr fun key used => by
              obtain ⟨l, found, listed⟩ := sound.runs r (List.mem_of_getElem? running) key used
              exact sound.get?_eq found listed
          simp only [take, running, View.shared, View.apart, same]

/-- **A turn keeps a floor sound.** -/
theorem Sound.take (sound : Sound start f) (view : View σ) (turn : Turn σ) :
    Sound start (f.take view turn) := by
  cases turn with
  | start config number a =>
      refine { sound with compilations := fun c member => ?_ }
      rcases List.mem_append.mp member with old | new
      · exact sound.compilations c old
      · exact .start (Option.mem_toList.mp new) f.returned
  | compile i source =>
      cases compiling : f.compilations[i]? with
      | none => simpa only [Floor.take, compiling] using sound
      | some c =>
          have taken : ∀ entry ∈ f.returned, entry.1 ∈ f.registry.keys := fun entry listed =>
            Registry.mem_keys_of_get? (sound.kept entry listed)
          have next := (sound.compilations c (List.mem_of_getElem? compiling)).turn taken source
          have longer : f.returned ⊆ f.returned ++ (c.turn f.registry source).1 :=
            List.subset_append_left _ _
          simp only [Floor.take, compiling]
          refine ⟨?_, ?_, ?_, fun r member => (sound.runs r member).mono longer⟩
          · rw [List.map_append]
            exact sound.gains.trans (c.turn_gains f.registry source)
          · intro entry listed
            rcases List.mem_append.mp listed with old | new
            · exact (c.turn_grows f.registry source).get? (sound.kept entry old)
            · exact Compilation.get?_turn new
          · intro other member
            rcases List.mem_or_eq_of_mem_set member with old | rfl
            · exact (sound.compilations other old).mono longer
            · exact next
  | invoke i awaits args host =>
      cases compiling : f.compilations[i]? with
      | none => simpa only [Floor.take, compiling] using sound
      | some c =>
          simp only [Floor.take, compiling]
          split
          · refine { sound with runs := fun r member => ?_ }
            rcases List.mem_append.mp member with old | new
            · exact sound.runs r old
            · rw [List.mem_singleton.mp new]
              exact fun key used =>
                (sound.compilations c (List.mem_of_getElem? compiling)).exists_own used
          · exact sound
  | run j =>
      cases running : f.runs[j]? with
      | none => simpa only [Floor.take, running] using sound
      | some r =>
          simp only [Floor.take, running]
          refine { sound with runs := fun other member => ?_ }
          rcases List.mem_or_eq_of_mem_set member with old | rfl
          · exact sound.runs other old
          · exact sound.runs r (List.mem_of_getElem? running)

@[simp] theorem takeAll_nil (f : Floor σ) (view : View σ) : f.takeAll view [] = f := rfl

@[simp] theorem takeAll_cons (f : Floor σ) (view : View σ) (turn : Turn σ) (rest : List (Turn σ)) :
    f.takeAll view (turn :: rest) = (f.take view turn).takeAll view rest := rfl

theorem take_grows (f : Floor σ) (view : View σ) (turn : Turn σ) :
    f.registry.Grows (f.take view turn).registry := by
  cases turn with
  | start => exact .refl
  | compile i source =>
      cases compiling : f.compilations[i]? with
      | none => simpa only [take, compiling] using .refl
      | some c => simpa only [take, compiling] using c.turn_grows f.registry source
  | invoke i =>
      cases compiling : f.compilations[i]? with
      | none => simpa only [take, compiling] using .refl
      | some c =>
          simp only [take, compiling]
          split <;> exact .refl
  | run j =>
      cases running : f.runs[j]? with
      | none => simpa only [take, running] using .refl
      | some r => simpa only [take, running] using .refl

theorem takeAll_grows (f : Floor σ) (view : View σ) (turns : List (Turn σ)) :
    f.registry.Grows (f.takeAll view turns).registry := by
  induction turns generalizing f with
  | nil => exact .refl
  | cons turn rest ih => exact (f.take_grows view turn).trans (ih (f.take view turn))

/-- **A sound floor stays sound, and it makes no difference what runs see of the registry.** -/
theorem Sound.takeAll (sound : Sound start f) (turns : List (Turn σ)) :
    Sound start (f.takeAll .shared turns) ∧ f.takeAll .shared turns = f.takeAll .apart turns := by
  induction turns generalizing f with
  | nil => exact ⟨sound, rfl⟩
  | cons turn rest ih =>
      obtain ⟨later, same⟩ := ih (sound.take .shared turn)
      rw [takeAll_cons, takeAll_cons, ← sound.take_congr turn]
      exact ⟨later, same⟩

theorem take_compile (view : View σ) {i : Nat} {c c' : Compilation σ} {source : KeySource}
    {new : List (HandlerKey × Logic σ)} {registry : Registry σ} (compiling : f.compilations[i]? = some c)
    (turned : c.turn f.registry source = (new, c', registry)) :
    f.take view (.compile i source) =
      { f with registry, returned := f.returned ++ new, compilations := f.compilations.set i c' } := by
  simp only [take, compiling, turned]

/-- A compilation that is given turns until no call is left does what registering its calls does. -/
theorem exists_takeAll_register (view : View σ) {w : Workshop σ} (shared : f.registry = w.registry) {i : Nat}
    {c : Compilation σ} (compiling : f.compilations[i]? = some c)
    {calls : List (StepCall × Option (Logic σ))} (left : c.left = calls) (n : Nat) :
    ∃ turns new,
      f.takeAll view turns =
        { f with
          registry := (w.register n calls).2.1.registry, returned := f.returned ++ new,
          compilations := f.compilations.set i
            { c with
              body := c.body ++ (w.register n calls).1, stored := c.stored ++ new, left := [] } } := by
  have inside := (List.getElem?_eq_some_iff.mp compiling).1
  -- The induction is on the calls that are left; each takes one turn, which leaves `c` with one call less.
  induction calls generalizing f w c n with
  | nil =>
      have here := (List.getElem?_eq_some_iff.mp compiling).2
      have same : { c with left := [] } = c := by rw [← left]
      have unchanged : f.compilations.set i c = f.compilations := by
        rw [← here, List.set_getElem_self]
      refine ⟨[], [], ?_⟩
      simp only [Workshop.register, List.append_nil, same, unchanged, ← shared, takeAll_nil]
  | cons call rest ih =>
      obtain ⟨call, _ | l⟩ := call
      · have step := take_compile view compiling
          (Compilation.turn_plain f.registry w.keys left)
        obtain ⟨turns, new, later⟩ := ih (f := f.take view (.compile i w.keys)) (w := w)
          (c := { c with body := c.body ++ [call], left := rest }) (by rw [step, shared])
          (by rw [step, List.getElem?_set_self inside]) rfl (n + 1) (by simpa [step] using inside)
        refine ⟨.compile i w.keys :: turns, new, ?_⟩
        rw [takeAll_cons, later, step]
        simp [Workshop.register]
      · have step := take_compile view compiling
          (Compilation.turn_keyed f.registry w.keys left)
        rw [shared] at step
        obtain ⟨turns, new, later⟩ := ih (f := f.take view (.compile i w.keys))
          (w := { w with registry := (w.registry.add w.keys l).2.1, keys := (w.registry.add w.keys l).2.2 })
          (by rw [step]) (by rw [step, List.getElem?_set_self inside]) rfl (n + 1)
          (by simpa [step] using inside)
        refine ⟨.compile i w.keys :: turns, ((w.registry.add w.keys l).1, l) :: new, ?_⟩
        rw [takeAll_cons, later, step]
        simp [Workshop.register]

/-- **A compilation that takes all its turns at once is a compilation.**  It leaves the registry and the
endpoint that `compile` leaves. -/
theorem exists_takeAll_compile (view : View σ) {config : CompilerConfig} {w w' : Workshop σ} {a : Action σ}
    {e : Endpoint σ} {events : List Event} (shared : f.registry = w.registry)
    (compiled : compile config w a = (.ok e, w', events)) :
    ∃ turns new c, c.isFinished = true ∧ c.endpoint = e ∧
      f.takeAll view turns =
        { f with
          registry := w'.registry, returned := f.returned ++ new,
          compilations := f.compilations ++ [c] } := by
  obtain ⟨wellFormed, -⟩ := compile_realizes compiled
  obtain ⟨⟨parameters, calls⟩, prepared⟩ :=
    (Action.prepareAction_isOk_iff wellFormed.toValid).mpr wellFormed.toSignaturesFit
  rw [compile_of_routesNamed config w wellFormed.toValid wellFormed.toRoutesNamed, synthesize] at compiled
  simp only [prepared, Prod.mk.injEq, Except.ok.injEq] at compiled
  obtain ⟨rfl, rfl, -⟩ := compiled
  have started : f.take view (.start config w.units a) =
      { f with
        compilations := f.compilations ++
          [{ config, action := a, number := w.units, parameters, left := calls }] } := by
    rw [take, Compilation.start?_eq_some_iff.mpr ⟨wellFormed, parameters, calls, prepared, rfl⟩,
      Option.toList_some]
  obtain ⟨turns, new, later⟩ := exists_takeAll_register (f := f.take view (.start config w.units a)) view
    (w := w) (i := f.compilations.length) (by rw [started, shared]) (by rw [started, List.getElem?_concat_length])
    rfl 0
  refine ⟨.start config w.units a :: turns, new,
    ⟨config, a, w.units, parameters, (w.register 0 calls).1, new, []⟩, rfl, ?_, ?_⟩
  · rw [Compilation.endpoint, w.register_units]
  · rw [takeAll_cons, later, started]
    simp

end Floor

/-- **Compilations and runs that take turns do not interfere**, whichever turn is next and whatever keys are
drawn.  The keys that are returned were free and differ from each other, and each leads for ever to the
handler that it was returned for.  All floors are as if each run saw no more than the entries of its own
unit; and when a unit is finished it has the keys of these entries, and goes from then on as with these
entries alone, namely as its action means. -/
theorem Floor.takeAll_apart (registry : Registry σ) (state : σ) (turns : List (Turn σ)) :
    let floor := (idle registry state).takeAll .shared turns
    registry.Gains (floor.returned.map Prod.fst) floor.registry ∧
      floor = (idle registry state).takeAll .apart turns ∧
      ∀ more : List (Turn σ), let later := floor.takeAll .shared more
        (∀ key l, (key, l) ∈ floor.returned → later.registry.get? key = some l) ∧
        ∀ c ∈ floor.compilations, c.isFinished = true →
          c.endpoint.unit.handlerKeys = c.own.keys ∧
            ∀ args host s,
              c.endpoint.unit.invoke later.registry args host s =
                c.endpoint.unit.invoke c.own args host s ∧
              c.endpoint.unit.invokeImmediate later.registry args host s =
                c.endpoint.unit.invokeImmediate c.own args host s ∧
              c.endpoint.unit.invoke c.own args host s = c.action.meaning args host s := by
  intro floor
  obtain ⟨sound, same⟩ := (Sound.idle registry state).takeAll turns
  refine ⟨sound.gains, same, fun more => ?_⟩
  have kept : ∀ key l, (key, l) ∈ floor.returned →
      (floor.takeAll .shared more).registry.get? key = some l := fun key l returned =>
    (floor.takeAll_grows .shared more).get? (sound.kept _ returned)
  refine ⟨kept, fun c member finished => ?_⟩
  have compiled := sound.compilations c member
  refine ⟨compiled.keys, fun args host s => ?_⟩
  obtain ⟨invoke, immediate⟩ := DispatchUnit.invocation_congr (u := c.endpoint.unit)
    (fun key used => by
      obtain ⟨l, found, returned⟩ := compiled.exists_own used
      exact (kept key l returned).trans found.symm) args host s
  have meaning := (compiled.realizes finished).invoke_eq_meaning compiled.wellFormed.toValid args host s
  exact ⟨invoke, immediate, meaning⟩

end HandlerChain
