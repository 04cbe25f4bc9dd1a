import HandlerChain.Action.Validation
import HandlerChain.Action.WellFormed
import HandlerChain.Notes.Actions
import Mathlib.Data.List.Basic

/-!
# Verdicts on steps

Validation walks a chain and collects what is wrong.  What it collects is the same as if each step were judged by
itself: a step has a list of rules, and for each rule that it breaks something is said of it.  Besides the step
itself only where it stands is asked for, and a step that takes the place of another leaves the others standing
where they stood if it declares the same type.

That a chain does not end with a side effect is a rule for its last step, behind the other rules for it.

## Main Definitions

* `Standing` is where a step stands, `Rule` a rule for a step.
* `Rule.Broken` says when a step breaks a rule, `Rule.violation` what is said of it then.
* `Step.verdict` is what is said of a step, `Action.verdict` of the step with a number.

## Main Results

* `Step.violations_eq_verdict`: what validation finds wrong with a step is its verdict.
* `Action.violations_eq_verdicts`: what validation finds are the verdicts on the steps.
* `Action.mem_violations` says where a violation comes from.
* `violations_independent` puts this together: every violation is reported, and each on its own.
-/

namespace HandlerChain

/-- What a step is judged by besides itself: its number, the type that the step before declares, whether it is
the last, and whether the action has a view. -/
structure Standing where
  number : Nat
  before? : Option Ty
  isLast : Bool
  hasView : Bool
  deriving DecidableEq, Repr

/-- What validation has in hand before a step fits where the step stands. -/
structure Standing.Follows (p : Standing) (before : Option (Option ValueType)) : Prop where
  start : before = none ↔ p.number = 0
  type : (before.bind fun t => t).map ValueType.ty = p.before?

/-- A rule for a step; some are for each of its bindings. -/
inductive Rule (σ : Type) where
  /-- A step that has to produce a value declares its type. -/
  | declares
  /-- A step that calls a handler has one. -/
  | handled
  /-- A step that renders is the last. -/
  | endsChain
  /-- What the last step renders is not rendered again. -/
  | rendersAlone
  /-- A step that renders takes no arguments. -/
  | unbound
  /-- A step that renders has something to render. -/
  | hasModel
  /-- The result before is read as what the step before declares. -/
  | reads (b : Binding σ)
  /-- A default is a value of the type of its binding. -/
  | fallsBack (b : Binding σ)
  /-- The last step produces something. -/
  | yields

namespace Rule

variable {σ : Type}

/-- Whether a step breaks a rule where it stands. -/
def Broken (s : Step σ) (p : Standing) : Rule σ → Prop
  | declares => s.kind.needsValue = true ∧ s.returnType? = none
  | handled => s.kind.invokesLogic = true ∧ s.logic?.isNone = true
  | endsChain => s.kind.isRender = true ∧ p.isLast = false
  | rendersAlone => s.kind.isRender = true ∧ p.isLast = true ∧ p.hasView = true
  | unbound => s.kind.isRender = true ∧ s.bindings.isEmpty = false
  | hasModel => s.kind.isRender = true ∧ p.before? = none
  | reads b => b.kind = .previousHandlerResult ∧ p.before? ≠ some b.type.ty
  | fallsBack b => ∃ v ∈ b.default?, v.ty ≠ b.type.ty
  | yields => p.isLast = true ∧ s.kind = .sideEffect

instance (s : Step σ) (p : Standing) : DecidablePred (Broken s p)
  | declares | handled | endsChain | rendersAlone | unbound | hasModel | reads _ | yields =>
    inferInstanceAs (Decidable (_ ∧ _))
  | fallsBack _ => inferInstanceAs (Decidable (∃ _ ∈ _, _))

/-- What is said of a step that breaks a rule. -/
def violation (s : Step σ) (p : Standing) : Rule σ → Violation
  | declares => .noReturnType p.number s.kind
  | handled => .noLogic p.number s.kind
  | endsChain => .renderNotLast p.number
  | rendersAlone => .renderConflict p.number
  | unbound => .renderBindings p.number
  | hasModel => .renderNothing p.number
  | reads b =>
    if p.number = 0 then .previousAtStart
    else match p.before? with
      | none => .previousEmpty (p.number - 1)
      | some t => .previousType p.number b.type.name t.name
  | fallsBack b => .defaultType b.display p.number b.type.name
  | yields => .sideEffectLast

end Rule

namespace Step

variable {σ : Type}

/-- The rules for a step, in order. -/
def rules (s : Step σ) : List (Rule σ) :=
  [.declares, .handled, .endsChain, .rendersAlone, .unbound, .hasModel] ++
    s.bindings.flatMap (fun b => [.reads b, .fallsBack b]) ++ [.yields]

/-- The rules for a step are all that are not about a binding, and those about its bindings. -/
theorem mem_rules {s : Step σ} {r : Rule σ} :
    r ∈ s.rules ↔ ∀ b, r = .reads b ∨ r = .fallsBack b → b ∈ s.bindings := by
  cases r <;> simp [rules]

/-- One violation for each rule that a step breaks where it stands. -/
def verdict (s : Step σ) (p : Standing) : List Violation :=
  (s.rules.filter (Rule.Broken s p)).map (Rule.violation s p)

theorem filter_map_violation (s : Step σ) (p : Standing) (rules : List (Rule σ)) :
    (rules.filter (Rule.Broken s p)).map (Rule.violation s p) =
      rules.flatMap fun r => if r.Broken s p then [r.violation s p] else [] := by
  induction rules with
  | nil => rfl
  | cons r rest ih =>
      rw [List.flatMap_cons, ← ih]
      by_cases broken : r.Broken s p <;> simp [broken]

variable {s : Step σ} {p : Standing} {before : Option (Option ValueType)}

theorem previousViolations_eq (follows : p.Follows before) {b : Binding σ}
    (reads : b.kind = .previousHandlerResult) :
    previousViolations p.number before b.type =
      if (Rule.reads b).Broken s p then [(Rule.reads b).violation s p] else [] := by
  obtain ⟨start, type⟩ := follows
  match before with
  | none => simp [previousViolations, Rule.Broken, Rule.violation, reads, start.mp rfl, ← type]
  | some none =>
      have later : p.number ≠ 0 := fun first => by simpa using start.mpr first
      simp [previousViolations, Rule.Broken, Rule.violation, reads, later, ← type]
  | some (some t) =>
      have later : p.number ≠ 0 := fun first => by simpa using start.mpr first
      by_cases same : t.ty = b.type.ty <;>
        simp [previousViolations, Rule.Broken, Rule.violation, reads, later, ← type, ValueType.same,
          ValueType.name, same]

theorem bindingViolations_eq (follows : p.Follows before) (b : Binding σ) :
    bindingViolations p.number before b = [Rule.reads b, Rule.fallsBack b].flatMap fun r =>
      if r.Broken s p then [r.violation s p] else [] := by
  have reads : (if b.kind = .previousHandlerResult then previousViolations p.number before b.type else []) =
      if (Rule.reads b).Broken s p then [(Rule.reads b).violation s p] else [] := by
    by_cases reads : b.kind = .previousHandlerResult
    · rw [if_pos reads, previousViolations_eq follows reads]
    · rw [if_neg reads, if_neg fun broken => reads broken.1]
  rw [bindingViolations, reads]
  cases given : b.default? with
  | none => simp [Rule.Broken, given]
  | some v => by_cases same : v.ty = b.type.ty <;> simp [Rule.Broken, Rule.violation, given, Dyn.is, same]

/-- What validation finds wrong with a step is its verdict. -/
theorem violations_eq_verdict (follows : p.Follows before) :
    s.violations p.number p.isLast p.hasView before ++
        (if p.isLast = true ∧ s.kind = .sideEffect then [.sideEffectLast] else []) =
      s.verdict p := by
  -- The conditions of validation, rule by rule.
  have declares : (s.kind.needsValue && s.returnType?.isNone) = true ↔ Rule.declares.Broken s p := by
    simp [Rule.Broken]
  have handled : (s.kind.invokesLogic && s.logic?.isNone) = true ↔ Rule.handled.Broken s p := by
    simp [Rule.Broken]
  have endsChain : (s.kind.isRender && !p.isLast) = true ↔ Rule.endsChain.Broken s p := by
    simp [Rule.Broken]
  have rendersAlone : (s.kind.isRender && p.isLast && p.hasView) = true ↔ Rule.rendersAlone.Broken s p := by
    simp [Rule.Broken, and_assoc]
  have unbound : (s.kind.isRender && !s.bindings.isEmpty) = true ↔ Rule.unbound.Broken s p := by
    simp [Rule.Broken]
  have hasModel : (s.kind.isRender && (before.bind fun t => t).isNone) = true ↔ Rule.hasModel.Broken s p := by
    simp [Rule.Broken, ← follows.type]
  have yields : p.isLast = true ∧ s.kind = .sideEffect ↔ Rule.yields.Broken s p := Iff.rfl
  rw [verdict, filter_map_violation, rules, violations, funext (bindingViolations_eq (s := s) follows)]
  simp only [declares, handled, endsChain, rendersAlone, unbound, hasModel, yields, Rule.violation,
    List.flatMap_append, List.flatMap_assoc, List.flatMap_cons, List.flatMap_nil, List.append_nil,
    List.append_assoc]

end Step

/-- What stands before the step at a position: the given result before the first, else that of the step
before. -/
def Step.resultBefore {σ : Type} (first : Option (Option ValueType)) (steps : List (Step σ)) :
    Nat → Option (Option ValueType)
  | 0 => first
  | j + 1 => steps[j]?.map Step.returnType?

namespace Action

variable {σ : Type}

/-- Where a step of an action stands. -/
def standing (a : Action σ) (j : Nat) : Standing where
  number := j
  before? := (a.typeBefore? j).map ValueType.ty
  isLast := j + 1 = a.steps.length
  hasView := a.view?.isSome

/-- The verdict on the step with a number. -/
def verdict (a : Action σ) (j : Nat) : List Violation :=
  (a.steps[j]?.map fun s => s.verdict (a.standing j)).getD []

/-- The action with another step in the place of one. -/
def withStep (a : Action σ) (k : Nat) (s : Step σ) : Action σ := { a with steps := a.steps.set k s }

variable {a : Action σ} {s : Step σ} {j k : Nat}

theorem verdict_of_getElem? (found : a.steps[j]? = some s) : a.verdict j = s.verdict (a.standing j) := by
  rw [verdict, found, Option.map_some, Option.getD_some]

theorem resultBefore_bind (a : Action σ) (i : Nat) :
    ((Step.resultBefore none a.steps i).bind fun t => t) = a.typeBefore? i := by
  cases i with
  | zero => rfl
  | succ j => cases h : a.steps[j]? <;> simp [Step.resultBefore, typeBefore?, h]

theorem follows_standing (found : a.steps[j]? = some s) :
    (a.standing j).Follows (Step.resultBefore none a.steps j) := by
  refine ⟨?_, congrArg (Option.map ValueType.ty) (a.resultBefore_bind j)⟩
  cases j with
  | zero => exact iff_of_true rfl rfl
  | succ i =>
      have within : i < a.steps.length := Nat.lt_of_succ_lt (List.getElem?_eq_some_iff.mp found).1
      simp [Step.resultBefore, standing, List.getElem?_eq_getElem within]

/-- What is wrong with the steps of the rest of a chain, and with its end, are the verdicts on these steps. -/
theorem violationsFrom_eq_verdicts {front rest : List (Step σ)} (divided : a.steps = front ++ rest) :
    Step.violationsFrom a.view?.isSome front.length (Step.resultBefore none a.steps front.length) rest ++
        (if rest.getLast?.map Step.kind = some .sideEffect then [.sideEffectLast] else []) =
      (List.range' front.length rest.length).flatMap a.verdict := by
  induction rest generalizing front with
  | nil => simp [Step.violationsFrom]
  | cons s rest ih =>
      have found : a.steps[front.length]? = some s := by simp [divided]
      have next : Step.resultBefore none a.steps (front.length + 1) = some s.returnType? := by
        simp [Step.resultBefore, found]
      have ih := @ih (front ++ [s]) (by simp [divided])
      rw [List.length_append, List.length_singleton, next] at ih
      have last : (a.standing front.length).isLast = rest.isEmpty := by
        cases rest <;> simp [standing, divided]
      have judged := Step.violations_eq_verdict (follows_standing found) (s := s)
      rw [last] at judged
      rw [List.length_cons, List.range'_succ, List.flatMap_cons, ← ih, verdict_of_getElem? found, ← judged,
        Step.violationsFrom, List.append_assoc, List.append_assoc]
      congr 1
      -- The end of the chain belongs to the last step.
      cases rest with
      | nil => simp [Step.violationsFrom]
      | cons t more => simp

/-- **What validation finds are the verdicts on the steps**, one after the other. -/
theorem violations_eq_verdicts (a : Action σ) :
    a.violations =
      (if a.steps = [] then [.noSteps] else []) ++ (List.range a.steps.length).flatMap a.verdict := by
  have steps := a.violationsFrom_eq_verdicts (List.nil_append a.steps).symm
  rw [List.length_nil, Step.resultBefore] at steps
  rw [List.range_eq_range', ← steps, violations, List.append_assoc]
  simp

/-- A step that declares the type of the one in whose place it stands leaves all steps standing where they
stood. -/
theorem standing_withStep (found : a.steps[k]? = some s) {s' : Step σ}
    (type : s'.returnType?.map ValueType.ty = s.returnType?.map ValueType.ty) (j : Nat) :
    (a.withStep k s').standing j = a.standing j := by
  have before : ((a.withStep k s').typeBefore? j).map ValueType.ty = (a.typeBefore? j).map ValueType.ty := by
    cases j with
    | zero => rfl
    | succ i =>
        by_cases here : i = k
        · subst here
          have within := (List.getElem?_eq_some_iff.mp found).1
          simp [typeBefore?, withStep, found, List.getElem?_set_self within, type]
        · simp [typeBefore?, withStep, List.getElem?_set_ne (Ne.symm here)]
  rw [standing, before]
  simp only [withStep, List.length_set, standing]

theorem verdict_withStep (found : a.steps[k]? = some s) {s' : Step σ}
    (type : s'.returnType?.map ValueType.ty = s.returnType?.map ValueType.ty) (other : j ≠ k) :
    (a.withStep k s').verdict j = a.verdict j := by
  rw [verdict, verdict, standing_withStep found type, withStep, List.getElem?_set_ne other.symm]

/-- The verdicts before and behind the one on a step. -/
theorem violations_around (found : a.steps[k]? = some s) :
    a.violations = (List.range k).flatMap a.verdict ++ a.verdict k ++
      (List.range' (k + 1) (a.steps.length - (k + 1))).flatMap a.verdict := by
  have within := (List.getElem?_eq_some_iff.mp found).1
  have nonempty : a.steps ≠ [] := List.ne_nil_of_length_pos (Nat.zero_lt_of_lt within)
  have parted : List.range a.steps.length =
      List.range k ++ k :: List.range' (k + 1) (a.steps.length - (k + 1)) := by
    rw [← List.range'_succ, List.range_eq_range', List.range_eq_range']
    nth_rewrite 2 [← Nat.zero_add k]
    rw [List.range'_append_1]
    congr 1
    omega
  rw [violations_eq_verdicts, if_neg nonempty, parted]
  simp

theorem mem_verdict (found : a.steps[j]? = some s) {v : Violation} :
    v ∈ a.verdict j ↔ ∃ r ∈ s.rules, r.Broken s (a.standing j) ∧ r.violation s (a.standing j) = v := by
  rw [verdict_of_getElem? found, Step.verdict]
  simp [and_assoc]

/-- What is wrong with an action is that it has no steps, or that one of them breaks a rule. -/
theorem mem_violations {v : Violation} :
    v ∈ a.violations ↔ (a.steps = [] ∧ v = .noSteps) ∨ ∃ (j : Nat) (s : Step σ), a.steps[j]? = some s ∧
      ∃ r ∈ s.rules, r.Broken s (a.standing j) ∧ r.violation s (a.standing j) = v := by
  rw [violations_eq_verdicts, List.mem_append, List.mem_flatMap]
  refine or_congr ?_ ⟨fun ⟨j, within, judged⟩ => ?_, fun ⟨j, s, found, broken⟩ => ?_⟩
  · split <;> simp_all
  · have found := List.getElem?_eq_getElem (List.mem_range.mp within)
    exact ⟨j, _, found, (mem_verdict found).mp judged⟩
  · have within := (List.getElem?_eq_some_iff.mp found).1
    exact ⟨j, List.mem_range.mpr within, (mem_verdict found).mpr broken⟩

/-- **Validation finds nothing exactly if there are steps and none of them breaks a rule.** -/
theorem violations_eq_nil_iff_unbroken (a : Action σ) :
    a.violations = [] ↔ a.steps ≠ [] ∧
      ∀ (j : Nat) (s : Step σ), a.steps[j]? = some s → ∀ r ∈ s.rules, ¬r.Broken s (a.standing j) := by
  rw [List.eq_nil_iff_forall_not_mem]
  constructor
  · intro none
    exact ⟨fun empty => none _ (mem_violations.mpr (.inl ⟨empty, rfl⟩)), fun j s found r member broken =>
      none _ (mem_violations.mpr (.inr ⟨j, s, found, r, member, broken, rfl⟩))⟩
  · rintro ⟨nonempty, unbroken⟩ v wrong
    rcases mem_violations.mp wrong with ⟨empty, -⟩ | ⟨j, s, found, r, member, broken, -⟩
    · exact nonempty empty
    · exact unbroken j s found r member broken

end Action

/-- **Every violation is reported, and each on its own.**  Validation finds that there are no steps, or one
violation for each rule that a step breaks, in the order of the steps and of the rules for each; what is said of
a step depends on the step and on where it stands, and so a step can be mended or broken without a word about
another being changed, as long as it declares the same type.  An action is valid if no rule is broken. -/
theorem violations_independent {σ : Type} (a : Action σ) :
    a.violations = (if a.steps = [] then [.noSteps] else []) ++
        (List.range a.steps.length).flatMap a.verdict ∧
      (∀ (j : Nat) (s : Step σ), a.steps[j]? = some s →
        a.verdict j = (s.rules.filter (Rule.Broken s (a.standing j))).map (Rule.violation s (a.standing j))) ∧
      (∀ (k : Nat) (s s' : Step σ), a.steps[k]? = some s →
        s'.returnType?.map ValueType.ty = s.returnType?.map ValueType.ty →
        (∀ j, j ≠ k → (a.withStep k s').verdict j = a.verdict j) ∧
        ∃ front back, a.violations = front ++ a.verdict k ++ back ∧
          (a.withStep k s').violations = front ++ (a.withStep k s').verdict k ++ back) ∧
      (a.isValid = true ↔ a.steps ≠ [] ∧
        ∀ (j : Nat) (s : Step σ), a.steps[j]? = some s → ∀ r ∈ s.rules, ¬r.Broken s (a.standing j)) := by
  refine ⟨a.violations_eq_verdicts, fun j s found => Action.verdict_of_getElem? found,
    fun k s s' found type => ?_, ?_⟩
  · have within := (List.getElem?_eq_some_iff.mp found).1
    have replaced : (a.withStep k s').steps[k]? = some s' := by simp [Action.withStep, within]
    have same : ∀ j, j ≠ k → (a.withStep k s').verdict j = a.verdict j :=
      fun j other => Action.verdict_withStep found type other
    refine ⟨same, _, _, Action.violations_around found, ?_⟩
    have front : (List.range k).flatMap (a.withStep k s').verdict = (List.range k).flatMap a.verdict :=
      List.flatMap_congr fun j member => same j (Nat.ne_of_lt (List.mem_range.mp member))
    have back : (List.range' (k + 1) (a.steps.length - (k + 1))).flatMap (a.withStep k s').verdict =
        (List.range' (k + 1) (a.steps.length - (k + 1))).flatMap a.verdict :=
      List.flatMap_congr fun j member => same j (Nat.ne_of_gt (List.mem_range'_1.mp member).1)
    have length : (a.withStep k s').steps.length = a.steps.length := List.length_set
    rw [Action.violations_around replaced, length, front, back]
  · rw [Action.isValid, List.isEmpty_iff, a.violations_eq_nil_iff_unbroken]

namespace Notes

/-- A handler that greets. -/
def greeting : Logic NoteStore := handler [] .text fun _ s => ("hello", s)

/-- A chain with a function that declares nothing, a view in the middle that reads a result, and a side effect at
its end. -/
def muddled : Action NoteStore :=
  { method := "GET"
    route := "/muddled"
    steps := [{ Step.ofLogic .function [] greeting with returnType? := none },
      .ofTarget ⟨.view, "note"⟩ [.previous .text], .ofLogic .sideEffect [] greeting] }

/-- With a side effect in the place of the view, what is said of the first step and of the last stays. -/
theorem muddled_mended :
    muddled.violations = [.noReturnType 0 .function, .renderNotLast 1, .renderBindings 1, .renderNothing 1,
        .previousEmpty 0, .sideEffectLast] ∧
      (muddled.withStep 1 (.ofLogic .sideEffect [] greeting)).violations =
        [.noReturnType 0 .function, .sideEffectLast] ∧
      (∀ j, j ≠ 1 → (muddled.withStep 1 (.ofLogic .sideEffect [] greeting)).verdict j = muddled.verdict j) := by
  obtain ⟨-, -, mended, -⟩ := violations_independent muddled
  obtain ⟨others, -⟩ := mended 1 (.ofTarget ⟨.view, "note"⟩ [.previous .text]) (.ofLogic .sideEffect [] greeting)
    rfl rfl
  exact ⟨by decide +kernel, by decide +kernel, others⟩

end Notes

end HandlerChain
