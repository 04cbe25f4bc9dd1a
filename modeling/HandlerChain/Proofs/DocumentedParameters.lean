import HandlerChain.Proofs.Captures
import HandlerChain.Proofs.Normalization
import HandlerChain.Proofs.PlanOrder
import HandlerChain.Proofs.SharedSlots
import HandlerChain.Proofs.Threading
import HandlerChain.Site.Operation

/-!
# Documented parameters

An operation lists the parameters of its unit that stand in the path, in the query or in the headers, each with
the spelling of the binding that came first.  The path that is documented beside them comes from the template.  A
parameter of the path is named like a placeholder up to the case of ASCII letters, since compilation compares them
so; which spelling is shown in braces is decided by the template alone.  Parameters are told apart by their types
too, so that two of one name are listed if their types differ, and a placeholder that no binding reads is shown and
not listed.

## Main Definitions

* `Route.Shows` says that a path has a name in braces.
* `ParameterPlace.source` is what a parameter of a place is read from.

## Main Results

* `Route.shows_documented_iff`: what a document shows in braces are the names of the placeholders.
* `Endpoint.documented_parameters`: what the parameters of an operation have to do with each other, with its path
  and with the bindings of the action.
* `visitUser_disagrees`: an operation that lists a name twice, and another spelling than its path shows.
-/

namespace HandlerChain

namespace Route

/-! ### Names in braces -/

/-- A path shows a name: it has the name in braces. -/
def Shows (path name : String) : Prop :=
  ∃ before after, path.toList = before ++ '{' :: (name.toList ++ '}' :: after)

section

variable {cs front rest name : List Char} {ps : List Piece}

theorem dropBraceStars_append_of_head (single : rest.head? ≠ some '*') :
    dropBraceStars (cs ++ rest) = dropBraceStars cs ++ dropBraceStars rest := by
  fun_induction dropBraceStars cs with
  | case1 cs ih => exact congrArg ('{' :: ·) ih
  | case2 c cs other ih =>
      by_cases opens : c = '{'
      · subst opens
        have kept : (cs ++ rest).head? ≠ some '*' := by
          cases cs with
          | nil => exact single
          | cons d cs =>
              rintro ⟨⟩
              exact other cs rfl rfl
        rw [List.cons_append, dropBraceStars_open kept, ih, List.cons_append]
      · rw [List.cons_append, dropBraceStars_cons opens, ih, List.cons_append]
  | case3 => rfl

/-- Text without braces is shown as it is, and comes from nothing else. -/
theorem exists_of_dropBraceStars (plain : '{' ∉ name) (shown : dropBraceStars cs = name ++ rest) :
    ∃ rest', cs = name ++ rest' := by
  induction name generalizing cs with
  | nil => exact ⟨cs, rfl⟩
  | cons c name ih =>
      rw [List.mem_cons, not_or] at plain
      have head : cs.head? = some c := by rw [← head?_dropBraceStars, shown, List.cons_append, List.head?_cons]
      obtain ⟨cs, rfl⟩ := List.head?_eq_some_iff.mp head
      rw [dropBraceStars_cons (Ne.symm plain.1), List.cons_append, List.cons.injEq] at shown
      obtain ⟨rest', rfl⟩ := ih plain.2 shown.2
      exact ⟨rest', rfl⟩

/-- What is shown in braces stands in braces in the path, perhaps behind a star. -/
theorem exists_brace_of_dropBraceStars (plain : '{' ∉ name)
    (shown : dropBraceStars cs = front ++ '{' :: (name ++ rest)) :
    ∃ front' rest', ∃ stars ≤ 1, cs = front' ++ '{' :: (List.replicate stars '*' ++ (name ++ rest')) := by
  fun_induction dropBraceStars cs generalizing front with
  | case1 cs ih =>
      cases front with
      | nil =>
          obtain ⟨rest', rfl⟩ := exists_of_dropBraceStars plain (List.cons.inj shown).2
          exact ⟨[], rest', 1, by decide, rfl⟩
      | cons d front =>
          obtain ⟨front', rest', stars, few, rfl⟩ := ih (List.cons.inj shown).2
          exact ⟨'{' :: '*' :: front', rest', stars, few, rfl⟩
  | case2 c cs _ ih =>
      cases front with
      | nil =>
          obtain ⟨rfl, behind⟩ := List.cons.inj shown
          obtain ⟨rest', rfl⟩ := exists_of_dropBraceStars plain behind
          exact ⟨[], rest', 0, by decide, rfl⟩
      | cons d front =>
          obtain ⟨front', rest', stars, few, rfl⟩ := ih (List.cons.inj shown).2
          exact ⟨c :: front', rest', stars, few, rfl⟩
  | case3 => simp at shown

theorem Spelling.brace_notMem_bare (s : Spelling) : '{' ∉ s.bare.body := by
  have plain : '{' ∉ s.name := fun member => (isNameRest_ne (s.named.goesOn _ member)).1 rfl
  simp [Spelling.bare, Spelling.body, Spelling.constraintPart, Spelling.closing, plain, List.mem_replicate]

/-- **A placeholder that is spelled in the path of what is read is one that was read.**  A brace that began none
begins none in the path either, and within a placeholder of the path there is no brace. -/
theorem Reads.exists_of_routed (reads : Reads cs ps) {s : Spelling}
    (written : ps.flatMap Piece.routed = front ++ '{' :: (s.body ++ rest)) :
    ∃ p, .parameter p ∈ ps ∧ p.name = s.parameter.name := by
  induction reads generalizing front with
  | nil => simp at written
  | @plain c cs ps other _ ih =>
      cases front with
      | nil => exact absurd (List.cons.inj written).1 other
      | cons d front =>
          obtain ⟨p, member, named⟩ := ih (List.cons.inj written).2
          exact ⟨p, List.mem_cons_of_mem _ member, named⟩
  | @brace cs ps unspelled reads ih =>
      cases front with
      | nil =>
          have plain : Reads ('{' :: ps.flatMap Piece.routed) (.literal '{' :: ps.map Piece.bare) :=
            (Reads.brace unspelled reads).routed
          have spelled : ps.flatMap Piece.routed = s.body ++ rest := (List.cons.inj written).2
          rw [spelled] at plain
          cases plain.unique (.placeholder s (reads_piecesFrom (Nat.le_refl _)))
      | cons d front =>
          obtain ⟨p, member, named⟩ := ih (List.cons.inj written).2
          exact ⟨p, List.mem_cons_of_mem _ member, named⟩
  | @placeholder s' cs ps _ ih =>
      rw [List.flatMap_cons, s'.routed] at written
      cases front with
      | nil =>
          have same := (read_body s'.bare _).symm.trans
            ((congrArg Parameter.read (List.cons.inj written).2).trans (read_body s rest))
          obtain ⟨read, -⟩ := Prod.mk.inj (Option.some.inj same)
          exact ⟨s'.parameter, List.mem_cons_self, by rw [← read, s'.parameter_bare]; rfl⟩
      | cons d front =>
          obtain ⟨between, -, behind⟩ := exists_of_append_eq s'.brace_notMem_bare (List.cons.inj written).2
          obtain ⟨p, member, named⟩ := ih behind
          exact ⟨p, List.mem_cons_of_mem _ member, named⟩

theorem Spelling.unconstrained : ∀ text ∈ (none : Option (List Char)), ∀ c ∈ text, isConstraint c = true := by
  simp

/-- A name in braces, perhaps behind a star. -/
def Identifier.spelling (identifier : Identifier name) (stars : Nat) (few : stars ≤ 1) : Spelling where
  stars := stars
  name := name
  constraint? := none
  optional := false
  few := Nat.le_succ_of_le few
  named := identifier
  constrained := Spelling.unconstrained

/-- The characters that a name may begin with do not depend on case, and neither do the others. -/
theorem Identifier.of_alike {cs ds : List Char} (identifier : Identifier cs) (alike : Text.AlikeInCase cs ds) :
    Identifier ds := by
  obtain ⟨c, first, start⟩ := identifier.begins
  constructor
  · cases alike with
    | nil => cases first
    | cons same _ =>
        cases first
        exact ⟨_, rfl, (Text.apply_eq_of_toLower_eq (f := isNameStart) (by decide +kernel) same) ▸ start⟩
  · have plain : cs.all isNameRest = true := List.all_eq_true.mpr identifier.goesOn
    rw [alike.all_eq (by decide +kernel)] at plain
    exact List.all_eq_true.mp plain

end

/-- **What a document shows in braces are the names of the placeholders.** -/
theorem shows_documented_iff {template name : String} (identifier : Identifier name.toList) :
    Shows (documented (normalize template)) name ↔ ∃ p ∈ parameters template, p.name = name := by
  have reads : Reads template.toList (pieces template) := pieces_eq_iff.mp rfl
  constructor
  · rintro ⟨front, rest, shown⟩
    rw [documented, String.toList_ofList, List.append_cons name.toList] at shown
    have plain : '{' ∉ name.toList ++ ['}'] := by
      have inside : '{' ∉ name.toList := fun member => (isNameRest_ne (identifier.goesOn _ member)).1 rfl
      simpa using inside
    obtain ⟨front, rest, stars, few, written⟩ := exists_brace_of_dropBraceStars plain shown
    let s := identifier.spelling stars few
    have spelled : s.parameter.name = name := String.ofList_toList
    rw [normalize, String.toList_ofList, ← List.append_assoc] at written
    change _ = front ++ '{' :: (s.body ++ rest) at written
    obtain ⟨p, member, named⟩ : ∃ p, .parameter p ∈ pieces template ∧ p.name = s.parameter.name := by
      rcases withSlash_cases ((pieces template).flatMap Piece.routed) with same | added
      · exact reads.exists_of_routed (same ▸ written)
      · rw [added] at written
        cases front with
        | nil => cases (List.cons.inj written).1
        | cons d front => exact reads.exists_of_routed (List.cons.inj written).2
    exact ⟨p, mem_parameters_iff.mpr member, named.trans spelled⟩
  · rintro ⟨p, member, rfl⟩
    obtain ⟨before, after, divided⟩ := List.append_of_mem (mem_parameters_iff.mp member)
    obtain ⟨lead, -, -, slashed⟩ := pieces_normalize template
    have opens : (Piece.routed (.parameter p) ++ after.flatMap Piece.routed).head? ≠ some '*' := by
      cases rest : p.catchAll <;> simp [Piece.routed, rest]
    rw [Shows, documented, String.toList_ofList, normalize, String.toList_ofList, slashed, divided,
      List.flatMap_append, List.flatMap_cons, ← List.append_assoc, dropBraceStars_append_of_head opens,
      dropBraceStars_placeholder (named_of_mem_parameters member)]
    exact ⟨_, _, rfl⟩

end Route

/-! ### Parameters of an operation -/

section

variable {σ : Type}

/-- What a parameter of a place is read from. -/
def ParameterPlace.source : ParameterPlace → String → Source σ
  | path, name => .route name
  | query, name => .query name
  | header, name => .header name

/-- A parameter that stands in a place is read from there, under its own name. -/
theorem Parameter.source_of_placed {position : Nat} {b : Binding σ} {p : Parameter σ}
    (made : ofBinding? position b = some p) {place : ParameterPlace} (placed : p.marker.place? = some place) :
    b.source = place.source p.name := by
  obtain ⟨marker, marked, rfl⟩ := Option.map_eq_some_iff.mp made
  cases source : b.source <;> rw [source] at marked <;> cases marked <;> cases placed <;>
    simp [ParameterPlace.source, Binding.name?, Source.name?, source]

theorem Parameter.marker_of_path {position : Nat} {b : Binding σ} {p : Parameter σ}
    (made : ofBinding? position b = some p) (placed : p.marker.place? = some .path) : p.marker = .route p.name := by
  obtain ⟨marker, marked, rfl⟩ := Option.map_eq_some_iff.mp made
  cases source : b.source <;> rw [source] at marked <;> cases marked <;> cases placed
  simp [Binding.name?, Source.name?, source]

theorem Parameter.placed_of_source {position : Nat} {b : Binding σ} {p : Parameter σ}
    (made : ofBinding? position b = some p) {place : ParameterPlace} {name : String}
    (source : b.source = place.source name) : p.marker.place? = some place ∧ p.name = name := by
  obtain ⟨marker, marked, rfl⟩ := Option.map_eq_some_iff.mp made
  rw [source] at marked
  cases place <;> cases marked <;> simp [Marker.place?, ParameterPlace.source, Binding.name?, Source.name?, source]

/-- What is documented of a parameter. -/
theorem Parameter.of_doc? {p : Parameter σ} {d : ParameterDoc} (documented : p.doc? = some d) :
    p.marker.place? = some d.place ∧ d.name = p.name := by
  obtain ⟨place, placed, rfl⟩ := Option.map_eq_some_iff.mp documented
  exact ⟨placed, rfl⟩

theorem Parameter.exists_doc? {p : Parameter σ} {place : ParameterPlace} (placed : p.marker.place? = some place) :
    ∃ d, p.doc? = some d ∧ d.place = place ∧ d.name = p.name := by
  rw [doc?, placed, Option.map_some]
  exact ⟨_, rfl, rfl, rfl⟩

/-- What is listed in a place are the parameters that stand there. -/
theorem Parameter.exists_listed_iff {ps : List (Parameter σ)} {place : ParameterPlace} (P : String → Prop) :
    (∃ d ∈ ps.filterMap doc?, d.place = place ∧ P d.name) ↔
      ∃ p ∈ ps, p.marker.place? = some place ∧ P p.name := by
  constructor
  · rintro ⟨d, member, rfl, holds⟩
    obtain ⟨p, member, mine⟩ := List.mem_filterMap.mp member
    obtain ⟨stands, named⟩ := of_doc? mine
    exact ⟨p, member, stands, named ▸ holds⟩
  · rintro ⟨p, member, placed, holds⟩
    obtain ⟨d, mine, stands, named⟩ := exists_doc? placed
    exact ⟨d, List.mem_filterMap.mpr ⟨p, member, mine⟩, stands, named ▸ holds⟩

/-- Two parameters that are listed under one name in one place are of one type. -/
def Parameter.Agree (p q : Parameter σ) : Prop :=
  ∀ place, p.marker.place? = some place → q.marker.place? = some place → p.name = q.name → p.type.ty = q.type.ty

instance : Std.Symm (Parameter.Agree (σ := σ)) where
  symm _ _ agree place placed placed' names := (agree place placed' placed names.symm).symm

/-- An operation has the path of its action, and what is documented of the parameters. -/
theorem Endpoint.operation?_inputs {e : Endpoint σ} {op : Operation} (documented : e.operation? = some op) :
    op.path = Route.normalize e.action.route ∧ op.parameters = e.unit.parameters.filterMap Parameter.doc? ∧
      op.body? = bodyDoc? e.unit.parameters := by
  obtain ⟨-, rfl⟩ : e.exploration.2 = false ∧ _ = op := by simpa [operation?] using documented
  exact ⟨rfl, rfl, rfl⟩

namespace DispatchUnit.Realizes

variable {u : DispatchUnit σ} {a : Action σ} {registry : Registry σ}

/-- The parameters are made of the bindings of the plan. -/
theorem map_binding (realizes : u.Realizes a registry) :
    u.parameters.map Parameter.binding = a.plan.bindings := by
  have slots := congrArg (List.map PlannedParameter.binding) (Parameter.map_ofPlanned realizes.parameters)
  rwa [List.map_map] at slots

theorem exists_made (realizes : u.Realizes a registry) {p : Parameter σ} (member : p ∈ u.parameters) :
    ∃ i, Parameter.ofBinding? i p.binding = some p := by
  obtain ⟨b, -, made⟩ := realizes.exists_binding member
  obtain ⟨-, -, -, -, mine, -⟩ := Parameter.of_ofBinding? made
  exact ⟨_, mine ▸ made⟩

/-- The binding of a parameter is the first of its input. -/
theorem firstOf?_binding (realizes : u.Realizes a registry) {p : Parameter σ} (member : p ∈ u.parameters) :
    p.binding ∈ a.inputBindings ∧ a.firstOf? p.binding = some p.binding := by
  have planned : p.binding ∈ a.plan.bindings := realizes.map_binding ▸ List.mem_map_of_mem member
  obtain ⟨first, found, planned', same⟩ := Action.firstOf?_of_mem (Action.mem_inputBindings_of_mem_plan planned)
  obtain rfl := List.inj_on_of_nodup_map a.plan_inStep.distinct planned' planned same
  exact ⟨Action.mem_inputBindings_of_mem_plan planned, found⟩

/-- **No two parameters of a place are the same up to case and type.** -/
theorem pairwise_parameters (realizes : u.Realizes a registry) :
    u.parameters.Pairwise fun p q => ∀ place, p.marker.place? = some place → q.marker.place? = some place →
      Text.lowerCase p.name = Text.lowerCase q.name → p.type.ty ≠ q.type.ty := by
  have nodup := a.plan_inStep.distinct
  rw [← realizes.map_binding, List.map_map, List.Nodup, List.pairwise_map] at nodup
  refine nodup.imp_of_mem fun {p q} member member' differ place placed placed' names types => differ ?_
  obtain ⟨_, made⟩ := realizes.exists_made member
  obtain ⟨_, made'⟩ := realizes.exists_made member'
  have source := Parameter.source_of_placed made placed
  have source' := Parameter.source_of_placed made' placed'
  have type := (Parameter.of_ofBinding? made).2.1
  have type' := (Parameter.of_ofBinding? made').2.1
  rw [Function.comp_apply, Function.comp_apply, Binding.identity, Binding.identity, Binding.kind, Binding.kind,
    Binding.name?, Binding.name?, source, source', ← type, ← type', types]
  cases place <;> simp [ParameterPlace.source, Source.kind, Source.name?, names]

/-- A name is listed twice in a place exactly if two parameters there have it and differ in type. -/
theorem nodup_listed_iff (realizes : u.Realizes a registry) :
    ((u.parameters.filterMap Parameter.doc?).map fun d => (d.name, d.place)).Nodup ↔
      ∀ p ∈ u.parameters, ∀ q ∈ u.parameters, p.Agree q := by
  rw [List.Nodup, List.pairwise_map, List.pairwise_filterMap]
  constructor
  · intro nodup
    refine (nodup.imp fun {p q} differ place placed placed' names => ?_).forall_of_forall fun p _ _ _ _ _ => rfl
    obtain ⟨d, mine, stands, named⟩ := Parameter.exists_doc? placed
    obtain ⟨d', mine', stands', named'⟩ := Parameter.exists_doc? placed'
    exact absurd (by rw [stands, stands', named, named', names]) (differ d mine d' mine')
  · intro alike
    refine realizes.pairwise_parameters.imp_of_mem fun {p q} member member' differ d mine d' mine' same => ?_
    obtain ⟨placed, named⟩ := Parameter.of_doc? mine
    obtain ⟨placed', named'⟩ := Parameter.of_doc? mine'
    obtain ⟨names, places⟩ := Prod.mk.inj same
    rw [named, named'] at names
    rw [← places] at placed'
    exact differ d.place placed placed' (congrArg _ names) (alike p member q member' d.place placed placed' names)

/-- A name of the route is bound exactly if a parameter of the path has it, up to case. -/
theorem exists_route_iff (realizes : u.Realizes a registry) (named : a.RoutesNamed) (x : String) :
    (∃ p ∈ u.parameters, p.marker.place? = some .path ∧ Text.eqIgnoreAsciiCase x p.name = true) ↔
      ∃ b ∈ a.inputBindings, ∃ name, b.source = .route name ∧ Text.eqIgnoreAsciiCase x name = true := by
  constructor
  · rintro ⟨p, member, placed, same⟩
    obtain ⟨_, made⟩ := realizes.exists_made member
    exact ⟨p.binding, (realizes.firstOf?_binding member).1, p.name,
      Parameter.source_of_placed made placed, same⟩
  · rintro ⟨b, bound, name, source, same⟩
    obtain ⟨first, found, planned, alike⟩ := Action.firstOf?_of_mem bound
    obtain ⟨p, stands, made⟩ := realizes.exists_parameter found
    have kinds : first.kind = b.kind := congrArg Identity.kind alike
    have names : Text.lowerCase (first.name?.getD "") = Text.lowerCase (b.name?.getD "") :=
      congrArg Identity.discriminator alike
    obtain ⟨name', source'⟩ := first.source.exists_route (by rw [← Binding.kind, kinds, Binding.kind, source]; rfl)
    rw [Binding.name?, Binding.name?, source, source'] at names
    have lower : Text.lowerAscii name' = Text.lowerAscii name := by
      have ascii := Text.lowerCase_eq_lowerAscii (named.ascii bound source)
      have ascii' := Text.lowerCase_eq_lowerAscii
        (named.ascii (Action.mem_inputBindings_of_mem_plan planned) source')
      exact ascii'.symm.trans (names.trans ascii)
    have written : first.source = ParameterPlace.path.source name' := source'
    obtain ⟨placed, spelled⟩ := Parameter.placed_of_source made written
    refine ⟨p, List.mem_of_getElem? stands, placed, ?_⟩
    rw [spelled, Text.eqIgnoreAsciiCase_iff, lower, ← Text.eqIgnoreAsciiCase_iff]
    exact same

end DispatchUnit.Realizes

/-- **What the parameters of an operation have to do with each other, with its path, and with the bindings of the
action.**  Two parameters of one place whose names are the same up to case have different types, so a name is
listed twice in a place exactly if there are two such parameters with one spelling.  A parameter of the path has the
spelling of the first binding of its input; the documented path has a placeholder of this name up to the case of
ASCII letters, and shows the very spelling exactly if the template has it.  A name, such as that of a placeholder,
is that of a parameter of the path up to case exactly if a binding of the action reads it from the route. -/
theorem Endpoint.documented_parameters {config : CompilerConfig} {w w' : Workshop σ} {a : Action σ} {e : Endpoint σ}
    {events : List Event} (compiled : compile config w a = (.ok e, w', events)) {op : Operation}
    (documented : e.operation? = some op) :
    (e.unit.parameters.Pairwise fun p q => ∀ place, p.marker.place? = some place → q.marker.place? = some place →
      Text.lowerCase p.name = Text.lowerCase q.name → p.type.ty ≠ q.type.ty) ∧
    ((op.parameters.map fun d => (d.name, d.place)).Nodup ↔
      ∀ p ∈ e.unit.parameters, ∀ q ∈ e.unit.parameters, p.Agree q) ∧
    (∀ d ∈ op.parameters, d.place = .path →
      (∃ b ∈ a.inputBindings, a.firstOf? b = some b ∧ b.source = .route d.name) ∧
      (∃ x, Route.Shows (Route.documented op.path) x ∧ Text.eqIgnoreAsciiCase x d.name = true) ∧
      (Route.Shows (Route.documented op.path) d.name ↔ ∃ q ∈ Route.parameters a.route, q.name = d.name)) ∧
    ∀ x, (∃ d ∈ op.parameters, d.place = .path ∧ Text.eqIgnoreAsciiCase x d.name = true) ↔
      ∃ b ∈ a.inputBindings, ∃ name, b.source = .route name ∧ Text.eqIgnoreAsciiCase x name = true := by
  obtain ⟨wellFormed, rfl, realizes, -⟩ := compile_realizes compiled
  obtain ⟨path, listed, -⟩ := operation?_inputs documented
  rw [listed, path]
  refine ⟨realizes.pairwise_parameters, realizes.nodup_listed_iff, fun d member placed => ?_, fun x => ?_⟩
  · obtain ⟨p, member, mine⟩ := List.mem_filterMap.mp member
    obtain ⟨stands, named⟩ := Parameter.of_doc? mine
    obtain ⟨bound, first⟩ := realizes.firstOf?_binding member
    obtain ⟨_, made⟩ := realizes.exists_made member
    rw [placed] at stands
    obtain ⟨q, written, alike⟩ := realizes.exists_placeholder wellFormed.toRoutesNamed member
      (Parameter.marker_of_path made stands)
    have identifier := Route.identifier_of_mem_parameters written
    have identifier' := identifier.of_alike
      (Text.alikeInCase_iff.mpr (Text.lowerAscii_eq_iff.mp (Text.eqIgnoreAsciiCase_iff.mp alike)))
    rw [named]
    exact ⟨⟨p.binding, bound, first, Parameter.source_of_placed made stands⟩,
      ⟨q.name, (Route.shows_documented_iff identifier).mpr ⟨q, written, rfl⟩, alike⟩,
      Route.shows_documented_iff identifier'⟩
  · rw [← realizes.exists_route_iff wellFormed.toRoutesNamed]
    exact Parameter.exists_listed_iff (Text.eqIgnoreAsciiCase x · = true)

end

/-- An action that reads a user from the route, in capitals, and an entry of the query at two types.  It does not
read the tab. -/
def visitUser : Action NoteStore :=
  ((Builder.start "GET" "/users/\x7buserId\x7d/\x7btab\x7d")
    |>.withBinding (.route .text "USERID")
    |>.withBinding (.query .text "id")
    |>.withBinding (.query (.int .u64) "id")
    |>.handledBy (Notes.handler [.text, .text, .int .u64] .text fun (user, _, _, _) s => (user, s))).build

theorem visitUser_wellFormed : visitUser.WellFormed := by
  have spelled : { visitUser with route := "/users/\x7bUSERID\x7d" }.WellFormed :=
    Action.wellFormed_of_prepared rfl (by decide +kernel) ⟨_, rfl⟩
  have own : Route.parameters "/users/\x7bUSERID\x7d" = [⟨"USERID", none, false, false⟩] := by decide +kernel
  have shown : Route.parameters visitUser.route = [⟨"userId", none, false, false⟩, ⟨"tab", none, false, false⟩] := by
    decide +kernel
  refine spelled.withRoute fun p member => ?_
  rw [own, List.mem_singleton] at member
  exact ⟨_, shown ▸ List.mem_cons_self, by rw [member]; exact Text.lowerAscii_eq_iff.mpr (by decide)⟩

/-- What is documented of the visit of a user. -/
theorem exists_visitUser :
    ∃ (e : Endpoint NoteStore) (w : Workshop NoteStore) (events : List Event) (op : Operation),
      compile {} .empty visitUser = (.ok e, w, events) ∧ e.operation? = some op ∧
        op.path = Route.normalize visitUser.route ∧
        op.parameters = [⟨"USERID", .path, true, none, "string"⟩, ⟨"id", .query, true, none, "string"⟩,
          ⟨"id", .query, true, none, "integer"⟩] := by
  obtain ⟨e, w, events, compiled⟩ := exists_compile_of_wellFormed {} .empty visitUser_wellFormed
  obtain ⟨-, -, realizes, -⟩ := compile_realizes compiled
  have read : ∀ ps, Parameter.ofPlanned visitUser.plan.ordered = .ok ps →
      ps.filterMap Parameter.doc? = [⟨"USERID", .path, true, none, "string"⟩, ⟨"id", .query, true, none, "string"⟩,
        ⟨"id", .query, true, none, "integer"⟩] := by
    intro ps made
    cases made
    decide +kernel
  obtain ⟨⟨parameters, body, rfl⟩, -⟩ := exists_endpoint_of_compile compiled
  exact ⟨_, w, events, _, compiled, rfl, rfl, read _ realizes.parameters⟩

/-- The placeholder of the user is shown beside the parameter that is named like it. -/
theorem visitUser_documented_parameters :
    ∃ (e : Endpoint NoteStore) (w : Workshop NoteStore) (events : List Event) (op : Operation),
      compile {} .empty visitUser = (.ok e, w, events) ∧ e.operation? = some op ∧
        (∃ x, Route.Shows (Route.documented op.path) x ∧ Text.eqIgnoreAsciiCase x "USERID" = true) ∧
        ((op.parameters.map fun d => (d.name, d.place)).Nodup ↔
          ∀ p ∈ e.unit.parameters, ∀ q ∈ e.unit.parameters, p.Agree q) ∧
        ((∃ d ∈ op.parameters, d.place = .path ∧ Text.eqIgnoreAsciiCase "tab" d.name = true) ↔
          ∃ b ∈ visitUser.inputBindings, ∃ name, b.source = .route name ∧
            Text.eqIgnoreAsciiCase "tab" name = true) := by
  obtain ⟨e, w, events, op, compiled, documented, -, listed⟩ := exists_visitUser
  obtain ⟨-, twice, shown, bound⟩ := Endpoint.documented_parameters compiled documented
  obtain ⟨-, user, -⟩ := shown ⟨"USERID", .path, true, none, "string"⟩ (listed ▸ List.mem_cons_self) rfl
  exact ⟨e, w, events, op, compiled, documented, user, twice, bound "tab"⟩

/-- The entry of the query is listed twice, the user is not listed as the path shows it, and the tab is shown and
not listed. -/
theorem visitUser_disagrees :
    ∃ (e : Endpoint NoteStore) (w : Workshop NoteStore) (events : List Event) (op : Operation),
      compile {} .empty visitUser = (.ok e, w, events) ∧ e.operation? = some op ∧
        ¬(op.parameters.map fun d => (d.name, d.place)).Nodup ∧
        (∃ d ∈ op.parameters, d.place = .path ∧ ¬Route.Shows (Route.documented op.path) d.name) ∧
        Route.Shows (Route.documented op.path) "tab" ∧
          ∀ d ∈ op.parameters, d.place = .path → Text.eqIgnoreAsciiCase "tab" d.name = false := by
  obtain ⟨e, w, events, op, compiled, documented, path, listed⟩ := exists_visitUser
  have names : (Route.parameters visitUser.route).map Route.Parameter.name = ["userId", "tab"] := by decide +kernel
  have shows_iff {name : String} (identifier : Route.Identifier name.toList) :
      Route.Shows (Route.documented op.path) name ↔ name ∈ ["userId", "tab"] := by
    rw [path, Route.shows_documented_iff identifier, ← names, List.mem_map]
  refine ⟨e, w, events, op, compiled, documented, ?_, ⟨_, listed ▸ List.mem_cons_self, rfl, ?_⟩, ?_, ?_⟩
  · rw [listed]
    decide
  · rw [shows_iff ⟨⟨'U', rfl, by decide⟩, List.all_eq_true.mp (by decide +kernel)⟩]
    decide
  · rw [shows_iff ⟨⟨'t', rfl, by decide⟩, List.all_eq_true.mp (by decide +kernel)⟩]
    decide
  · rw [listed]
    intro d member placed
    obtain rfl : d = ⟨"USERID", .path, true, none, "string"⟩ := by
      simp only [List.mem_cons, List.not_mem_nil, or_false] at member
      rcases member with rfl | rfl | rfl
      · rfl
      · cases placed
      · cases placed
    rw [Bool.eq_false_iff, ne_eq, Text.eqIgnoreAsciiCase_iff, Text.lowerAscii_eq_iff]
    decide

end HandlerChain
