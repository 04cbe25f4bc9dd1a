import HandlerChain.Proofs.Defaults
import HandlerChain.Proofs.DocumentedParameters

/-!
# What is documented as required

A parameter without a default needs its input: where there is none, the request cannot be bound.  An operation says
so of each parameter of the query and of the headers.  A body is documented once for all parameters that read it,
as one of them says: the last that reads JSON, or else the first that reads a form or a field of one.  If that one
has no default, a request without a body cannot be bound; but if it has one, another parameter may still need the
body, although it is not documented as required.

## Main Definitions

* `Parameter.readsBody` says that a parameter is read from the body, `bodyReader?` is the one that is documented.
* `DispatchUnit.NeedsBody` says that a unit has a parameter that needs the body.

## Main Results

* `bodyDoc?_eq`: which parameter is documented as the body.
* `Parameter.bind_of_absent`: what is bound where there is no input.
* `Endpoint.documented_requiredness`: which inputs are documented as required, and which are.
* `joinFields_requires_body`: an operation whose body is not documented as required, and is.
-/

namespace HandlerChain

section

variable {σ : Type}

/-! ### Bodies -/

/-- Whether a parameter is the body as JSON. -/
def Parameter.readsJson (p : Parameter σ) : Bool :=
  match p.marker with
  | .body => true
  | _ => false

/-- Whether a parameter is the body as a form, or a field of it. -/
def Parameter.readsForm (p : Parameter σ) : Bool :=
  match p.marker with
  | .form | .formKey _ => true
  | _ => false

/-- Whether a parameter is read from the body. -/
def Parameter.readsBody (p : Parameter σ) : Bool := p.readsJson || p.readsForm

/-- How a parameter that is read from the body documents it. -/
def Parameter.bodyDoc (p : Parameter σ) : BodyDoc :=
  ⟨if p.readsJson then "application/json" else "application/x-www-form-urlencoded", none, !p.optional⟩

/-- The parameter that is documented as the body: the last that reads JSON, or else the first that reads a form. -/
def bodyReader? (ps : List (Parameter σ)) : Option (Parameter σ) :=
  ps.reverse.find? Parameter.readsJson <|> ps.find? Parameter.readsForm

/-- A unit has a parameter that is read from the body and has no default. -/
def DispatchUnit.NeedsBody (u : DispatchUnit σ) : Prop :=
  ∃ p ∈ u.parameters, p.readsBody = true ∧ p.optional = false

theorem foldl_addBody (before : Option BodyDoc) (ps : List (Parameter σ)) :
    ps.foldl Parameter.addBody before =
      ((ps.reverse.find? Parameter.readsJson).map Parameter.bodyDoc <|> before <|>
        (ps.find? Parameter.readsForm).map Parameter.bodyDoc) := by
  induction ps generalizing before with
  | nil => simp
  | cons p rest ih =>
      rw [List.foldl_cons, ih, List.reverse_cons, List.find?_append, List.find?_cons]
      cases rest.reverse.find? Parameter.readsJson with
      | some last => simp
      | none =>
          cases marked : p.marker <;> cases before <;>
            simp [Parameter.addBody, Parameter.readsJson, Parameter.readsForm, Parameter.bodyDoc, marked]

/-- **A body is documented as one parameter says.** -/
theorem bodyDoc?_eq (ps : List (Parameter σ)) : bodyDoc? ps = (bodyReader? ps).map Parameter.bodyDoc := by
  rw [bodyDoc?, foldl_addBody, bodyReader?]
  cases ps.reverse.find? Parameter.readsJson <;> simp

theorem readsBody_of_bodyReader? {ps : List (Parameter σ)} {p : Parameter σ} (found : bodyReader? ps = some p) :
    p ∈ ps ∧ p.readsBody = true := by
  rw [bodyReader?, Option.orElse_eq_orElse, Option.orElse_eq_or, Option.or_eq_some_iff] at found
  rcases found with last | ⟨-, first⟩
  · exact ⟨List.mem_reverse.mp (List.mem_of_find?_eq_some last), by simp [Parameter.readsBody, List.find?_some last]⟩
  · exact ⟨List.mem_of_find?_eq_some first, by simp [Parameter.readsBody, List.find?_some first]⟩

theorem bodyReader?_eq_none_iff {ps : List (Parameter σ)} :
    bodyReader? ps = none ↔ ∀ p ∈ ps, p.readsBody = false := by
  rw [bodyReader?, Option.orElse_eq_orElse, Option.orElse_eq_or, Option.or_eq_none_iff, List.find?_eq_none,
    List.find?_eq_none]
  simp only [List.mem_reverse, Parameter.readsBody, Bool.or_eq_false_iff, Bool.not_eq_true]
  exact forall₂_and.symm

/-! ### Inputs that are not there -/

namespace Parameter

variable {p : Parameter σ} {r : RequestInput} {services : Services} {s : σ}

/-- Where there is no input, a parameter has its default or is missing. -/
theorem bind_of_absent {position : Nat} {b : Binding σ} (made : ofBinding? position b = some p)
    (absent : p.Absent r) : p.bind r services s =
      if p.optional then .ok p.default? else .error (.missing p.marker.sourceKind p.name) := by
  have read : p.read r services s = .ok none := (read_eq_none_iff made).mpr absent
  rw [bind, read]

/-- Nothing is read from an empty body. -/
theorem absent_of_empty_body (reads : p.readsBody = true) (empty : r.body = []) : p.Absent r := by
  cases marked : p.marker with
  | body | form => simpa [Absent, marked] using empty
  | formKey key =>
      have none : Http.Form.parse ([] : List UInt8) = [] := rfl
      simp [Absent, marked, RequestInput.formValue, empty, none, lookupName]
  | _ => simp [readsBody, readsJson, readsForm, marked] at reads

/-- A parameter is missing only if it has no input and no default. -/
theorem of_bind_missing {position : Nat} {b : Binding σ} (made : ofBinding? position b = some p)
    {kind name : String} (failed : p.bind r services s = .error (.missing kind name)) :
    p.Absent r ∧ p.optional = false ∧ kind = p.marker.sourceKind ∧ name = p.name := by
  have absent : p.Absent r := by
    have absent_of_read : p.read r services s = .ok none → p.Absent r := (read_eq_none_iff made).mp
    refine absent_of_read ?_
    rw [bind] at failed
    cases read : p.read r services s with
    | error e =>
        rw [read] at failed
        rcases read_error read with ⟨_, _, _, rfl⟩ | ⟨_, rfl⟩ | ⟨_, _, rfl⟩ | ⟨rfl, -⟩ <;> cases failed
    | ok found =>
        cases found with
        | none => rfl
        | some v => simp [read] at failed
  rw [bind_of_absent made absent] at failed
  cases optional : p.optional <;> simp_all

/-- An input that can be absent is documented in a place, or is read from the body. -/
theorem place_or_readsBody_of_absent (absent : p.Absent r) :
    p.marker.place?.isSome = true ∨ p.readsBody = true := by
  cases marked : p.marker <;> simp_all [Absent, Marker.place?, readsBody, readsJson, readsForm]

end Parameter

/-- What is documented of a parameter of the query or of the headers says whether it has a default. -/
theorem Parameter.required_of_doc? {p : Parameter σ} {d : ParameterDoc} (documented : p.doc? = some d) :
    d.required = (d.place = .path || !p.optional) := by
  obtain ⟨place, -, rfl⟩ := Option.map_eq_some_iff.mp documented
  rfl

namespace DispatchUnit.Realizes

variable {u : DispatchUnit σ} {a : Action σ} {registry : Registry σ} {p : Parameter σ} {r : RequestInput}
  {services : Services} {s : σ}

/-- An input that is absent is spared if there is a default. -/
theorem bind_of_optional (realizes : u.Realizes a registry) (member : p ∈ u.parameters) (absent : p.Absent r)
    (optional : p.optional = true) : ∃ v, p.default? = some v ∧ p.bind r services s = .ok (some v) := by
  obtain ⟨b, -, made⟩ := realizes.exists_binding member
  obtain ⟨-, -, default?, given, -⟩ := Parameter.of_ofBinding? made
  obtain ⟨v, value⟩ := Option.isSome_iff_exists.mp (given.symm.trans optional)
  refine ⟨v, default?.trans value, ?_⟩
  rw [Parameter.bind_of_absent made absent, if_pos optional, default?, value]

/-- If there is none, nothing is bound. -/
theorem bindAll_ne_ok (realizes : u.Realizes a registry) (member : p ∈ u.parameters) (absent : p.Absent r)
    (needed : p.optional = false) (args : Arguments) : bindAll u.parameters r services s ≠ .ok args := by
  intro bound
  obtain ⟨b, -, made⟩ := realizes.exists_binding member
  have missing := realizes.bind_of_bindAll member bound
  rw [Parameter.bind_of_absent made absent, needed] at missing
  cases missing

/-- What is missing is absent and has no default. -/
theorem of_bindAll_missing (realizes : u.Realizes a registry) {kind name : String}
    (failed : bindAll u.parameters r services s = .error (.missing kind name)) :
    ∃ p ∈ u.parameters, p.Absent r ∧ p.optional = false ∧ kind = p.marker.sourceKind ∧ name = p.name := by
  obtain ⟨p, member, failed, -⟩ := (bindAll_eq_error_iff realizes.map_position).mp failed
  obtain ⟨_, -, made⟩ := realizes.exists_binding member
  exact ⟨p, member, Parameter.of_bind_missing made failed⟩

end DispatchUnit.Realizes

/-- What is documented of the body is right unless the parameter that documents it has a default and another needs
the body. -/
theorem DispatchUnit.required_iff_needsBody {u : DispatchUnit σ} {p : Parameter σ}
    (found : bodyReader? u.parameters = some p) :
    (p.bodyDoc.required = true ↔ u.NeedsBody) ↔
      (p.optional = true → ∀ q ∈ u.parameters, q.readsBody = true → q.optional = true) := by
  obtain ⟨member, reads⟩ := readsBody_of_bodyReader? found
  rw [Parameter.bodyDoc]
  cases optional : p.optional with
  | false =>
      have needs : u.NeedsBody := ⟨p, member, reads, optional⟩
      simp [needs]
  | true => simp [NeedsBody]

/-- **Which inputs are documented as required, and which are.**  A parameter of the query or of the headers that is
documented as not required has its default where its input is absent, and if one that is documented as required is
absent, the request is not bound.  Without a body the request is not bound if a parameter needs the body, and else
each parameter that is read from the body has its default.  Where no body is documented, nothing is read from it.
The body is documented as required exactly if the one parameter that documents it has no default; this is right
unless that one has a default and another needs the body.  What is missing is absent and has no default, and it is
documented as required or read from the body. -/
theorem Endpoint.documented_requiredness {config : CompilerConfig} {w w' : Workshop σ} {a : Action σ}
    {e : Endpoint σ} {events : List Event} (compiled : compile config w a = (.ok e, w', events)) {op : Operation}
    (documented : e.operation? = some op) :
    let ps := e.unit.parameters
    (∀ p ∈ ps, ∀ d, p.doc? = some d → d ∈ op.parameters ∧
      (d.place ≠ .path → ∀ r : RequestInput, p.Absent r → ∀ services s,
        (d.required = false → ∃ v, p.default? = some v ∧ p.bind r services s = .ok (some v)) ∧
        (d.required = true → ∀ args, bindAll ps r services s ≠ .ok args))) ∧
    (∀ r : RequestInput, r.body = [] → ∀ services s,
      (e.unit.NeedsBody → ∀ args, bindAll ps r services s ≠ .ok args) ∧
      (¬e.unit.NeedsBody → ∀ p ∈ ps, p.readsBody = true →
        ∃ v, p.default? = some v ∧ p.bind r services s = .ok (some v))) ∧
    (op.body? = none ↔ ∀ p ∈ ps, p.readsBody = false) ∧
    (∀ b, op.body? = some b → ∃ p, bodyReader? ps = some p ∧ b.required = !p.optional ∧
      (b.required = true → e.unit.NeedsBody) ∧
      ((b.required = true ↔ e.unit.NeedsBody) ↔
        (p.optional = true → ∀ q ∈ ps, q.readsBody = true → q.optional = true))) ∧
    ∀ r services s kind name, bindAll ps r services s = .error (.missing kind name) →
      ∃ p ∈ ps, p.Absent r ∧ p.optional = false ∧ kind = p.marker.sourceKind ∧ name = p.name ∧
        ((∃ d ∈ op.parameters, p.doc? = some d ∧ d.required = true) ∨ p.readsBody = true) := by
  intro ps
  obtain ⟨-, -, realizes, -⟩ := compile_realizes compiled
  obtain ⟨-, listed, body⟩ := operation?_inputs documented
  have listed_of_doc? {p d} (member : p ∈ ps) (mine : p.doc? = some d) : d ∈ op.parameters :=
    listed ▸ List.mem_filterMap.mpr ⟨p, member, mine⟩
  rw [bodyDoc?_eq] at body
  refine ⟨fun p member d mine => ⟨listed_of_doc? member mine, fun place r absent services s => ?_⟩,
    fun r empty services s => ⟨?_, ?_⟩, ?_, fun b stated => ?_, fun r services s kind name failed => ?_⟩
  · have required : d.required = !p.optional := by simpa [place] using Parameter.required_of_doc? mine
    rw [required]
    exact ⟨fun spared => realizes.bind_of_optional member absent (by simpa using spared),
      fun needed => realizes.bindAll_ne_ok member absent (by simpa using needed)⟩
  · rintro ⟨p, member, reads, needed⟩
    exact realizes.bindAll_ne_ok member (Parameter.absent_of_empty_body reads empty) needed
  · intro spared p member reads
    refine realizes.bind_of_optional member (Parameter.absent_of_empty_body reads empty) ?_
    by_contra needed
    exact spared ⟨p, member, reads, by simpa using needed⟩
  · rw [body, Option.map_eq_none_iff, bodyReader?_eq_none_iff]
  · obtain ⟨p, found, rfl⟩ := Option.map_eq_some_iff.mp (body.symm.trans stated)
    obtain ⟨member, reads⟩ := readsBody_of_bodyReader? found
    exact ⟨p, found, rfl, fun needed => ⟨p, member, reads, by simpa [Parameter.bodyDoc] using needed⟩,
      DispatchUnit.required_iff_needsBody found⟩
  · obtain ⟨p, member, absent, needed, kinds, names⟩ := realizes.of_bindAll_missing failed
    refine ⟨p, member, absent, needed, kinds, names, ?_⟩
    refine (Parameter.place_or_readsBody_of_absent absent).imp_left fun placed => ?_
    obtain ⟨place, placed⟩ := Option.isSome_iff_exists.mp placed
    obtain ⟨d, mine, -⟩ := Parameter.exists_doc? placed
    refine ⟨d, listed_of_doc? member mine, mine, ?_⟩
    rw [Parameter.required_of_doc? mine, needed, Bool.not_false, Bool.or_true]

end

/-- A note is documented as required where one is created, and without a body none is. -/
theorem createNote_documented_requiredness :
    ∃ (e : Endpoint NoteStore) (w : Workshop NoteStore) (events : List Event) (op : Operation) (b : BodyDoc),
      compile {} .empty Notes.createNote = (.ok e, w, events) ∧ e.operation? = some op ∧ op.body? = some b ∧
        b.required = true ∧ ∀ r : RequestInput, r.body = [] → ∀ services s args,
          bindAll e.unit.parameters r services s ≠ .ok args := by
  have formed := Notes.wellFormed_of_mem (a := Notes.createNote) (by simp [Notes.actions])
  obtain ⟨e, w, events, compiled⟩ := exists_compile_of_wellFormed {} .empty formed
  obtain ⟨-, -, realizes, -⟩ := compile_realizes compiled
  have read : ∀ ps, Parameter.ofPlanned Notes.createNote.plan.ordered = .ok ps →
      bodyDoc? ps = some ⟨"application/json", none, true⟩ := by
    intro ps made
    cases made
    rfl
  have stated := read _ realizes.parameters
  obtain ⟨op, documented⟩ : ∃ op, e.operation? = some op := by
    obtain ⟨⟨parameters, body, rfl⟩, -⟩ := exists_endpoint_of_compile compiled
    exact ⟨_, rfl⟩
  have body : op.body? = some ⟨"application/json", none, true⟩ :=
    (Endpoint.operation?_inputs documented).2.2.trans stated
  obtain ⟨-, without, -, right, -⟩ := Endpoint.documented_requiredness compiled documented
  obtain ⟨p, -, -, needs, -⟩ := right _ body
  exact ⟨e, w, events, op, _, compiled, documented, body, rfl,
    fun r empty services s => (without r empty services s).1 (needs rfl)⟩

/-- An action that joins two fields of a form, of which only the first has a default. -/
def joinFields : Action NoteStore :=
  ((Builder.start "POST" "/join")
    |>.withBinding ((Binding.formValue .text "a").withDefault (Notes.textDefault "x"))
    |>.withBinding (.formValue .text "b")
    |>.handledBy (Notes.handler [.text, .text] .text fun (x, y, _) s => (String.append x y, s))).build

/-- The form is documented as not required, and without it the second field is missing. -/
theorem joinFields_requires_body :
    let r : RequestInput := ⟨default, []⟩
    ∃ (e : Endpoint NoteStore) (w : Workshop NoteStore) (events : List Event) (op : Operation) (b : BodyDoc),
      compile {} .empty joinFields = (.ok e, w, events) ∧ e.operation? = some op ∧ op.body? = some b ∧
        b.required = false ∧
          bindAll e.unit.parameters r .empty NoteStore.empty = .error (.missing "form field" "b") := by
  intro r
  have formed : joinFields.WellFormed := Action.wellFormed_of_prepared rfl rfl ⟨_, rfl⟩
  obtain ⟨e, w, events, compiled⟩ := exists_compile_of_wellFormed {} .empty formed
  obtain ⟨-, -, realizes, -⟩ := compile_realizes compiled
  have parameters : e.unit.parameters = _ := Except.ok.inj realizes.parameters.symm
  obtain ⟨op, documented⟩ : ∃ op, e.operation? = some op := by
    obtain ⟨⟨parameters, body, rfl⟩, -⟩ := exists_endpoint_of_compile compiled
    exact ⟨_, rfl⟩
  have body : op.body? = some ⟨"application/x-www-form-urlencoded", none, false⟩ := by
    rw [(Endpoint.operation?_inputs documented).2.2, parameters]
    rfl
  refine ⟨e, w, events, op, _, compiled, documented, body, rfl, ?_⟩
  rw [parameters]
  rfl

end HandlerChain
