import HandlerChain.Proofs.Soundness

/-!
# Bound inputs suit their unit

The binder reads each parameter by its marker and decodes it as its binding says.  Where the two do not fit, it
would read nothing; but both were made from one source, so this never happens to the parameters of a unit.  What
it puts into a slot is therefore of the type of the parameter, and a parameter for which it finds neither an input
nor a default is an error and not an empty slot.

## Main Definitions

* `Marker.Takes` says that a decoder is the one that a marker asks for.
* `Arguments.Fill` says that every parameter has a value of its type.

## Main Results

* `Parameter.takes_decoder`: the marker and the decoder of a parameter fit.
* `Parameter.bind_typed`: what is bound to a parameter is of its type.
* `DispatchUnit.Realizes.bindAll_fill`: a request that is bound fills every slot of the unit.
* `DispatchUnit.Realizes.bindAll_serviceUnavailable`: a service is missing only if it is not registered.
-/

namespace HandlerChain

namespace Arguments

/-- More empty slots make no difference. -/
theorem getElem?_padTo (n : Nat) (slots : List (Option Dyn)) (i : Nat) :
    (padTo n slots)[i]?.bind id = slots[i]?.bind id := by
  rw [padTo, List.getElem?_append]
  split
  · rfl
  · rename_i outside
    rw [List.getElem?_eq_none (Nat.not_lt.mp outside), List.getElem?_replicate]
    split <;> rfl

theorem get?_set_self (args : Arguments) {i : Nat} (positive : 0 < i) (v : Dyn) :
    (args.set i v).get? i = some v := by
  obtain ⟨i, rfl⟩ := Nat.exists_eq_succ_of_ne_zero (Nat.pos_iff_ne_zero.mp positive)
  have inside : i < (padTo (i + 1) args.slots).length := by
    rw [padTo, List.length_append, List.length_replicate]
    omega
  simp [set, get?, inside]

theorem get?_set_of_ne (args : Arguments) {i j : Nat} (other : i ≠ j) (v : Dyn) :
    (args.set i v).get? j = args.get? j := by
  cases i with
  | zero => rfl
  | succ i =>
      cases j with
      | zero => rfl
      | succ j =>
          have apart : i ≠ j := fun same => other (congrArg (· + 1) same)
          rw [set, get?, List.getElem?_set_ne apart, getElem?_padTo, get?]

/-- Every parameter has a value of its type in its slot. -/
def Fill {σ : Type} (args : Arguments) (ps : List (Parameter σ)) : Prop :=
  ∀ p ∈ ps, ∃ v, args.get? p.position = some v ∧ v.ty = p.type.ty

/-- Arguments that fill the parameters of a unit suit it. -/
theorem Fill.accepts {σ : Type} {args : Arguments} {u : DispatchUnit σ} (fill : args.Fill u.parameters) :
    u.Accepts args where
  typed p member v found := by
    obtain ⟨v', stands, type⟩ := fill p member
    cases found.symm.trans stands
    exact type
  filled p member _ := by
    obtain ⟨v, stands, -⟩ := fill p member
    rw [stands, Option.isSome_some]

end Arguments

/-- A decoder is the one that a marker asks for.  That of services finds what is registered, under a name that the
type has. -/
def Marker.Takes {σ : Type} {t : Ty} (d : Decoder t) : Marker σ → Prop
  | .route _ | .query _ | .header _ | .formKey _ => d = .text t.ofText
  | .body => d = .bytes t.ofJson
  | .form => d = .bytes t.ofForm
  | .services => ∃ name, t = .service name ∧ ∃ lookup, d = .service lookup ∧
      ∀ services : Services, (lookup services).map (Dyn.mk t) = (services.get? name).map fun ref => ⟨.service name, ref⟩
  | .resolver r => t = r.output

/-- A source gives its marker the decoder that this asks for. -/
theorem Source.Gives.takes {σ : Type} {source : Source σ} {t : Ty} {d : Decoder t} (gives : source.Gives t d)
    {marker : Marker σ} (marked : Marker.ofSource? source = some marker) : marker.Takes d := by
  cases gives with
  | previous | ambient => cases marked
  | service name =>
      cases marked
      exact ⟨name, rfl, _, rfl, fun _ => rfl⟩
  | _ =>
      cases marked
      rfl

/-- What is looked up as a service is a service of the type. -/
theorem Source.Gives.exists_service {σ : Type} {source : Source σ} {t : Ty} {d : Decoder t}
    (gives : source.Gives t d) {lookup : Services → Option t.Denote} (decoder : d = .service lookup) :
    ∃ name, t = .service name ∧ ∀ services, lookup services = none ↔ services.get? name = none := by
  cases gives <;> cases decoder
  exact ⟨_, rfl, fun _ => .rfl⟩

section

variable {t : Ty} {d : Decoder t} {v : Dyn} {e : BindingError}

/-- What is read from a text is of the type that the decoder is for. -/
theorem readText_typed {sourceKind name : String} {raw : Option String}
    (found : readText d sourceKind name raw = .ok (some v)) : v.ty = t := by
  unfold readText at found
  split at found
  · split at found <;> cases found
    rfl
  · cases found

theorem readContent_typed {body : List UInt8} (found : readContent d body = .ok (some v)) : v.ty = t := by
  unfold readContent at found
  split at found
  · cases found
  · split at found
    · split at found <;> cases found
      rfl
    · cases found

theorem readService_typed {typeName : String} {services : Services}
    (found : readService d typeName services = .ok (some v)) : v.ty = t := by
  unfold readService at found
  split at found
  · split at found <;> cases found
    rfl
  · cases found

/-- A text that cannot be read is invalid, and nothing else. -/
theorem readText_error {sourceKind name : String} {raw : Option String}
    (failed : readText d sourceKind name raw = .error e) : ∃ reason, e = .invalid sourceKind name reason := by
  unfold readText at failed
  split at failed
  · split at failed <;> cases failed
    exact ⟨_, rfl⟩
  · cases failed

theorem readContent_error {body : List UInt8} (failed : readContent d body = .error e) :
    ∃ reason, e = .body reason := by
  unfold readContent at failed
  split at failed
  · cases failed
  · split at failed
    · split at failed <;> cases failed
      exact ⟨_, rfl⟩
    · cases failed

/-- A service that cannot be had is one that the decoder does not find. -/
theorem readService_error {typeName : String} {services : Services}
    (failed : readService d typeName services = .error e) :
    e = .serviceUnavailable typeName ∧ ∃ lookup, d = .service lookup ∧ lookup services = none := by
  unfold readService at failed
  split at failed
  · split at failed <;> cases failed
    exact ⟨rfl, _, rfl, by assumption⟩
  · cases failed

end

theorem RequestInput.headerValue_error {r : RequestInput} {name : String} {e : BindingError}
    (failed : r.headerValue name = .error e) : ∃ reason, e = .invalid "header" name reason := by
  rw [headerValue] at failed
  cases header : r.context.headers.get? name with
  | none => simp [header] at failed
  | some value =>
      cases text : Http.Headers.text? value with
      | none =>
          simp only [header, text, Except.error.injEq] at failed
          exact ⟨_, failed.symm⟩
      | some s => simp [header, text] at failed

namespace Parameter

variable {σ : Type} {p : Parameter σ} {b : Binding σ} {position : Nat} {r : RequestInput}
  {services : Services} {s : σ}

/-- **The marker and the decoder of a parameter fit**, so no input is passed over because nothing decodes it. -/
theorem takes_decoder (made : ofBinding? position b = some p) : p.marker.Takes p.binding.decoder := by
  obtain ⟨-, -, -, -, rfl, marked⟩ := of_ofBinding? made
  exact p.binding.gives.takes marked

/-- **What is read for a parameter is of its type.**  A decoder makes values of the type of its binding, and the
output of a resolver is that type. -/
theorem read_typed (made : ofBinding? position b = some p) {v : Dyn}
    (found : p.read r services s = .ok (some v)) : v.ty = p.type.ty := by
  have takes := takes_decoder made
  obtain ⟨-, type, -, -, rfl, -⟩ := of_ofBinding? made
  rw [type]
  unfold read at found
  cases marker : p.marker with
  | route | query | formKey =>
      simp only [marker] at found
      exact readText_typed found
  | header name =>
      simp only [marker] at found
      cases header : r.headerValue name with
      | error e => simp [header] at found
      | ok raw =>
          simp only [header] at found
          exact readText_typed found
  | body | form =>
      simp only [marker] at found
      exact readContent_typed found
  | services =>
      simp only [marker] at found
      exact readService_typed found
  | resolver resolver =>
      rw [marker] at takes
      simp only [marker] at found
      split at found <;> cases found
      exact takes.symm

/-- A default is only bound if there is one, so nothing is left empty. -/
theorem bind_typed (made : ofBinding? position b = some p)
    (default : ∀ v, b.default? = some v → v.ty = b.type.ty) {value? : Option Dyn}
    (bound : p.bind r services s = .ok value?) : ∃ v, value? = some v ∧ v.ty = p.type.ty := by
  obtain ⟨-, type, default?, optional, -⟩ := of_ofBinding? made
  rw [bind] at bound
  cases found : p.read r services s with
  | error e => simp [found] at bound
  | ok read? =>
      cases read? with
      | some v =>
          simp only [found, Except.ok.injEq] at bound
          exact ⟨v, bound.symm, read_typed made found⟩
      | none =>
          simp only [found, optional, default?] at bound
          cases value : b.default? with
          | none => simp [value] at bound
          | some v =>
              simp only [value, Option.isSome_some, ↓reduceIte, Except.ok.injEq] at bound
              exact ⟨v, bound.symm, by rw [default v value, type]⟩

/-- What keeps an input from being read: it is malformed, a resolver fails, or a service is not found. -/
theorem read_error {e : BindingError} (failed : p.read r services s = .error e) :
    (∃ kind name reason, e = .invalid kind name reason) ∨ (∃ reason, e = .body reason) ∨
      (∃ name reason, e = .resolver name reason) ∨
      e = .serviceUnavailable p.type.name ∧ ∃ lookup, p.binding.decoder = .service lookup ∧ lookup services = none := by
  unfold read at failed
  cases marker : p.marker with
  | route | query | formKey =>
      simp only [marker] at failed
      exact .inl ⟨_, _, readText_error failed⟩
  | header name =>
      simp only [marker] at failed
      cases header : r.headerValue name with
      | error e' =>
          simp only [header, Except.error.injEq] at failed
          obtain ⟨reason, malformed⟩ := RequestInput.headerValue_error header
          exact .inl ⟨_, _, reason, failed ▸ malformed⟩
      | ok raw =>
          simp only [header] at failed
          exact .inl ⟨_, _, readText_error failed⟩
  | body | form =>
      simp only [marker] at failed
      exact .inr (.inl (readContent_error failed))
  | services =>
      simp only [marker] at failed
      exact .inr (.inr (.inr (readService_error failed)))
  | resolver resolver =>
      simp only [marker] at failed
      split at failed <;> cases failed
      exact .inr (.inr (.inl ⟨_, _, rfl⟩))

/-- A parameter cannot be bound if its input cannot be read, or if there is none. -/
theorem bind_error {e : BindingError} (failed : p.bind r services s = .error e) :
    p.read r services s = .error e ∨ e = .missing p.marker.sourceKind p.name := by
  rw [bind] at failed
  cases found : p.read r services s with
  | error e' =>
      simp only [found, Except.error.injEq] at failed
      exact .inl (failed ▸ rfl)
  | ok read? =>
      cases read? with
      | some v => simp [found] at failed
      | none =>
          simp only [found] at failed
          split at failed
          · cases failed
          · exact .inr (Except.error.inj failed).symm

/-- Only a service that is not registered is unavailable. -/
theorem bind_serviceUnavailable (made : ofBinding? position b = some p) {service : String}
    (failed : p.bind r services s = .error (.serviceUnavailable service)) :
    ∃ name, p.type.ty = .service name ∧ services.get? name = none := by
  rcases bind_error failed with failed | other
  · rcases read_error failed with
      ⟨_, _, _, other⟩ | ⟨_, other⟩ | ⟨_, _, other⟩ | ⟨-, lookup, decoder, missing⟩
    · cases other
    · cases other
    · cases other
    · obtain ⟨-, type, -, -, rfl, -⟩ := of_ofBinding? made
      obtain ⟨name, named, registered⟩ := p.binding.gives.exists_service decoder
      exact ⟨name, by rw [type, named], (registered services).mp missing⟩
  · cases other

end Parameter

section

variable {σ : Type} {r : RequestInput} {services : Services} {s : σ}

/-- What the binder leaves: a value for each of the parameters, and every other slot as it was. -/
theorem bindFrom_fill {ps : List (Parameter σ)} {args args' : Arguments}
    (typed : ∀ p ∈ ps, ∀ value?, p.bind r services s = .ok value? →
      ∃ v, value? = some v ∧ v.ty = p.type.ty)
    (positive : ∀ p ∈ ps, 0 < p.position) (distinct : (ps.map Parameter.position).Nodup)
    (bound : bindFrom r services s args ps = .ok args') :
    args'.Fill ps ∧ ∀ i, i ∉ ps.map Parameter.position → args'.get? i = args.get? i := by
  induction ps generalizing args with
  | nil =>
      cases bound
      exact ⟨fun p none => absurd none List.not_mem_nil, fun _ _ => rfl⟩
  | cons p rest ih =>
      rw [List.map_cons, List.nodup_cons] at distinct
      obtain ⟨fresh, distinct⟩ := distinct
      rw [bindFrom] at bound
      cases read : p.bind r services s with
      | error e => simp [read] at bound
      | ok value? =>
          obtain ⟨v, rfl, type⟩ := typed p List.mem_cons_self value? read
          simp only [read] at bound
          obtain ⟨fill, others⟩ := ih (fun q member => typed q (List.mem_cons_of_mem p member))
            (fun q member => positive q (List.mem_cons_of_mem p member)) distinct bound
          constructor
          · intro q member
            rcases List.mem_cons.mp member with rfl | later
            -- No later parameter has this slot, so the value stays.
            · refine ⟨v, ?_, type⟩
              rw [others _ fresh, Arguments.get?_set_self _ (positive q List.mem_cons_self)]
            · exact fill q later
          · intro i outside
            rw [List.map_cons, List.mem_cons, not_or] at outside
            obtain ⟨apart, outside⟩ := outside
            rw [others i outside, Arguments.get?_set_of_ne _ (Ne.symm apart)]

theorem bindFrom_error {ps : List (Parameter σ)} {args : Arguments} {e : BindingError}
    (failed : bindFrom r services s args ps = .error e) : ∃ p ∈ ps, p.bind r services s = .error e := by
  induction ps generalizing args with
  | nil => cases failed
  | cons p rest ih =>
      rw [bindFrom] at failed
      cases read : p.bind r services s with
      | error e =>
          simp only [read, Except.error.injEq] at failed
          exact ⟨p, List.mem_cons_self, failed ▸ read⟩
      | ok value? =>
          obtain ⟨q, member, failed⟩ : ∃ q ∈ rest, q.bind r services s = .error e := by
            cases value? <;> simp only [read] at failed <;> exact ih failed
          exact ⟨q, List.mem_cons_of_mem p member, failed⟩

end

namespace DispatchUnit.Realizes

variable {σ : Type} {u : DispatchUnit σ} {a : Action σ} {registry : Registry σ} {r : RequestInput}
  {services : Services} {s : σ}

/-- The parameters of a unit have the decoders that their markers ask for. -/
theorem takes_decoder (realizes : u.Realizes a registry) {p : Parameter σ} (member : p ∈ u.parameters) :
    p.marker.Takes p.binding.decoder := by
  obtain ⟨b, -, made⟩ := realizes.exists_binding member
  exact Parameter.takes_decoder made

/-- The slots of a unit are counted from one. -/
theorem map_position (realizes : u.Realizes a registry) :
    u.parameters.map Parameter.position = List.range' 1 u.parameters.length := by
  have planned := Parameter.map_ofPlanned realizes.parameters
  have slots := congrArg (List.map PlannedParameter.slot) planned
  rw [Plan.ordered, a.plan_inStep.numbered, ← Plan.ordered, ← planned, List.length_map, List.map_map] at slots
  exact slots

/-- **A request that is bound fills every slot of the unit** with a value of the type of its parameter.
-/
theorem bindAll_fill (realizes : u.Realizes a registry) (valid : a.Valid) {args : Arguments}
    (bound : bindAll u.parameters r services s = .ok args) : args.Fill u.parameters := by
  refine (bindFrom_fill ?_ ?_ ?_ bound).1
  · intro p member value? read
    obtain ⟨b, input, made⟩ := realizes.exists_binding member
    obtain ⟨⟨step, steps, declares⟩, -⟩ := mem_inputBindings.mp input
    exact Parameter.bind_typed made (valid.defaults step steps b declares) read
  · intro p member
    have slot := List.mem_map_of_mem (f := Parameter.position) member
    rw [realizes.map_position, List.mem_range'_1] at slot
    exact slot.1
  · rw [realizes.map_position]
    exact List.nodup_range'

/-- **A service is missing only if it is not registered.** -/
theorem bindAll_serviceUnavailable (realizes : u.Realizes a registry) {service : String}
    (failed : bindAll u.parameters r services s = .error (.serviceUnavailable service)) :
    ∃ p ∈ u.parameters, ∃ name, p.type.ty = .service name ∧ services.get? name = none := by
  obtain ⟨p, member, failed⟩ := bindFrom_error failed
  obtain ⟨b, -, made⟩ := realizes.exists_binding member
  exact ⟨p, member, Parameter.bind_serviceUnavailable made failed⟩

end DispatchUnit.Realizes

end HandlerChain
