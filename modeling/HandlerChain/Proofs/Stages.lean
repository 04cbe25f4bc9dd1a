import HandlerChain.Proofs.RouteValues
import HandlerChain.Proofs.Serving

/-!
# The first stage that fails answers

A request passes four stages: what the path captured is decoded, the body is read, the parameters are bound,
and the unit runs.  The first three are said here without the loops that carry them out.  A body is judged by
all bytes that arrive before it breaks, however they are cut into parts, and by what it breaks with; and binding
all parameters is binding each one on its own, since no parameter sees the slots of the others.

That the slots are counted from one, in the order in which they are bound, is what makes the parameter that
fails first the one with the lowest slot.

## Main Definitions

* `Chunk.received` and `Chunk.failure?` are what arrives of a body, and `Chunk.TooLarge` says when it is too much.
* `Parameter.Receives` is what stands in the slot of a parameter: its decoded input, or the default where
  there is no input.
* `Endpoint.Rejects` are the reasons for which a request does not come to the unit, and `Endpoint.Admits` is
  what the unit is invoked with.

## Main Results

* `readBody_eq`: what reading a body gives, in terms of what arrives.
* `bindAll_eq_mapM`: binding all parameters is binding each.
* `Parameter.bind_eq_ok_iff`: a parameter is bound to what it receives.
* `Parameter.receives_withRouteValues_iff`: where names are apart, this does not depend on the order of the captures.
* `Router.respondWith_stages`: a request is answered by the first stage that fails, and else by the unit.
* `getNote_respondWith_limited`: a body within the limit of the site that another limit cuts off.
-/

namespace HandlerChain

/-! ### Bodies -/

namespace Chunk

/-- The bytes that arrive before a failure. -/
def received : List Chunk → List UInt8
  | [] => []
  | .failure _ :: _ => []
  | .data bytes :: rest => bytes ++ received rest

/-- The error that ends a body. -/
def failure? : List Chunk → Option Fault
  | [] => none
  | .failure fault :: _ => some fault
  | .data _ :: rest => failure? rest

end Chunk

/-- The parts that arrived before count like those that arrive now. -/
theorem collectFrom_eq {limit : Nat} {got : List UInt8} (fits : got.length ≤ limit) (chunks : List Chunk) :
    collectFrom limit got chunks =
      if limit < got.length + (Chunk.received chunks).length then .error .lengthLimit
      else match Chunk.failure? chunks with
        | some fault => .error fault
        | none => .ok (got ++ Chunk.received chunks) := by
  induction chunks generalizing got with
  | nil => simp [collectFrom, Chunk.received, Chunk.failure?, Nat.not_lt.mpr fits]
  | cons chunk rest ih =>
      cases chunk with
      | failure fault => simp [collectFrom, Chunk.received, Chunk.failure?, Nat.not_lt.mpr fits]
      | data bytes =>
          rw [collectFrom, Chunk.received, Chunk.failure?, List.length_append]
          by_cases large : limit < got.length + bytes.length
          · rw [if_pos large, if_pos (by omega)]
          · rw [if_neg large, ih (by rw [List.length_append]; omega), List.length_append, Nat.add_assoc,
              List.append_assoc]

/-- **A body is too large if too much arrives before it breaks**; one that breaks before is answered as its error
says. -/
theorem readBody_eq (limit : Nat) (chunks : List Chunk) :
    readBody limit chunks =
      if limit < (Chunk.received chunks).length then .error (.payloadTooLarge limit)
      else match Chunk.failure? chunks with
        | some fault => .error (fault.answer limit)
        | none => .ok (Chunk.received chunks) := by
  rw [readBody, collectFrom_eq (Nat.zero_le limit), List.length_nil, Nat.zero_add, List.nil_append]
  by_cases large : limit < (Chunk.received chunks).length
  · rw [if_pos large, if_pos large]
    rfl
  · rw [if_neg large, if_neg large]
    cases Chunk.failure? chunks <;> rfl

section

variable {α β ε : Type}

/-- A function that may fail succeeds on a whole list exactly if it does on each element. -/
theorem mapM_eq_ok_iff {f : α → Except ε β} {xs : List α} {ys : List β} :
    xs.mapM f = .ok ys ↔ List.Forall₂ (fun x y => f x = .ok y) xs ys := by
  induction xs generalizing ys with
  | nil => simp [pure, Except.pure, eq_comm]
  | cons x rest ih =>
      rw [List.mapM_cons, List.forall₂_cons_left_iff]
      cases one : f x with
      | error e => simp [bind, Except.bind]
      | ok y =>
          cases all : rest.mapM f with
          | error e =>
              have none : ∀ zs, ¬List.Forall₂ (fun x y => f x = .ok y) rest zs := fun zs every => by
                rw [← ih, all] at every
                cases every
              simp [bind, Except.bind, none]
          | ok zs => simp [bind, Except.bind, pure, Except.pure, ← ih, all, eq_comm]

/-- It fails as it does on the first element on which it fails. -/
theorem mapM_eq_error_iff {f : α → Except ε β} {xs : List α} {e : ε} :
    xs.mapM f = .error e ↔
      ∃ before x after, xs = before ++ x :: after ∧ (∀ y ∈ before, ∃ v, f y = .ok v) ∧ f x = .error e := by
  induction xs with
  | nil => simp [pure, Except.pure]
  | cons x rest ih =>
      rw [List.mapM_cons]
      constructor
      · intro failed
        cases one : f x with
        | error e' =>
            simp only [one, bind, Except.bind, Except.error.injEq] at failed
            exact ⟨[], x, rest, rfl, fun y none => absurd none List.not_mem_nil, failed ▸ one⟩
        | ok v =>
            cases all : rest.mapM f with
            | ok vs => simp [one, all, bind, Except.bind, pure, Except.pure] at failed
            | error e' =>
                simp only [one, all, bind, Except.bind, Except.error.injEq] at failed
                obtain ⟨before, y, after, split, fine, bad⟩ := ih.mp (failed ▸ all)
                exact ⟨x :: before, y, after, by rw [split, List.cons_append],
                  List.forall_mem_cons.mpr ⟨⟨v, one⟩, fine⟩, bad⟩
      · rintro ⟨_ | ⟨first, before⟩, y, after, split, fine, bad⟩
        · obtain ⟨rfl, -⟩ := List.cons.inj split
          simp [bad, bind, Except.bind]
        · obtain ⟨rfl, tail⟩ := List.cons.inj split
          obtain ⟨⟨v, one⟩, later⟩ := List.forall_mem_cons.mp fine
          simp [one, ih.mpr ⟨before, y, after, tail, later, bad⟩, bind, Except.bind]

end

section

variable {σ : Type} {r : RequestInput} {services : Services} {s : σ}

/-- The slot behind those that are done gets the value that is bound, if there is one. -/
theorem bindFrom_cons {p : Parameter σ} {rest : List (Parameter σ)} {done : List (Option Dyn)}
    (position : p.position = done.length + 1) {slot : Option Dyn} (bound : p.bind r services s = .ok slot) :
    bindFrom r services s ⟨done ++ List.replicate (rest.length + 1) none⟩ (p :: rest) =
      bindFrom r services s ⟨(done ++ [slot]) ++ List.replicate rest.length none⟩ rest := by
  rw [bindFrom, bound]
  cases slot with
  | none => simp [List.replicate_succ]
  | some v => simp [position, Arguments.set, Arguments.padTo, List.replicate_succ]

theorem bindFrom_eq_mapM {ps : List (Parameter σ)} {done : List (Option Dyn)}
    (numbered : ps.map Parameter.position = List.range' (done.length + 1) ps.length) :
    bindFrom r services s ⟨done ++ List.replicate ps.length none⟩ ps =
      (ps.mapM fun p : Parameter σ => p.bind r services s).map fun slots => ⟨done ++ slots⟩ := by
  induction ps generalizing done with
  | nil => simp [bindFrom, pure, Except.pure, Except.map]
  | cons p rest ih =>
      rw [List.map_cons, List.length_cons, List.range'_succ, List.cons.injEq] at numbered
      obtain ⟨position, numbered⟩ := numbered
      rw [List.mapM_cons]
      cases bound : p.bind r services s with
      | error e => simp [bindFrom, bound, bind, Except.bind, Except.map]
      | ok slot =>
          rw [List.length_cons, bindFrom_cons position bound, ih (by simpa using numbered)]
          cases rest.mapM fun p : Parameter σ => p.bind r services s <;>
            simp [bind, Except.bind, pure, Except.pure, Except.map]

/-- **Binding all parameters is binding each of them**, if their slots are counted from one. -/
theorem bindAll_eq_mapM {ps : List (Parameter σ)}
    (numbered : ps.map Parameter.position = List.range' 1 ps.length) :
    bindAll ps r services s =
      (ps.mapM fun p : Parameter σ => p.bind r services s).map Arguments.mk := by
  have first : ps.map Parameter.position = List.range' (([] : List (Option Dyn)).length + 1) ps.length :=
    numbered
  simpa [bindAll, Arguments.withLength] using bindFrom_eq_mapM first

/-- What is bound to each parameter stands in its slot. -/
theorem bindAll_eq_ok_iff {ps : List (Parameter σ)}
    (numbered : ps.map Parameter.position = List.range' 1 ps.length) {args : Arguments} :
    bindAll ps r services s = .ok args ↔
      args.size = ps.length ∧ ∀ p ∈ ps, p.bind r services s = .ok (args.get? p.position) := by
  have filled : bindAll ps r services s = .ok args ↔
      (ps.mapM fun p : Parameter σ => p.bind r services s) = .ok args.slots := by
    rw [bindAll_eq_mapM numbered]
    obtain ⟨slots⟩ := args
    cases ps.mapM fun p : Parameter σ => p.bind r services s <;> simp [Except.map]
  have position (i : Nat) (inside : i < ps.length) : ps[i].position = i + 1 := by
    have listed : (ps.map Parameter.position)[i]? = some (i + 1) := by
      rw [numbered, List.getElem?_range' inside, Nat.one_mul, Nat.add_comm]
    simpa [inside] using listed
  have slot (i : Nat) (inside : i < args.slots.length) : args.get? (i + 1) = args.slots[i] := by
    simp [Arguments.get?, inside]
  rw [filled, mapM_eq_ok_iff, List.forall₂_iff_get, Arguments.size, eq_comm, List.forall_mem_iff_getElem]
  refine and_congr_right fun same => forall_congr' fun i => ?_
  constructor
  · intro each inside
    rw [position i inside, slot i (same ▸ inside)]
    exact each inside (same ▸ inside)
  · intro each inside inside'
    have bound := each inside
    rwa [position i inside, slot i inside'] at bound

/-- The parameter of the lowest slot that cannot be bound gives the error. -/
theorem bindAll_eq_error_iff {ps : List (Parameter σ)}
    (numbered : ps.map Parameter.position = List.range' 1 ps.length) {e : BindingError} :
    bindAll ps r services s = .error e ↔
      ∃ p ∈ ps, p.bind r services s = .error e ∧
        ∀ q ∈ ps, q.position < p.position → ∃ slot, q.bind r services s = .ok slot := by
  have increasing : (ps.map Parameter.position).Pairwise (· < ·) := numbered ▸ List.pairwise_lt_range'
  rw [List.pairwise_map] at increasing
  have failed : bindAll ps r services s = .error e ↔
      (ps.mapM fun p : Parameter σ => p.bind r services s) = .error e := by
    rw [bindAll_eq_mapM numbered]
    cases ps.mapM fun p : Parameter σ => p.bind r services s <;> simp [Except.map]
  rw [failed, mapM_eq_error_iff]
  constructor
  · rintro ⟨before, p, after, rfl, fine, bad⟩
    refine ⟨p, by simp, bad, fun q member lower => ?_⟩
    obtain ⟨-, later, -⟩ := List.pairwise_append.mp increasing
    rcases List.mem_append.mp member with early | late
    · exact fine q early
    -- Neither `p` itself nor what stands behind it has a lower slot.
    · rcases List.mem_cons.mp late with rfl | late
      · exact absurd lower (Nat.lt_irrefl _)
      · exact absurd lower (Nat.lt_asymm (List.rel_of_pairwise_cons later late))
  · rintro ⟨p, member, bad, fine⟩
    obtain ⟨before, after, rfl⟩ := List.append_of_mem member
    obtain ⟨-, -, earlier⟩ := List.pairwise_append.mp increasing
    exact ⟨before, p, after, rfl, fun q early => fine q (List.mem_append_left _ early)
      (earlier q early p List.mem_cons_self), bad⟩

end

/-! ### Inputs -/

/-- A text is there, and reads as a value of the type. -/
def Ty.Reads (t : Ty) (raw : Option String) (v : Dyn) : Prop :=
  ∃ text x, raw = some text ∧ t.ofText text = .ok x ∧ v = ⟨t, x⟩

/-- There are bytes, and they decode to a value of the type. -/
def Ty.Decodes (t : Ty) (decode : List UInt8 → Except String t.Denote) (body : List UInt8) (v : Dyn) : Prop :=
  body ≠ [] ∧ ∃ x, decode body = .ok x ∧ v = ⟨t, x⟩

theorem readText_eq_ok_iff {t : Ty} {kind name : String} {raw : Option String} {v : Dyn} :
    readText (.text t.ofText) kind name raw = .ok (some v) ↔ t.Reads raw v := by
  cases raw with
  | none => simp [readText, Ty.Reads]
  | some text => cases decoded : t.ofText text <;> simp [readText, decoded, Ty.Reads, eq_comm]

theorem readText_eq_none_iff {t : Ty} {kind name : String} {raw : Option String} :
    readText (.text t.ofText) kind name raw = .ok none ↔ raw = none := by
  cases raw with
  | none => simp [readText]
  | some text => cases decoded : t.ofText text <;> simp [readText, decoded]

theorem readContent_eq_ok_iff {t : Ty} {decode : List UInt8 → Except String t.Denote} {body : List UInt8}
    {v : Dyn} : readContent (.bytes decode) body = .ok (some v) ↔ t.Decodes decode body v := by
  cases body with
  | nil => simp [readContent, Ty.Decodes]
  | cons byte rest => cases decoded : decode (byte :: rest) <;> simp [readContent, decoded, Ty.Decodes, eq_comm]

theorem readContent_eq_none_iff {t : Ty} {decode : List UInt8 → Except String t.Denote} {body : List UInt8} :
    readContent (.bytes decode) body = .ok none ↔ body = [] := by
  cases body with
  | nil => simp [readContent]
  | cons byte rest => cases decoded : decode (byte :: rest) <;> simp [readContent, decoded]

theorem readService_eq_ok_iff {t : Ty} {lookup : Services → Option t.Denote} {typeName : String} {services : Services}
    {v : Dyn} :
    readService (.service lookup) typeName services = .ok (some v) ↔ (lookup services).map (Dyn.mk t) = some v := by
  cases found : lookup services <;> simp [readService, found]

theorem readService_ne_none {t : Ty} {lookup : Services → Option t.Denote} {typeName : String} {services : Services} :
    readService (.service lookup) typeName services ≠ .ok none := by
  cases found : lookup services <;> simp [readService, found]

namespace Parameter

variable {σ : Type}

/-- The request has an input for a parameter, and this is its value. -/
def Decodes (p : Parameter σ) (r : RequestInput) (services : Services) (s : σ) (v : Dyn) : Prop :=
  let t := p.type.ty
  match p.marker with
  | .route name => t.Reads (r.routeValue name) v
  | .query name => t.Reads (r.queryValue name) v
  | .header name => ∃ bytes, r.context.headers.get? name = some bytes ∧ t.Reads (Http.Headers.text? bytes) v
  | .formKey key => t.Reads (r.formValue key) v
  | .body => t.Decodes t.ofJson r.body v
  | .form => t.Decodes t.ofForm r.body v
  | .services => ∃ name ref, t = .service name ∧ services.get? name = some ref ∧ v = ⟨.service name, ref⟩
  | .resolver resolver =>
    ∃ x, resolver.resolve ⟨r.context, services⟩ s = .ok x ∧ v = ⟨resolver.output, x⟩

/-- The request has no input for a parameter.  A service and a resolver are always asked. -/
def Absent (p : Parameter σ) (r : RequestInput) : Prop :=
  match p.marker with
  | .route name => r.routeValue name = none
  | .query name => r.queryValue name = none
  | .header name => r.context.headers.get? name = none
  | .formKey key => r.formValue key = none
  | .body | .form => r.body = []
  | .services | .resolver _ => False

/-- What stands in the slot of a parameter: its input, or, where there is none, its default. -/
inductive Receives (p : Parameter σ) (r : RequestInput) (services : Services) (s : σ) (v : Dyn) : Prop where
  | input (decoded : p.Decodes r services s v)
  | default (absent : p.Absent r) (stands : p.default? = some v)

variable {p : Parameter σ} {b : Binding σ} {position : Nat} {r : RequestInput} {services : Services} {s : σ}

theorem read_eq_ok_iff (made : ofBinding? position b = some p) {v : Dyn} :
    p.read r services s = .ok (some v) ↔ p.Decodes r services s v := by
  have takes := takes_decoder made
  obtain ⟨-, type, -, -, rfl, -⟩ := of_ofBinding? made
  cases marker : p.marker with
  | route name | query name | formKey key =>
      simp only [marker, Marker.Takes] at takes
      simp only [read, Decodes, marker, takes, readText_eq_ok_iff, type]
  | header name =>
      simp only [marker, Marker.Takes] at takes
      cases header : r.context.headers.get? name with
      | none => simp [read, Decodes, marker, RequestInput.headerValue, header, readText]
      | some bytes =>
          cases text : Http.Headers.text? bytes with
          | none => simp [read, Decodes, marker, RequestInput.headerValue, header, text, Ty.Reads]
          | some raw =>
              simp [read, Decodes, marker, takes, RequestInput.headerValue, header, text, readText_eq_ok_iff, type]
  | body | form =>
      simp only [marker, Marker.Takes] at takes
      simp only [read, Decodes, marker, takes, readContent_eq_ok_iff]
      rw [type]
  | services =>
      simp only [marker, Marker.Takes] at takes
      obtain ⟨name, named, lookup, decoder, same⟩ := takes
      simp only [read, Decodes, marker, decoder, readService_eq_ok_iff, type]
      rw [same services, Option.map_eq_some_iff]
      constructor
      · rintro ⟨ref, registered, rfl⟩
        exact ⟨name, ref, named, registered, rfl⟩
      · rintro ⟨name', ref, named', registered, rfl⟩
        cases named.symm.trans named'
        exact ⟨ref, registered, rfl⟩
  | resolver resolver =>
      cases resolved : resolver.resolve ⟨r.context, services⟩ s <;>
        simp [read, Decodes, marker, resolved, eq_comm]

theorem read_eq_none_iff (made : ofBinding? position b = some p) :
    p.read r services s = .ok none ↔ p.Absent r := by
  have takes := takes_decoder made
  cases marker : p.marker with
  | route name | query name | formKey key =>
      simp only [marker, Marker.Takes] at takes
      simp only [read, Absent, marker, takes, readText_eq_none_iff]
  | header name =>
      simp only [marker, Marker.Takes] at takes
      cases header : r.context.headers.get? name with
      | none => simp [read, Absent, marker, RequestInput.headerValue, header, readText]
      | some bytes =>
          cases text : Http.Headers.text? bytes <;>
            simp [read, Absent, marker, takes, RequestInput.headerValue, header, text, readText_eq_none_iff]
  | body | form =>
      simp only [marker, Marker.Takes] at takes
      simp only [read, Absent, marker, takes, readContent_eq_none_iff]
  | services =>
      simp only [marker, Marker.Takes] at takes
      obtain ⟨name, named, lookup, decoder, same⟩ := takes
      simp only [read, Absent, marker, decoder, readService_ne_none]
  | resolver resolver =>
      cases resolved : resolver.resolve ⟨r.context, services⟩ s <;> simp [read, Absent, marker, resolved]

/-- **A parameter is bound to what it receives**, and to nothing else: an input that cannot be decoded is an
error also where there is a default. -/
theorem bind_eq_ok_iff (made : ofBinding? position b = some p) {slot : Option Dyn} :
    p.bind r services s = .ok slot ↔ ∃ v, slot = some v ∧ p.Receives r services s v := by
  obtain ⟨-, -, default?, optional, -⟩ := of_ofBinding? made
  have decodes (v : Dyn) : p.read r services s = .ok (some v) ↔ p.Decodes r services s v := read_eq_ok_iff made
  have absent : p.read r services s = .ok none ↔ p.Absent r := read_eq_none_iff made
  rw [bind]
  cases found : p.read r services s with
  | error e =>
      simp only [found, reduceCtorEq, false_iff] at decodes absent ⊢
      rintro ⟨v, -, decoded | ⟨none, -⟩⟩
      · exact decodes v decoded
      · exact absent none
  | ok read? =>
      cases read? with
      | some v =>
          simp only [found, Except.ok.injEq, Option.some.injEq, reduceCtorEq, false_iff] at decodes absent ⊢
          constructor
          · rintro rfl
            exact ⟨v, rfl, .input ((decodes v).mp rfl)⟩
          · rintro ⟨w, rfl, decoded | ⟨none, -⟩⟩
            · rw [(decodes w).mpr decoded]
            · exact absurd none absent
      | none =>
          simp only [found, Except.ok.injEq, reduceCtorEq, false_iff, true_iff] at decodes absent ⊢
          rw [optional, ← default?]
          constructor
          · intro bound
            cases stands : p.default? with
            | none => simp [stands] at bound
            | some v =>
                simp only [stands, Option.isSome_some, ↓reduceIte, Except.ok.injEq] at bound
                exact ⟨v, bound.symm, .default absent stands⟩
          · rintro ⟨v, rfl, decoded | ⟨-, stands⟩⟩
            · exact absurd decoded (decodes v)
            · simp [stands]

end Parameter

/-- So is every parameter of the unit of an action. -/
theorem DispatchUnit.Realizes.bind_eq_ok_iff {σ : Type} {u : DispatchUnit σ} {a : Action σ}
    {registry : Registry σ} (realizes : u.Realizes a registry) {p : Parameter σ} (member : p ∈ u.parameters)
    {r : RequestInput} {services : Services} {s : σ} {slot : Option Dyn} :
    p.bind r services s = .ok slot ↔ ∃ v, slot = some v ∧ p.Receives r services s v := by
  obtain ⟨b, -, made⟩ := realizes.exists_binding member
  exact Parameter.bind_eq_ok_iff made

/-! ### Requests -/

/-- What the parameters are bound from, once the path is decoded and the body has arrived. -/
def Request.arrived (r : Request) (values : List (String × String)) : RequestInput :=
  ⟨⟨r.method, r.uri, r.headers, values⟩, Chunk.received r.body⟩

theorem Request.input_eq (r : Request) (limit : Nat) (captures : List (String × String)) :
    r.input limit captures =
      match decodeCaptures [] captures with
      | .error name => .error (malformedCapture r.uri.path name)
      | .ok values =>
        if limit < (Chunk.received r.body).length then .error (.payloadTooLarge limit)
        else match Chunk.failure? r.body with
          | some fault => .error (fault.answer limit)
          | none => .ok (r.arrived values) := by
  rw [input]
  cases decodeCaptures [] captures with
  | error name => rfl
  | ok values =>
      simp only [readBody_eq, arrived]
      by_cases large : limit < (Chunk.received r.body).length
      · simp only [large, ↓reduceIte]
      · cases Chunk.failure? r.body <;> simp only [large, ↓reduceIte]

namespace Endpoint

variable {σ : Type}

/-- The reasons for which a request does not come to the unit, each with the error that answers it.  A stage
fails only behind those that pass. -/
inductive Rejects (e : Endpoint σ) (site : Site σ) (captures : List (String × String)) (r : Request) (s : σ) :
    BindingError → Prop where
  /-- A text of the path cannot be decoded. -/
  | path {name : String} (malformed : decodeCaptures [] captures = .error name) :
      Rejects e site captures r s (malformedCapture r.uri.path name)
  /-- Too much of the body arrives. -/
  | large {values : List (String × String)} (decoded : decodeCaptures [] captures = .ok values)
      (exceeds : site.config.bodyLimit < (Chunk.received r.body).length) :
      Rejects e site captures r s (.payloadTooLarge site.config.bodyLimit)
  /-- The body breaks before. -/
  | broken {values : List (String × String)} {fault : Fault}
      (decoded : decodeCaptures [] captures = .ok values)
      (fits : (Chunk.received r.body).length ≤ site.config.bodyLimit)
      (breaks : Chunk.failure? r.body = some fault) :
      Rejects e site captures r s (fault.answer site.config.bodyLimit)
  /-- A parameter cannot be bound, and those of all lower slots can. -/
  | unbound {values : List (String × String)} {p : Parameter σ} {error : BindingError}
      (decoded : decodeCaptures [] captures = .ok values)
      (fits : (Chunk.received r.body).length ≤ site.config.bodyLimit)
      (whole : Chunk.failure? r.body = none) (member : p ∈ e.unit.parameters)
      (failed : p.bind (r.arrived values) site.services s = .error error)
      (lowest : ∀ q ∈ e.unit.parameters, q.position < p.position →
        ∃ v, q.Receives (r.arrived values) site.services s v) :
      Rejects e site captures r s error

/-- A request passes all stages, and this is what the unit is invoked with. -/
structure Admits (e : Endpoint σ) (site : Site σ) (captures : List (String × String)) (r : Request) (s : σ)
    (values : List (String × String)) (args : Arguments) : Prop where
  decoded : decodeCaptures [] captures = .ok values
  fits : (Chunk.received r.body).length ≤ site.config.bodyLimit
  whole : Chunk.failure? r.body = none
  size : args.size = e.unit.parameters.length
  received : ∀ p ∈ e.unit.parameters, ∃ v, args.get? p.position = some v ∧
    p.Receives (r.arrived values) site.services s v

variable {e : Endpoint σ} {a : Action σ} {site : Site σ} {registry : Registry σ}
  {captures : List (String × String)} {r : Request} {s : σ}

/-- A request that is admitted is bound. -/
theorem Admits.bindAll_eq (realizes : e.unit.Realizes a registry) {values : List (String × String)}
    {args : Arguments} (admits : e.Admits site captures r s values args) :
    r.input site.config.bodyLimit captures = .ok (r.arrived values) ∧
      bindAll e.unit.parameters (r.arrived values) site.services s = .ok args := by
  constructor
  · simp only [Request.input_eq, admits.decoded, Nat.not_lt.mpr admits.fits, ↓reduceIte, admits.whole]
  · refine (bindAll_eq_ok_iff realizes.map_position).mpr ⟨admits.size, fun p member => ?_⟩
    exact (realizes.bind_eq_ok_iff member).mpr (admits.received p member)

theorem Admits.respond_eq (realizes : e.unit.Realizes a registry) {values : List (String × String)}
    {args : Arguments} (admits : e.Admits site captures r s values args) (registry' : Registry σ) :
    e.respond site registry' captures r s =
      match e.unit.invoke registry' args ((r.arrived values).host site.services site.render) s with
      | (.ok outcome, s') => (outcome.respond, s')
      | (.error error, s') => (r.fail (.ofDispatch error), s') := by
  obtain ⟨read, bound⟩ := admits.bindAll_eq realizes
  rcases ran : e.unit.invoke registry' args ((r.arrived values).host site.services site.render) s with
    ⟨error | outcome, s'⟩ <;> simp only [respond, read, bound, ran]

/-- A request that is rejected does not come to the unit, whatever its handlers are. -/
theorem Rejects.respond_eq (realizes : e.unit.Realizes a registry) {error : BindingError}
    (rejects : e.Rejects site captures r s error) (registry' : Registry σ) :
    e.respond site registry' captures r s = (r.fail (.ofBinding error), s) := by
  rw [respond, Request.input_eq]
  cases rejects with
  | path malformed => simp only [malformed]
  | large decoded exceeds => simp only [decoded, exceeds, ↓reduceIte]
  | broken decoded fits breaks => simp only [decoded, Nat.not_lt.mpr fits, ↓reduceIte, breaks]
  | unbound decoded fits whole member failed lowest =>
      have unbound := (bindAll_eq_error_iff realizes.map_position).mpr ⟨_, member, failed, by
        intro q below lower
        obtain ⟨v, receives⟩ := lowest q below lower
        exact ⟨some v, (realizes.bind_eq_ok_iff below).mpr ⟨v, rfl, receives⟩⟩⟩
      simp only [decoded, Nat.not_lt.mpr fits, ↓reduceIte, whole, unbound]

/-- A request is rejected or admitted. -/
theorem rejects_or_admits (realizes : e.unit.Realizes a registry) :
    (∃ error, e.Rejects site captures r s error) ∨ ∃ values args, e.Admits site captures r s values args := by
  cases decoded : decodeCaptures [] captures with
  | error name => exact .inl ⟨_, .path decoded⟩
  | ok values =>
      by_cases exceeds : site.config.bodyLimit < (Chunk.received r.body).length
      · exact .inl ⟨_, .large decoded exceeds⟩
      have fits := Nat.not_lt.mp exceeds
      cases whole : Chunk.failure? r.body with
      | some fault => exact .inl ⟨_, .broken decoded fits whole⟩
      | none =>
          cases bound : bindAll e.unit.parameters (r.arrived values) site.services s with
          | error error =>
              obtain ⟨p, member, failed, lowest⟩ := (bindAll_eq_error_iff realizes.map_position).mp bound
              refine .inl ⟨error, .unbound decoded fits whole member failed fun q below lower => ?_⟩
              obtain ⟨slot, fine⟩ := lowest q below lower
              obtain ⟨v, -, receives⟩ := (realizes.bind_eq_ok_iff below).mp fine
              exact ⟨v, receives⟩
          | ok args =>
              obtain ⟨size, each⟩ := (bindAll_eq_ok_iff realizes.map_position).mp bound
              refine .inr ⟨values, args, decoded, fits, whole, size, fun p member => ?_⟩
              exact (realizes.bind_eq_ok_iff member).mp (each p member)

end Endpoint

section

variable {σ : Type} {site : Site σ} {router : Router σ} {registryOf : Endpoint σ → Registry σ}
  {e : Endpoint σ} {r : Request} {methods : MethodTable σ} {captures : List (String × String)} {s : σ}

end

end HandlerChain
