import HandlerChain.Proofs.Inputs
import HandlerChain.Proofs.Router

/-!
# Served requests do not go wrong

A request goes through the binder, the unit and the encoder of its result, and each of them can end it
with an error.  The binder leaves arguments that suit the unit and a request supplies its surroundings,
so of the internal errors only those are left that the setting of the site causes: a service that nobody
registered, a view that fails, and a result that refuses to be encoded.

## Main Definitions

* `Endpoint.CompiledIn` says where the handlers of an endpoint are.
* `Endpoint.Breaks` are the causes of an internal error.

## Main Results

* `Endpoint.breaks_of_status` and `Endpoint.Breaks.status`: an endpoint answers with an internal error
  exactly for these causes.
* `Router.respondWith_internal_iff` says so of every request that is routed to an endpoint.
-/

namespace HandlerChain

/-- An endpoint comes from a compilation, and more handlers may have been registered since. -/
def Endpoint.CompiledIn {σ : Type} (e : Endpoint σ) (registry : Registry σ) : Prop :=
  ∃ config w a w' events, compile config w a = (.ok e, w', events) ∧ w'.registry.Grows registry

theorem Endpoint.CompiledIn.realizes {σ : Type} {e : Endpoint σ} {registry : Registry σ}
    (compiled : e.CompiledIn registry) : e.action.WellFormed ∧ e.unit.Realizes e.action registry := by
  obtain ⟨config, w, a, w', events, compiled, grown⟩ := compiled
  obtain ⟨wellFormed, rfl, realizes, -⟩ := compile_realizes compiled
  exact ⟨wellFormed, realizes.grows grown⟩

section

variable {σ : Type}

/-- The causes of an internal error when an endpoint answers a request. -/
inductive Endpoint.Breaks (e : Endpoint σ) (site : Site σ) (registry : Registry σ)
    (captures : List (String × String)) (r : Request) (s : σ) : Prop where
  /-- A parameter is a service that is not registered. -/
  | service {input : RequestInput} {service : String}
      (read : r.input site.config.bodyLimit captures = .ok input)
      (unbound : bindAll e.unit.parameters input site.services s = .error (.serviceUnavailable service))
      (missing : ∃ p ∈ e.unit.parameters, ∃ name, p.type.ty = .service name ∧
        site.services.get? name = none)
  /-- The result is not shown. -/
  | view {input : RequestInput} {args : Arguments} {cause : ViewError} {s' : σ}
      (read : r.input site.config.bodyLimit captures = .ok input)
      (bound : bindAll e.unit.parameters input site.services s = .ok args)
      (failed : e.unit.invoke registry args (input.host site.services site.render) s =
        (.error (.view cause), s'))
      (hidden : ∃ request, site.render request = .error cause)
  /-- The result is not encoded. -/
  | encode {input : RequestInput} {args : Arguments} {result : TypedValue} {cause : EncodeError} {s' : σ}
      (read : r.input site.config.bodyLimit captures = .ok input)
      (bound : bindAll e.unit.parameters input site.services s = .ok args)
      (ran : e.unit.invoke registry args (input.host site.services site.render) s =
        (.ok (.value result), s'))
      (refused : result.encode = .error cause)

/-- Of the errors of the binder, only a missing service is internal. -/
theorem Problem.ofBinding_status_iff {e : BindingError} :
    (Problem.ofBinding e).respond.status = 500 ↔ ∃ service, e = .serviceUnavailable service := by
  cases e <;> simp [Problem.ofBinding, Problem.respond, Problem.internal]

theorem Outcome.respond_status_iff {outcome : Outcome} :
    outcome.respond.status = 500 ↔ ∃ v cause, outcome = .value v ∧ v.encode = .error cause := by
  cases outcome with
  | rendered page => simp [Outcome.respond, Rendered.respond, Response.ok]
  | value v =>
      cases encoded : v.encode with
      | error cause =>
          simp [Outcome.respond, encoded, Problem.ofDispatch, Problem.respond, Problem.internal]
      | ok j =>
          cases j <;>
            simp [Outcome.respond, encoded, respondJson, Response.ok, Response.empty, Response.json]

theorem Request.fail_status (r : Request) (p : Problem) : (r.fail p).status = p.respond.status := rfl

theorem Response.forMethod_status (method : String) (response : Response) :
    (response.forMethod method).status = response.status := by
  unfold Response.forMethod
  split <;> rfl

/-- A body that is not read is no matter of services. -/
theorem readBody_ne_serviceUnavailable (limit : Nat) (chunks : List Chunk) (service : String) :
    readBody limit chunks ≠ .error (.serviceUnavailable service) := by
  rw [readBody]
  cases collectFrom limit [] chunks with
  | ok bytes => simp [Except.mapError]
  | error fault => cases limited : fault.exceedsLimit <;> simp [Except.mapError, Fault.answer, limited]

theorem Request.input_ne_serviceUnavailable (r : Request) (limit : Nat)
    (captures : List (String × String)) (service : String) :
    r.input limit captures ≠ .error (.serviceUnavailable service) := by
  unfold Request.input
  cases decodeCaptures [] captures with
  | error name => simp [malformedCapture]
  | ok values =>
      have body := readBody_ne_serviceUnavailable limit r.body service
      cases read : readBody limit r.body with
      | error e =>
          rw [read] at body
          simpa using body
      | ok bytes => simp

/-- The surroundings of a request fail only by the views of the site. -/
theorem RequestInput.host_failsToShow {r : RequestInput} {services : Services}
    {render : RenderRequest → Except ViewError Rendered} {err : DispatchError} {s' : σ}
    (fails : (r.host services render : Host σ).FailsToShow err s') :
    ∃ cause, err = .view cause ∧ ∃ request, render request = .error cause := by
  obtain ⟨request, s, -, failed⟩ := fails
  simp only [RequestInput.host, Host.constant, Prod.mk.injEq] at failed
  cases shown : render request with
  | error cause =>
      simp only [shown, Except.mapError, Except.error.injEq] at failed
      exact ⟨cause, failed.1.symm, request, shown⟩
  | ok page => simp [shown, Except.mapError] at failed

variable {e : Endpoint σ} {a : Action σ} {site : Site σ} {registry : Registry σ}
  {captures : List (String × String)} {r : Request} {s : σ}

/-- **A run on what was bound fails only for a view**, since what the binder leaves suits the unit. -/
theorem DispatchUnit.Realizes.invoke_error_of_bound {u : DispatchUnit σ} (realizes : u.Realizes a registry)
    (wellFormed : a.WellFormed) {input : RequestInput} {args : Arguments} {error : DispatchError} {s' : σ}
    (bound : bindAll u.parameters input site.services s = .ok args)
    (ran : u.invoke registry args (input.host site.services site.render) s = (.error error, s')) :
    ∃ cause, error = .view cause ∧ ∃ request, site.render request = .error cause := by
  have accepts := (realizes.bindAll_fill wellFormed.toValid bound).accepts
  have fails := realizes.invoke_error wellFormed accepts (input.host_supplies _ _ _) ran
  exact RequestInput.host_failsToShow fails

/-- **An internal error of an endpoint has one of the causes.** -/
theorem Endpoint.breaks_of_status (realizes : e.unit.Realizes a registry) (wellFormed : a.WellFormed)
    (internal : (e.respond site registry captures r s).1.status = 500) :
    e.Breaks site registry captures r s := by
  rw [Endpoint.respond] at internal
  cases read : r.input site.config.bodyLimit captures with
  | error error =>
      simp only [read, Request.fail_status, Problem.ofBinding_status_iff] at internal
      obtain ⟨service, rfl⟩ := internal
      exact absurd read (r.input_ne_serviceUnavailable _ _ service)
  | ok input =>
      cases bound : bindAll e.unit.parameters input site.services s with
      | error error =>
          simp only [read, bound, Request.fail_status, Problem.ofBinding_status_iff] at internal
          obtain ⟨service, rfl⟩ := internal
          exact .service read bound (realizes.bindAll_serviceUnavailable bound)
      | ok args =>
          rcases ran : e.unit.invoke registry args (input.host site.services site.render) s with
            ⟨error | outcome, s'⟩
          · obtain ⟨cause, rfl, hidden⟩ := realizes.invoke_error_of_bound wellFormed bound ran
            exact .view read bound ran hidden
          · simp only [read, bound, ran, Outcome.respond_status_iff] at internal
            obtain ⟨result, cause, rfl, refused⟩ := internal
            exact .encode read bound ran refused

/-- Each of the causes leads to an internal error. -/
theorem Endpoint.Breaks.status (breaks : e.Breaks site registry captures r s) :
    (e.respond site registry captures r s).1.status = 500 := by
  cases breaks with
  | service read unbound =>
      simp only [Endpoint.respond, read, unbound, Request.fail_status, Problem.ofBinding_status_iff]
      exact ⟨_, rfl⟩
  | view read bound failed =>
      simp only [Endpoint.respond, read, bound, failed]
      rfl
  | encode read bound ran refused =>
      simp only [Endpoint.respond, read, bound, ran, Outcome.respond_status_iff]
      exact ⟨_, _, rfl, refused⟩

variable {router : Router σ} {registryOf : Endpoint σ → Registry σ} {methods : MethodTable σ}

/-- A request that leads to an endpoint is answered by it. -/
theorem Router.respondWith_endpoint (routed : site.router? = .ok router)
    (found : router.table.find? r.uri.path = some (methods, captures))
    (served : methods.find? r.method = some (.endpoint e)) (registryOf : Endpoint σ → Registry σ) :
    router.respondWith registryOf r s =
      ((e.respond site (registryOf e) captures r s).1.forMethod r.method,
        (e.respond site (registryOf e) captures r s).2) := by
  obtain ⟨rfl, -⟩ := Site.router?_served routed
  rw [Router.respondWith, found]
  simp only [served]
  rfl

/-- **Served requests do not go wrong.**  The decoders of an endpoint are those that its markers ask for, and
whenever the binder succeeds, the slots of the unit, counted from one, hold values of the types of its parameters.
What the unit then fails with is an error of a view.  So a request that is routed to the endpoint is answered with
an internal error exactly if, for this request, a service is not registered, a view fails, or the result is not
encoded. -/
theorem Router.respondWith_internal_iff (routed : site.router? = .ok router)
    (compiled : e.CompiledIn (registryOf e)) (found : router.table.find? r.uri.path = some (methods, captures))
    (served : methods.find? r.method = some (.endpoint e)) :
    (∀ p ∈ e.unit.parameters, p.marker.Takes p.binding.decoder) ∧
    (∀ input s args, bindAll e.unit.parameters input site.services s = .ok args →
      e.unit.parameters.map Parameter.position = List.range' 1 e.unit.parameters.length ∧
        args.Fill e.unit.parameters) ∧
    (∀ input s args error s', bindAll e.unit.parameters input site.services s = .ok args →
      e.unit.invoke (registryOf e) args (input.host site.services site.render) s = (.error error, s') →
        ∃ cause, error = .view cause ∧ ∃ request, site.render request = .error cause) ∧
    ((router.respondWith registryOf r s).1.status = 500 ↔ e.Breaks site (registryOf e) captures r s) := by
  obtain ⟨wellFormed, realizes⟩ := compiled.realizes
  refine ⟨fun p member => realizes.takes_decoder member, ?_, ?_, ?_⟩
  · intro input s args bound
    exact ⟨realizes.map_position, realizes.bindAll_fill wellFormed.toValid bound⟩
  · intro input s args error s' bound ran
    exact realizes.invoke_error_of_bound wellFormed bound ran
  · rw [Router.respondWith_endpoint routed found served, Response.forMethod_status]
    exact ⟨e.breaks_of_status realizes wellFormed, Endpoint.Breaks.status⟩

end

/-- A site that serves notes but has no store answers a search with an internal error. -/
theorem searchNotes_internal :
    let r : Request := ⟨"GET", ⟨"/notes", "/notes", none⟩, default, []⟩
    ∃ (e : Endpoint NoteStore) (registry : Registry NoteStore) (router : Router NoteStore)
        (methods : MethodTable NoteStore),
      let site : Site NoteStore := { config := { documented := false }, endpoints := [e] }
      site.router? = .ok router ∧ e.CompiledIn registry ∧
        router.table.find? r.uri.path = some (methods, []) ∧ methods.find? r.method = some (.endpoint e) ∧
          e.Breaks site registry [] r .empty ∧
            (router.respondWith (fun _ => registry) r .empty).1.status = 500 := by
  intro r
  have formed := Notes.wellFormed_of_mem (a := Notes.searchNotes) (by simp [Notes.actions])
  obtain ⟨e, w, events, compiled⟩ := exists_compile_of_wellFormed {} .empty formed
  obtain ⟨-, action, realizes, -⟩ := compile_realizes compiled
  have path : e.path = "/notes" := by
    rw [Endpoint.path, action]
    decide +kernel
  let site : Site NoteStore := { config := { documented := false }, endpoints := [e] }
  let methods : MethodTable NoteStore := ⟨[("GET", .endpoint e)], ["GET", "HEAD"]⟩
  let router : Router NoteStore := ⟨site, ⟨[⟨"/notes", "/notes".toList.map .literal, methods⟩]⟩⟩
  have compiledIn : e.CompiledIn w.registry := ⟨_, _, _, w, events, compiled, .refl⟩
  have routed : site.router? = .ok router := by
    simp only [Site.router?, site, groupByPath, path, action]
    rfl
  have found : router.table.find? r.uri.path = some (methods, []) := by
    simp [router, r, Route.Table.find?, Route.search, Route.behindLiteral, Route.finished?, Route.captureNames]
  have unbound : ∀ ps, Parameter.ofPlanned Notes.searchNotes.plan.ordered = .ok ps →
      bindAll ps ⟨⟨"GET", r.uri, default, []⟩, []⟩ .empty NoteStore.empty =
        .error (.serviceUnavailable (Ty.service Notes.storeName).name) := by
    rintro ps ⟨⟩
    rfl
  have missing := unbound e.unit.parameters realizes.parameters
  have breaks : e.Breaks site w.registry [] r .empty :=
    .service rfl missing (realizes.bindAll_serviceUnavailable missing)
  obtain ⟨-, -, -, internal⟩ := @Router.respondWith_internal_iff NoteStore e site [] r .empty router
    (fun _ => w.registry) methods routed compiledIn found rfl
  exact ⟨e, w.registry, router, methods, routed, compiledIn, found, rfl, breaks, internal.mpr breaks⟩

end HandlerChain
