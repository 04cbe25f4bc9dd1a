import HandlerChain.Proofs.Compilation
import HandlerChain.Proofs.Inputs
import HandlerChain.Proofs.Placeholders
import HandlerChain.Proofs.Router

/-!
# Parameters of the route have values

Compilation checks the names that bindings read from the route against the placeholders of the template, and
a request finds them among the captures of the path that was made of it.  The two agree where no brace gets in
the way of a placeholder; a template with a placeholder between doubled braces passes the check, and then no
request has a value for it.

## Main Definitions

* `captureText?` is the text that a capture stands for.

## Main Results

* `decodeCaptures_names`: decoding loses no name.
* `Router.bind_route_ne_missing`: a parameter of the route is never missing, if braces are apart.
* `placeholder_hidden_by_braces`: an endpoint that is compiled and served, and misses its parameter.
-/

namespace HandlerChain

/-- The text that a capture stands for. -/
def captureText? (raw : String) : Option String :=
  (Text.Utf8.decode (Http.Percent.decode (Text.Utf8.encode raw))).map String.ofList

/-- Decoding a capture: it replaces what was captured under its name before. -/
theorem decodeCaptures_cons {got rest values : List (String × String)} {name raw : String}
    (decoded : decodeCaptures got ((name, raw) :: rest) = .ok values) :
    ∃ text, captureText? raw = some text ∧
      decodeCaptures (got.filter (fun g => g.1 != name) ++ [(name, text)]) rest = .ok values := by
  rw [decodeCaptures] at decoded
  unfold captureText?
  split at decoded
  · cases decoded
  · rename_i cs read
    exact ⟨String.ofList cs, by rw [read, Option.map_some], decoded⟩

/-- Every name that was captured, or had a value before, has one after decoding. -/
theorem decodeCaptures_names {got captures values : List (String × String)}
    (decoded : decodeCaptures got captures = .ok values) {name : String}
    (named : name ∈ got.map Prod.fst ∨ name ∈ captures.map Prod.fst) : name ∈ values.map Prod.fst := by
  induction captures generalizing got with
  | nil =>
      cases decoded
      simpa using named
  | cons capture rest ih =>
      obtain ⟨mine, raw⟩ := capture
      obtain ⟨text, -, decoded⟩ := decodeCaptures_cons decoded
      refine ih decoded ?_
      rcases named with old | new
      · by_cases same : name = mine
        · exact .inl (by simp [same])
        · obtain ⟨entry, member, rfl⟩ := List.mem_map.mp old
          exact .inl (List.mem_map_of_mem (List.mem_append_left _ (by simp [member, same])))
      · rcases List.mem_cons.mp new with rfl | later
        · exact .inl (by simp)
        · exact .inr later

/-- A name is found if it is there up to the case of ASCII letters. -/
theorem exists_lookupName {name spelled : String} {pairs : List (String × String)}
    (there : spelled ∈ pairs.map Prod.fst) (same : Text.eqIgnoreAsciiCase spelled name = true) :
    ∃ v, lookupName name pairs = some v := by
  obtain ⟨entry, member, rfl⟩ := List.mem_map.mp there
  rw [lookupName, ← Option.isSome_iff_exists, Option.isSome_map, List.find?_isSome]
  exact ⟨entry, member, same⟩

section

variable {σ : Type}

/-- A parameter of the route that has a text is not missing: the text is read, or it is invalid. -/
theorem Parameter.bind_ne_missing {p : Parameter σ} {name raw : String} (marked : p.marker = .route name)
    (takes : p.marker.Takes p.binding.decoder) {r : RequestInput} (given : r.routeValue name = some raw)
    (services : Services) (s : σ) (sourceKind missing : String) :
    p.bind r services s ≠ .error (.missing sourceKind missing) := by
  simp only [marked, Marker.Takes] at takes
  simp only [Parameter.bind, Parameter.read, marked, takes, given, readText]
  cases p.binding.type.ty.ofText raw <;> simp

/-- A parameter of the route has the name of a placeholder, up to the case of ASCII letters. -/
theorem DispatchUnit.Realizes.exists_placeholder {u : DispatchUnit σ} {a : Action σ} {registry : Registry σ}
    (realizes : u.Realizes a registry) (named : a.RoutesNamed) {p : Parameter σ} (member : p ∈ u.parameters)
    {name : String} (marked : p.marker = .route name) :
    ∃ q ∈ Route.parameters a.route, Text.eqIgnoreAsciiCase q.name name = true := by
  obtain ⟨b, bound, made⟩ := realizes.exists_binding member
  obtain ⟨-, -, -, -, -, source⟩ := Parameter.of_ofBinding? made
  obtain ⟨⟨step, inside, mine⟩, -⟩ := mem_inputBindings.mp bound
  refine named.named step inside b mine name ?_
  rw [marked] at source
  cases kind : b.source <;> simp_all [Marker.ofSource?]

/-- The values of the route of a request are what was captured, decoded. -/
theorem Request.decodeCaptures_of_input {r : Request} {limit : Nat} {captures : List (String × String)}
    {input : RequestInput} (received : r.input limit captures = .ok input) :
    decodeCaptures [] captures = .ok input.context.routeValues := by
  unfold Request.input at received
  cases decoded : decodeCaptures [] captures with
  | error malformed => simp [decoded] at received
  | ok values =>
      cases read : readBody limit r.body with
      | error cause => simp [decoded, read] at received
      | ok body =>
          simp only [decoded, read, Except.ok.injEq] at received
          rw [← received]

/-- The input that a request is to an endpoint has a value of the route for each name that was captured. -/
theorem Request.input_names {r : Request} {limit : Nat} {captures : List (String × String)}
    {input : RequestInput} (received : r.input limit captures = .ok input) {name : String}
    (captured : name ∈ captures.map Prod.fst) : name ∈ input.context.routeValues.map Prod.fst :=
  decodeCaptures_names (Request.decodeCaptures_of_input received) (.inr captured)

/-- **A parameter of the route is never missing.**  If no brace of the template gets in the way of a
placeholder, a request that is routed to the endpoint and whose captures can be decoded has a text for each
parameter that is read from the route. -/
theorem Router.bind_route_ne_missing {site : Site σ} {router : Router σ} (routed : site.router? = .ok router)
    {config : CompilerConfig} {w w' : Workshop σ} {a : Action σ} {e : Endpoint σ} {events : List Event}
    (compiled : compile config w a = (.ok e, w', events))
    (apart : Route.BracesApart (Route.pieces a.route)) {r : Request} {methods : MethodTable σ}
    {captures : List (String × String)}
    (found : router.table.find? r.uri.path = some (methods, captures))
    (served : methods.find? r.method = some (.endpoint e)) {limit : Nat} {input : RequestInput}
    (received : r.input limit captures = .ok input) {p : Parameter σ} (member : p ∈ e.unit.parameters)
    {name : String} (marked : p.marker = .route name) :
    (∃ raw, input.routeValue name = some raw) ∧
      ∀ services s sourceKind missing, p.bind input services s ≠ .error (.missing sourceKind missing) := by
  obtain ⟨wellFormed, rfl, realizes, -⟩ := compile_realizes compiled
  obtain ⟨q, placed, same⟩ := realizes.exists_placeholder wellFormed.toRoutesNamed member marked
  -- The path of the endpoint captures the name of the placeholder, and the request matches this path.
  obtain ⟨ts, captured, tokens, matched, rfl⟩ : ∃ ts captured, Route.tokens? e.path = some ts ∧
      Route.Matches ts r.uri.path.toList captured ∧
        captures = (Route.captureNames ts).zip (captured.map String.ofList) := by
    rcases Router.find?_served routed found served with impossible | ⟨e', -, mine, from_path⟩
    · cases impossible
    · cases mine
      exact from_path
  have names := Route.captureNames_of_tokens? apart tokens
  have length := matched.length_eq (Route.restLast_of_tokens? tokens)
  have there : q.name ∈ ((Route.captureNames ts).zip (captured.map String.ofList)).map Prod.fst := by
    rw [List.map_fst_zip (by simp [length]), names]
    exact List.mem_map_of_mem placed
  obtain ⟨raw, given⟩ := exists_lookupName (Request.input_names received there) same
  exact ⟨⟨raw, given⟩, Parameter.bind_ne_missing marked (realizes.takes_decoder member) given⟩

end

/-- An endpoint that finds a note, alone in a router: its path with its tokens, and the parameter that is
read from the route, which has no default. -/
theorem Notes.exists_getNote_router {route : String}
    (formed : { Notes.getNote with route := route }.WellFormed)
    (plain : Route.Table.isPlain (Route.normalize route) = true) {ts : List Route.Token}
    (tokens : Route.tokens? (Route.normalize route) = some ts) :
    ∃ (e : Endpoint NoteStore) (w : Workshop NoteStore) (events : List Event)
        (methods : MethodTable NoteStore) (p : Parameter NoteStore),
      let site : Site NoteStore := { config := { documented := false }, endpoints := [e] }
      compile {} .empty { Notes.getNote with route := route } = (.ok e, w, events) ∧
      site.router? = .ok ⟨site, ⟨[⟨Route.normalize route, ts, methods⟩]⟩⟩ ∧
      methods.find? "GET" = some (.endpoint e) ∧ p ∈ e.unit.parameters ∧ p.name = "id" ∧
        p.marker = .route "id" ∧ p.optional = false := by
  obtain ⟨e, w, events, compiled, path, method⟩ := Notes.exists_getNote formed .empty
  obtain ⟨-, -, realizes, -⟩ := compile_realizes compiled
  have read : ∀ ps, Parameter.ofPlanned { Notes.getNote with route := route }.plan.ordered = .ok ps →
      ∃ p ∈ ps, p.name = "id" ∧ p.marker = .route "id" ∧ p.optional = false := by
    intro ps made
    cases made
    exact ⟨_, .tail _ (.head _), rfl, rfl, rfl⟩
  obtain ⟨p, member, facts⟩ := read _ realizes.parameters
  rw [← path] at plain tokens ⊢
  have served : MethodTable.find? ⟨[(e.action.method, .endpoint e)], MethodTable.allowedBy e.action.method⟩ "GET" =
      some (.endpoint e) := by
    rw [method]
    rfl
  exact ⟨e, w, events, _, p, compiled, Site.router?_singleton rfl plain tokens, served, member, facts⟩

/-- The endpoint that finds a note, and a request for the note 5. -/
theorem Notes.exists_getNote_numbered :
    ∃ (e : Endpoint NoteStore) (w : Workshop NoteStore) (events : List Event) (router : Router NoteStore)
        (methods : MethodTable NoteStore) (p : Parameter NoteStore),
      compile {} .empty { Notes.getNote with route := "/notes/{id}" } = (.ok e, w, events) ∧
      Site.router? { config := { documented := false }, endpoints := [e] } = .ok router ∧
      router.table.find? "/notes/5" = some (methods, [("id", "5")]) ∧
      methods.find? "GET" = some (.endpoint e) ∧ decodeCaptures [] [("id", "5")] = .ok [("id", "5")] ∧
      p ∈ e.unit.parameters ∧ p.marker = .route "id" := by
  have formed : { Notes.getNote with route := "/notes/{id}" }.WellFormed :=
    Notes.getNote_withRoute (p := ⟨"id", none, false, false⟩) (by decide +kernel) rfl
  let ts : List Route.Token := "/notes/".toList.map .literal ++ [.capture "id"]
  have tokens : Route.tokens? (Route.normalize "/notes/{id}") = some ts := by decide +kernel
  obtain ⟨e, w, events, methods, p, compiled, routed, served, member, -, marked, -⟩ :=
    Notes.exists_getNote_router formed (by decide +kernel) tokens
  let site : Site NoteStore := { config := { documented := false }, endpoints := [e] }
  let router : Router NoteStore := ⟨site, ⟨[⟨Route.normalize "/notes/{id}", ts, methods⟩]⟩⟩
  have found : router.table.find? "/notes/5" = some (methods, [("id", "5")]) := by
    simp [router, ts, Route.Table.find?, Route.search, Route.behindLiteral, Route.behindCapture,
      Route.finished?, Route.captureNames]
  have text : Text.Utf8.decode (Http.Percent.decode (Text.Utf8.encode "5")) = some ['5'] := by decide +kernel
  have decoded : decodeCaptures [] [("id", "5")] = .ok [("id", "5")] := by simp [decodeCaptures, text]
  exact ⟨e, w, events, router, methods, p, compiled, routed, found, served, decoded, member, marked⟩

/-- A request for the note 5 has its number. -/
theorem getNote_bind_ne_missing :
    let r : Request := ⟨"GET", ⟨"/notes/5", "/notes/5", none⟩, default, []⟩
    let a : Action NoteStore := { Notes.getNote with route := "/notes/{id}" }
    ∃ (e : Endpoint NoteStore) (w : Workshop NoteStore) (events : List Event) (router : Router NoteStore)
        (methods : MethodTable NoteStore) (input : RequestInput) (p : Parameter NoteStore),
      Site.router? { config := { documented := false }, endpoints := [e] } = .ok router ∧
      compile {} .empty a = (.ok e, w, events) ∧ Route.BracesApart (Route.pieces a.route) ∧
      router.table.find? r.uri.path = some (methods, [("id", "5")]) ∧
      methods.find? r.method = some (.endpoint e) ∧ r.input 0 [("id", "5")] = .ok input ∧
      p ∈ e.unit.parameters ∧ p.marker = .route "id" ∧ (∃ raw, input.routeValue "id" = some raw) ∧
        ∀ services s sourceKind missing, p.bind input services s ≠ .error (.missing sourceKind missing) := by
  intro r a
  obtain ⟨e, w, events, router, methods, p, compiled, routed, found, served, decoded, member, marked⟩ :=
    Notes.exists_getNote_numbered
  have apart : Route.BracesApart (Route.pieces a.route) := Route.bracesApart_of_forall (by decide +kernel)
  have received : r.input 0 [("id", "5")] = .ok ⟨⟨"GET", r.uri, default, [("id", "5")]⟩, []⟩ := by
    simp [r, Request.input, decoded, readBody, collectFrom, Except.mapError]
  exact ⟨e, w, events, router, methods, _, p, routed, compiled, apart, found, served, received, member,
    marked, Router.bind_route_ne_missing routed compiled apart found served received member marked⟩

/-- Between braces that are written twice, a placeholder is read as one and routed as a text: the endpoint is
compiled and served, and the one path that leads to it has no number. -/
theorem placeholder_hidden_by_braces :
    let r : Request := ⟨"GET", ⟨"/\x7bid\x7d", "/\x7bid\x7d", none⟩, default, []⟩
    let a : Action NoteStore := { Notes.getNote with route := "/\x7b\x7bid\x7d\x7d" }
    ∃ (e : Endpoint NoteStore) (w : Workshop NoteStore) (events : List Event) (router : Router NoteStore)
        (methods : MethodTable NoteStore) (input : RequestInput) (p : Parameter NoteStore),
      Site.router? { config := { documented := false }, endpoints := [e] } = .ok router ∧
      compile {} .empty a = (.ok e, w, events) ∧ router.table.find? r.uri.path = some (methods, []) ∧
      methods.find? r.method = some (.endpoint e) ∧ r.input 0 [] = .ok input ∧
      p ∈ e.unit.parameters ∧ p.marker = .route "id" ∧
        ∀ services s, p.bind input services s = .error (.missing "route" "id") := by
  intro r a
  have formed : a.WellFormed :=
    Notes.getNote_withRoute (p := ⟨"id", none, false, false⟩) (by decide +kernel) rfl
  let ts : List Route.Token := "/\x7bid\x7d".toList.map .literal
  have tokens : Route.tokens? (Route.normalize a.route) = some ts := by decide +kernel
  obtain ⟨e, w, events, methods, p, compiled, routed, served, member, named, marked, required⟩ :=
    Notes.exists_getNote_router formed (by decide +kernel) tokens
  let site : Site NoteStore := { config := { documented := false }, endpoints := [e] }
  let router : Router NoteStore := ⟨site, ⟨[⟨Route.normalize a.route, ts, methods⟩]⟩⟩
  have found : router.table.find? r.uri.path = some (methods, []) := by
    simp [router, ts, r, Route.Table.find?, Route.search, Route.behindLiteral, Route.finished?,
      Route.captureNames]
  have missing : ∀ services s,
      p.bind ⟨⟨"GET", r.uri, default, []⟩, []⟩ services s = .error (.missing "route" "id") := by
    intro services s
    simp [Parameter.bind, Parameter.read, marked, required, named, RequestInput.routeValue, lookupName,
      readText, Marker.sourceKind]
  exact ⟨e, w, events, router, methods, _, p, routed, compiled, found, served, rfl, member, marked, missing⟩

end HandlerChain
