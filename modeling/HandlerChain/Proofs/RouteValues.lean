import HandlerChain.Proofs.Captures
import Mathlib.Data.List.Perm.Basic

/-!
# Which capture a parameter is bound to

What a path captures is kept as a map from names to texts, and the order of a map means nothing.  A parameter is
looked up in it up to the case of ASCII letters, and the first entry that is met counts.  So the text that is
bound can depend on the order, and it does exactly if two entries with different texts have the name of the
parameter in different case.  Nothing keeps a template from having such placeholders; where no two of them differ
in case only, each parameter gets the text of its own placeholder.

An order of a map is a permutation of its entries, and a request with other values of the route is one whose
entries have been reordered.

## Main Definitions

* `NamesApart` says that no two names of a list are the same up to case.
* `RequestInput.withRouteValues` is a request with other values of the route.

## Main Results

* `mem_decodeCaptures`: decoding keeps the last capture of each name.
* `exists_lookupName_of_captured`: where names are apart, each has the text that was captured under it.
* `lookupName_perm_iff`: when a look-up does not depend on the order of the entries.
* `Router.route_values_apart`: to what a parameter of the route is bound, and when the order decides.
* `order_decides`: an endpoint that finds another note if the captures are met in another order.
-/

namespace HandlerChain

/-! ### Captures as a map -/

/-- No two of the names are the same up to the case of ASCII letters. -/
def NamesApart (names : List String) : Prop := (names.map Text.lowerAscii).Nodup

section

variable {got captures values : List (String × String)} {name raw text : String}

/-- Every capture can be decoded if all can. -/
theorem exists_captureText? (decoded : decodeCaptures got captures = .ok values) (member : (name, raw) ∈ captures) :
    ∃ text, captureText? raw = some text := by
  induction captures generalizing got with
  | nil => cases member
  | cons capture rest ih =>
      obtain ⟨text, read, decoded⟩ := decodeCaptures_cons decoded
      rcases List.mem_cons.mp member with rfl | later
      · exact ⟨text, read⟩
      · exact ih decoded later

/-- What is decoded is a map: no name has two texts. -/
theorem nodup_decodeCaptures (distinct : (got.map Prod.fst).Nodup)
    (decoded : decodeCaptures got captures = .ok values) : (values.map Prod.fst).Nodup := by
  induction captures generalizing got with
  | nil =>
      cases decoded
      exact distinct
  | cons capture rest ih =>
      obtain ⟨text, -, decoded⟩ := decodeCaptures_cons decoded
      refine ih ?_ decoded
      rw [List.map_append, List.map_singleton]
      refine (distinct.sublist (List.filter_sublist.map _)).append (List.nodup_singleton _) ?_
      rw [List.disjoint_singleton, List.mem_map]
      rintro ⟨entry, kept, same⟩
      simp [same] at kept

/-- **Decoding keeps the last capture of each name**, and what was there before under other names. -/
theorem mem_decodeCaptures (decoded : decodeCaptures got captures = .ok values) :
    (name, text) ∈ values ↔ (name, text) ∈ got ∧ name ∉ captures.map Prod.fst ∨
      ∃ before raw after, captures = before ++ (name, raw) :: after ∧ name ∉ after.map Prod.fst ∧
        captureText? raw = some text := by
  induction captures generalizing got with
  | nil =>
      cases decoded
      simp
  | cons capture rest ih =>
      obtain ⟨mine, spelled⟩ := capture
      obtain ⟨read, decodes, decoded⟩ := decodeCaptures_cons decoded
      rw [ih decoded, List.mem_append, List.mem_filter, List.mem_singleton, bne_iff_ne]
      constructor
      · rintro (⟨⟨old, other⟩ | new, absent⟩ | ⟨before, raw, after, rfl, last, decodes⟩)
        · exact .inl ⟨old, by rw [List.map_cons, List.mem_cons, not_or]; exact ⟨other, absent⟩⟩
        · cases new
          exact .inr ⟨[], spelled, rest, rfl, absent, decodes⟩
        · exact .inr ⟨(mine, spelled) :: before, raw, after, rfl, last, decodes⟩
      · rintro (⟨old, absent⟩ | ⟨before, raw, after, split, last, decodes'⟩)
        · rw [List.map_cons, List.mem_cons, not_or] at absent
          exact .inl ⟨.inl ⟨old, absent.1⟩, absent.2⟩
        · rcases before with _ | ⟨first, before⟩
          · cases split
            cases decodes.symm.trans decodes'
            exact .inl ⟨.inr rfl, last⟩
          · cases split
            exact .inr ⟨before, raw, after, rfl, last, decodes'⟩

end

/-! ### Look-ups in any order -/

section

variable {values : List (String × String)} {name : String}

/-- What a look-up finds is the text of an entry that has the name up to case. -/
theorem exists_mem_of_lookupName {text : String} (found : lookupName name values = some text) :
    ∃ v ∈ values, Text.eqIgnoreAsciiCase v.1 name = true ∧ v.2 = text := by
  obtain ⟨v, met, rfl⟩ := Option.map_eq_some_iff.mp found
  exact ⟨v, List.mem_of_find?_eq_some met, by simpa using List.find?_some met, rfl⟩

/-- Nothing is found exactly if no entry has the name up to case. -/
theorem lookupName_eq_none_iff :
    lookupName name values = none ↔ ∀ v ∈ values, Text.eqIgnoreAsciiCase v.1 name ≠ true := by
  rw [lookupName, Option.map_eq_none_iff, List.find?_eq_none]

/-- **A look-up does not depend on the order** exactly if all entries that it could find have one text. -/
theorem lookupName_perm_iff :
    (∀ order, order.Perm values → lookupName name order = lookupName name values) ↔
      ∀ v ∈ values, ∀ w ∈ values, Text.eqIgnoreAsciiCase v.1 name = true →
        Text.eqIgnoreAsciiCase w.1 name = true → v.2 = w.2 := by
  constructor
  · intro agree v member w member' same same'
    -- Each of the two entries can be met first.
    have first : ∀ v ∈ values, Text.eqIgnoreAsciiCase v.1 name = true → lookupName name values = some v.2 := by
      intro v member same
      rw [← agree _ (List.perm_cons_erase member).symm]
      simp [lookupName, same]
    exact Option.some.inj ((first v member same).symm.trans (first w member' same'))
  · intro alike order perm
    cases met : lookupName name order with
    | none =>
        rw [lookupName_eq_none_iff] at met
        exact (lookupName_eq_none_iff.mpr fun v member => met v (perm.mem_iff.mpr member)).symm
    | some text =>
        obtain ⟨v, listed, same, rfl⟩ := exists_mem_of_lookupName met
        have member : v ∈ values := perm.mem_iff.mp listed
        obtain ⟨text', found⟩ := exists_lookupName (List.mem_map_of_mem member) same
        obtain ⟨w, member', same', rfl⟩ := exists_mem_of_lookupName found
        rw [found, alike v member w member' same same']

/-- Where names are apart, a look-up finds the one entry that has the name. -/
theorem lookupName_eq_some_of_mem (apart : NamesApart (values.map Prod.fst)) {v : String × String}
    (member : v ∈ values) (same : Text.eqIgnoreAsciiCase v.1 name = true) :
    lookupName name values = some v.2 := by
  rw [NamesApart, List.map_map] at apart
  obtain ⟨text, found⟩ := exists_lookupName (List.mem_map_of_mem member) same
  obtain ⟨w, member', same', rfl⟩ := exists_mem_of_lookupName found
  have spelled : Text.lowerAscii w.1 = Text.lowerAscii v.1 :=
    (Text.eqIgnoreAsciiCase_iff.mp same').trans (Text.eqIgnoreAsciiCase_iff.mp same).symm
  rw [found, List.inj_on_of_nodup_map apart member' member spelled]

end

/-- Names that are apart are so after decoding. -/
theorem NamesApart.decodeCaptures {captures values : List (String × String)}
    (apart : NamesApart (captures.map Prod.fst)) (decoded : decodeCaptures [] captures = .ok values) :
    NamesApart (values.map Prod.fst) := by
  refine List.Nodup.map_on (fun name member other member' same => ?_) (nodup_decodeCaptures (by simp) decoded)
  have captured {name : String} (member : name ∈ values.map Prod.fst) : name ∈ captures.map Prod.fst := by
    obtain ⟨⟨_, text⟩, listed, rfl⟩ := List.mem_map.mp member
    rcases (mem_decodeCaptures decoded).mp listed with ⟨none, -⟩ | ⟨before, raw, after, rfl, -⟩
    · cases none
    · simp
  exact List.inj_on_of_nodup_map apart (captured member) (captured member') same

/-- **Where names are apart, a name finds what was captured under it.** -/
theorem exists_lookupName_of_captured {captures values : List (String × String)}
    (apart : NamesApart (captures.map Prod.fst)) (decoded : decodeCaptures [] captures = .ok values)
    {name raw : String} (captured : (name, raw) ∈ captures) :
    ∃ text, captureText? raw = some text ∧ lookupName name values = some text := by
  obtain ⟨text, read⟩ := exists_captureText? decoded captured
  obtain ⟨before, after, rfl⟩ := List.append_of_mem captured
  have distinct : ((before ++ (name, raw) :: after).map Prod.fst).Nodup := List.Nodup.of_map _ apart
  rw [List.map_append, List.map_cons] at distinct
  have last : name ∉ after.map Prod.fst := (List.nodup_cons.mp (List.Nodup.of_append_right distinct)).1
  have listed : (name, text) ∈ values :=
    (mem_decodeCaptures decoded).mpr (.inr ⟨before, raw, after, rfl, last, read⟩)
  exact ⟨text, read, lookupName_eq_some_of_mem (apart.decodeCaptures decoded) listed (Text.eqIgnoreAsciiCase_self name)⟩

/-- Where names are apart, the order does not matter. -/
theorem NamesApart.lookupName_perm {values order : List (String × String)} (apart : NamesApart (values.map Prod.fst))
    (perm : order.Perm values) (name : String) : lookupName name order = lookupName name values := by
  refine lookupName_perm_iff.mpr (fun v listed w listed' same same' => ?_) order perm
  exact Option.some.inj ((lookupName_eq_some_of_mem apart listed same).symm.trans
    (lookupName_eq_some_of_mem apart listed' same'))

/-! ### Parameters of the route -/

/-- A request with other values of the route. -/
def RequestInput.withRouteValues (r : RequestInput) (values : List (String × String)) : RequestInput :=
  { r with context := { r.context with routeValues := values } }

section

variable {σ : Type}

/-- A parameter of the route depends on the text under its name only. -/
theorem Parameter.bind_congr_route {p : Parameter σ} {name : String} (marked : p.marker = .route name)
    {r r' : RequestInput} (same : r.routeValue name = r'.routeValue name) (services : Services) (s : σ) :
    p.bind r services s = p.bind r' services s := by
  simp only [bind, read, marked, same]

/-- The value that is met first is bound. -/
theorem Parameter.bind_withRouteValues_cons {p : Parameter σ} {name spelled raw : String}
    (marked : p.marker = .route name) (same : Text.eqIgnoreAsciiCase spelled name = true) {v : Dyn}
    (read : readText p.binding.decoder "route" name (some raw) = .ok (some v)) (r : RequestInput)
    (more : List (String × String)) (services : Services) (s : σ) :
    p.bind (r.withRouteValues ((spelled, raw) :: more)) services s = .ok (some v) := by
  have met : (r.withRouteValues ((spelled, raw) :: more)).routeValue name = some raw := by
    simp [RequestInput.routeValue, RequestInput.withRouteValues, lookupName, same]
  simp only [bind, Parameter.read, marked, met, Marker.sourceKind, read]

/-- A request that leads to an endpoint captures the names of its placeholders, if no brace gets in the way. -/
theorem Router.map_fst_captures {site : Site σ} {router : Router σ} (routed : site.router? = .ok router)
    {path method : String} {methods : MethodTable σ} {captures : List (String × String)} {e : Endpoint σ}
    (found : router.table.find? path = some (methods, captures))
    (served : methods.find? method = some (.endpoint e))
    (apart : Route.BracesApart (Route.pieces e.action.route)) :
    captures.map Prod.fst = (Route.parameters e.action.route).map Route.Parameter.name := by
  rcases Router.find?_served routed found served with impossible | ⟨e', -, mine, ts, captured, tokens, matched, rfl⟩
  · cases impossible
  · cases mine
    have length := matched.length_eq (Route.restLast_of_tokens? tokens)
    rw [List.map_fst_zip (by simp [length]), Route.captureNames_of_tokens? apart tokens]

/-- **To what a parameter of the route is bound.**  The values of the route are a map, and the bound text is the
same in each order of it exactly if all entries whose names match have one text.  If no two names that the path
captured are the same up to case, it is the same in each order, and a capture whose name is spelled like the
parameter is the one that is bound.  The names that a path captures are those of the placeholders of the
template, where no brace gets in the way. -/
theorem Router.route_values_apart {site : Site σ} {router : Router σ} (routed : site.router? = .ok router)
    {config : CompilerConfig} {w w' : Workshop σ} {a : Action σ} {e : Endpoint σ} {events : List Event}
    (compiled : compile config w a = (.ok e, w', events)) {r : Request} {methods : MethodTable σ}
    {captures : List (String × String)} (found : router.table.find? r.uri.path = some (methods, captures))
    (served : methods.find? r.method = some (.endpoint e)) {limit : Nat} {input : RequestInput}
    (received : r.input limit captures = .ok input) {p : Parameter σ} (member : p ∈ e.unit.parameters)
    {name : String} (marked : p.marker = .route name) :
    let values := input.context.routeValues
    (values.map Prod.fst).Nodup ∧
      ((∀ order, order.Perm values → (input.withRouteValues order).routeValue name = input.routeValue name) ↔
        ∀ v ∈ values, ∀ w ∈ values, Text.eqIgnoreAsciiCase v.1 name = true →
          Text.eqIgnoreAsciiCase w.1 name = true → v.2 = w.2) ∧
      (NamesApart (captures.map Prod.fst) →
        (∀ order, order.Perm values → ∀ services s,
          p.bind (input.withRouteValues order) services s = p.bind input services s) ∧
        ∀ raw, (name, raw) ∈ captures → ∃ text, captureText? raw = some text ∧
          input.routeValue name = some text) ∧
      (Route.BracesApart (Route.pieces a.route) →
        captures.map Prod.fst = (Route.parameters a.route).map Route.Parameter.name ∧
          ∃ q ∈ Route.parameters a.route, Text.eqIgnoreAsciiCase q.name name = true) := by
  intro values
  obtain ⟨wellFormed, rfl, realizes, -⟩ := compile_realizes compiled
  have decoded : decodeCaptures [] captures = .ok values := Request.decodeCaptures_of_input received
  refine ⟨nodup_decodeCaptures (by simp) decoded, lookupName_perm_iff, fun apart =>
    ⟨fun order perm services s => ?_, fun raw captured => exists_lookupName_of_captured apart decoded captured⟩,
    fun braces => ⟨Router.map_fst_captures routed found served braces,
      realizes.exists_placeholder wellFormed.toRoutesNamed member marked⟩⟩
  have same : (input.withRouteValues order).routeValue name = input.routeValue name :=
    (apart.decodeCaptures decoded).lookupName_perm perm name
  exact Parameter.bind_congr_route marked same services s

end

/-- The number of the note 5 is the one text that its path captures. -/
theorem getNote_route_values_apart :
    let r : Request := ⟨"GET", ⟨"/notes/5", "/notes/5", none⟩, default, []⟩
    let a : Action NoteStore := { Notes.getNote with route := "/notes/{id}" }
    ∃ (e : Endpoint NoteStore) (w : Workshop NoteStore) (events : List Event) (router : Router NoteStore)
        (methods : MethodTable NoteStore) (input : RequestInput) (p : Parameter NoteStore),
      Site.router? { config := { documented := false }, endpoints := [e] } = .ok router ∧
      compile {} .empty a = (.ok e, w, events) ∧
      router.table.find? r.uri.path = some (methods, [("id", "5")]) ∧
      methods.find? r.method = some (.endpoint e) ∧ r.input 0 [("id", "5")] = .ok input ∧
      p ∈ e.unit.parameters ∧ p.marker = .route "id" ∧ NamesApart ["id"] ∧
      (∀ order, order.Perm input.context.routeValues → ∀ services s,
        p.bind (input.withRouteValues order) services s = p.bind input services s) ∧
      ∃ text, captureText? "5" = some text ∧ input.routeValue "id" = some text := by
  intro r a
  obtain ⟨e, w, events, router, methods, p, compiled, routed, found, served, decoded, member, marked⟩ :=
    Notes.exists_getNote_numbered
  have received : r.input 0 [("id", "5")] = .ok ⟨⟨"GET", r.uri, default, [("id", "5")]⟩, []⟩ := by
    simp [r, Request.input, decoded, readBody, collectFrom, Except.mapError]
  have apart : NamesApart ["id"] := List.nodup_singleton _
  obtain ⟨-, -, bound, -⟩ := Router.route_values_apart routed compiled found served received member marked
  exact ⟨e, w, events, router, methods, _, p, routed, compiled, found, served, received, member, marked, apart,
    (bound apart).1, (bound apart).2 "5" (List.mem_singleton_self _)⟩

/-- The number of a note is read from the route. -/
theorem Notes.readText_of_getNote_route {route : String} {e : Endpoint NoteStore} {w : Workshop NoteStore}
    {events : List Event} (compiled : compile {} .empty { Notes.getNote with route := route } = (.ok e, w, events))
    {p : Parameter NoteStore} (member : p ∈ e.unit.parameters) {name : String} (marked : p.marker = .route name)
    {raw : String} {n : IntKind.u64.Number} (read : Ty.ofText (.int .u64) raw = .ok n) :
    readText p.binding.decoder "route" name (some raw) = .ok (some ⟨.int .u64, n⟩) := by
  obtain ⟨-, -, realizes, -⟩ := compile_realizes compiled
  have takes := realizes.takes_decoder member
  simp only [marked, Marker.Takes] at takes
  obtain ⟨b, bound, made⟩ := realizes.exists_binding member
  obtain ⟨-, -, -, -, mine, source⟩ := Parameter.of_ofBinding? made
  have listed : { Notes.getNote with route := route }.inputBindings =
      [.service Notes.storeName, .route (.int .u64) "id"] := rfl
  have type : p.binding.type.ty = .int .u64 := by
    rw [listed, List.mem_cons, List.mem_singleton] at bound
    rw [marked] at source
    rcases bound with rfl | rfl
    · cases source
    · rw [mine]
      rfl
  rw [takes, type]
  simp only [readText, read]

/-- The endpoint that finds a note, under two placeholders that differ in case only, and what it reads of the path
`/notes/1/2` in either order of the captures. -/
theorem Notes.exists_getNote_doubled :
    ∃ (e : Endpoint NoteStore) (w : Workshop NoteStore) (events : List Event) (router : Router NoteStore)
        (methods : MethodTable NoteStore) (p : Parameter NoteStore) (one two : Dyn),
      compile {} .empty { Notes.getNote with route := "/notes/{id}/{ID}" } = (.ok e, w, events) ∧
      Site.router? { config := { documented := false }, endpoints := [e] } = .ok router ∧
      router.table.find? "/notes/1/2" = some (methods, [("id", "1"), ("ID", "2")]) ∧
      methods.find? "GET" = some (.endpoint e) ∧
      decodeCaptures [] [("id", "1"), ("ID", "2")] = .ok [("id", "1"), ("ID", "2")] ∧
      p ∈ e.unit.parameters ∧ p.marker = .route "id" ∧ one ≠ two ∧
      (∀ (input : RequestInput) services s,
        p.bind (input.withRouteValues [("id", "1"), ("ID", "2")]) services s = .ok (some one)) ∧
      ∀ (input : RequestInput) services s,
        p.bind (input.withRouteValues [("ID", "2"), ("id", "1")]) services s = .ok (some two) := by
  have formed : { Notes.getNote with route := "/notes/{id}/{ID}" }.WellFormed :=
    Notes.getNote_withRoute (p := ⟨"id", none, false, false⟩) (by decide +kernel) rfl
  let ts : List Route.Token := "/notes/".toList.map .literal ++ [.capture "id", .literal '/', .capture "ID"]
  have tokens : Route.tokens? (Route.normalize "/notes/{id}/{ID}") = some ts := by decide +kernel
  obtain ⟨e, w, events, methods, p, compiled, routed, served, member, -, marked, -⟩ :=
    Notes.exists_getNote_router formed (by decide +kernel) tokens
  let site : Site NoteStore := { config := { documented := false }, endpoints := [e] }
  let router : Router NoteStore := ⟨site, ⟨[⟨Route.normalize "/notes/{id}/{ID}", ts, methods⟩]⟩⟩
  have found : router.table.find? "/notes/1/2" = some (methods, [("id", "1"), ("ID", "2")]) := by
    simp [router, ts, Route.Table.find?, Route.search, Route.behindLiteral, Route.behindCapture,
      Route.finished?, Route.captureNames]
  have first : Text.Utf8.decode (Http.Percent.decode (Text.Utf8.encode "1")) = some ['1'] := by decide +kernel
  have second : Text.Utf8.decode (Http.Percent.decode (Text.Utf8.encode "2")) = some ['2'] := by decide +kernel
  have decoded : decodeCaptures [] [("id", "1"), ("ID", "2")] = .ok [("id", "1"), ("ID", "2")] := by
    simp [decodeCaptures, first, second]
  have one : readText p.binding.decoder "route" "id" (some "1") =
      .ok (some ⟨.int .u64, (⟨1, by decide, by decide⟩ : IntKind.u64.Number)⟩) :=
    Notes.readText_of_getNote_route compiled member marked rfl
  have two : readText p.binding.decoder "route" "id" (some "2") =
      .ok (some ⟨.int .u64, (⟨2, by decide, by decide⟩ : IntKind.u64.Number)⟩) :=
    Notes.readText_of_getNote_route compiled member marked rfl
  have alike : Text.eqIgnoreAsciiCase "ID" "id" = true :=
    Text.eqIgnoreAsciiCase_iff.mpr (Text.lowerAscii_eq_iff.mpr (by decide))
  refine ⟨e, w, events, router, methods, p, _, _, compiled, routed, found, served, decoded, member, marked,
    fun equal => ?_,
    fun input => Parameter.bind_withRouteValues_cons marked (Text.eqIgnoreAsciiCase_self "id") one input _,
    fun input => Parameter.bind_withRouteValues_cons marked alike two input _⟩
  cases equal

/-- Two placeholders that differ in case only: the endpoint is compiled and served, the text of `id` is there under
this spelling, and if the captures are met in the other order, the note of the other number is looked for. -/
theorem order_decides :
    let r : Request := ⟨"GET", ⟨"/notes/1/2", "/notes/1/2", none⟩, default, []⟩
    let a : Action NoteStore := { Notes.getNote with route := "/notes/{id}/{ID}" }
    ∃ (e : Endpoint NoteStore) (w : Workshop NoteStore) (events : List Event) (router : Router NoteStore)
        (methods : MethodTable NoteStore) (input : RequestInput) (p : Parameter NoteStore) (one two : Dyn),
      Site.router? { config := { documented := false }, endpoints := [e] } = .ok router ∧
      compile {} .empty a = (.ok e, w, events) ∧
      router.table.find? r.uri.path = some (methods, [("id", "1"), ("ID", "2")]) ∧
      methods.find? r.method = some (.endpoint e) ∧ r.input 0 [("id", "1"), ("ID", "2")] = .ok input ∧
      p ∈ e.unit.parameters ∧ p.marker = .route "id" ∧ one ≠ two ∧
      (∀ services s, p.bind input services s = .ok (some one)) ∧
      ∃ order, order.Perm input.context.routeValues ∧
        ∀ services s, p.bind (input.withRouteValues order) services s = .ok (some two) := by
  intro r a
  obtain ⟨e, w, events, router, methods, p, one, two, compiled, routed, found, served, decoded, member, marked,
    differ, first, second⟩ := Notes.exists_getNote_doubled
  let input : RequestInput := ⟨⟨"GET", r.uri, default, [("id", "1"), ("ID", "2")]⟩, []⟩
  have received : r.input 0 [("id", "1"), ("ID", "2")] = .ok input := by
    simp [r, input, Request.input, decoded, readBody, collectFrom, Except.mapError]
  exact ⟨e, w, events, router, methods, input, p, one, two, routed, compiled, found, served, received, member, marked,
    differ, first input, [("ID", "2"), ("id", "1")], List.Perm.swap _ _ [], second input⟩

end HandlerChain
