import HandlerChain.Proofs.Compilation
import HandlerChain.Proofs.RouterTable
import HandlerChain.Site.Basic

/-!
# Conflicts between routes

A site refuses an endpoint by the shape of its route.  Whether two routes may be in one table is decided by
their tokens, and the two agree only where every placeholder fills its piece of the path: a shape keeps the
name of a placeholder that stands behind other text, and it tells a placeholder from one that takes the rest.
The path of the document is compared with nothing before the table is made.

## Main Definitions

* `Site.offerAll` offers endpoints one after the other, and leaves out those that are refused.
* `Site.Consistent` is what every site keeps: one endpoint for a method and a shape, one path for a shape, and
  tables that say which.

## Main Results

* `Site.consistent_offerAll`: whatever is offered, a site stays consistent.
* `exists_router?_offerAll_iff`: when the endpoints that a site accepted have a router.
* `accepted_without_router`: two endpoints that are accepted side by side and have none.
-/

namespace HandlerChain

section

variable {σ : Type}

namespace Site

/-- The site after an endpoint was offered: with it, or as it was if it is refused. -/
def offer (s : Site σ) (e : Endpoint σ) : Site σ :=
  match s.add e with
  | .ok s' => s'
  | .error _ => s

/-- The site after some endpoints were offered, each after the one before. -/
def offerAll (s : Site σ) (es : List (Endpoint σ)) : Site σ := es.foldl offer s

/-- Methods can be routed, no two endpoints have the same method and shape, and the tables hold what the
endpoints say: the name of each under its method and shape, and one path for each shape. -/
structure Consistent (s : Site σ) : Prop where
  routable : ∀ e ∈ s.endpoints, routableMethods.contains e.action.method = true
  distinct : (s.endpoints.map fun e => (e.action.method, e.shape)).Nodup
  routes_eq : s.routes = (s.endpoints.map fun e => ((e.action.method, e.shape), e.name)).reverse
  pathOf?_eq_some_iff : ∀ shape path,
    s.pathOf? shape = some path ↔ ∃ e ∈ s.endpoints, e.shape = shape ∧ e.path = path

variable {s s' : Site σ} {e : Endpoint σ}

/-- A site without endpoints. -/
theorem consistent_empty (config : SiteConfig) (services : Services)
    (render : RenderRequest → Except ViewError Rendered) :
    ({ config := config, services := services, render := render } : Site σ).Consistent where
  routable _ none := absurd none List.not_mem_nil
  distinct := List.nodup_nil
  routes_eq := rfl
  pathOf?_eq_some_iff shape path := by simp [pathOf?]

namespace Consistent

/-- Endpoints of the same shape have the same path, since the table has one path for the shape. -/
theorem path_eq (consistent : s.Consistent) (e : Endpoint σ) (member : e ∈ s.endpoints) (e' : Endpoint σ)
    (member' : e' ∈ s.endpoints) (same : e.shape = e'.shape) : e.path = e'.path := by
  have first := (consistent.pathOf?_eq_some_iff e.shape e.path).mpr ⟨e, member, rfl, rfl⟩
  have second := (consistent.pathOf?_eq_some_iff e.shape e'.path).mpr ⟨e', member', same.symm, rfl⟩
  exact Option.some.inj (first.symm.trans second)

theorem serving?_eq_none_iff (consistent : s.Consistent) {method shape : String} :
    s.serving? method shape = none ↔
      ∀ e ∈ s.endpoints, (e.action.method, e.shape) ≠ (method, shape) := by
  rw [serving?, consistent.routes_eq, List.lookup_eq_none_iff]
  constructor
  · intro absent e member same
    have listed : ((e.action.method, e.shape), e.name) ∈
        (s.endpoints.map fun e => ((e.action.method, e.shape), e.name)).reverse :=
      List.mem_reverse.mpr (List.mem_map.mpr ⟨e, member, rfl⟩)
    exact bne_iff_ne.mp (absent _ listed) same.symm
  · intro new entry listed
    obtain ⟨e, member, rfl⟩ := List.mem_map.mp (List.mem_reverse.mp listed)
    exact bne_iff_ne.mpr (new e member).symm

theorem pathOf?_eq_none_iff (consistent : s.Consistent) {shape : String} :
    s.pathOf? shape = none ↔ ∀ e ∈ s.endpoints, e.shape ≠ shape := by
  rw [Option.eq_none_iff_forall_ne_some]
  constructor
  · intro free e member same
    exact free e.path ((consistent.pathOf?_eq_some_iff shape e.path).mpr ⟨e, member, same, rfl⟩)
  · intro new path found
    obtain ⟨e, member, same, -⟩ := (consistent.pathOf?_eq_some_iff shape path).mp found
    exact new e member same

end Consistent

/-- An endpoint is accepted if its method can be routed, its method and shape are new, and its path is that
of its shape if the shape has one. -/
theorem refusal?_eq_none_iff :
    s.refusal? e = none ↔ routableMethods.contains e.action.method = true ∧
      s.serving? e.action.method e.shape = none ∧ ∀ path, s.pathOf? e.shape = some path → path = e.path := by
  unfold refusal?
  cases routableMethods.contains e.action.method with
  | false => simp
  | true =>
      cases s.serving? e.action.method e.shape with
      | some existing => simp
      | none =>
          cases s.pathOf? e.shape with
          | none => simp
          | some existing => simp

theorem add_eq_ok_iff : s.add e = .ok s' ↔ s.refusal? e = none ∧ s' = s.accept e := by
  unfold add
  cases s.refusal? e <;> simp [eq_comm]

theorem offer_of_accepted (accepted : s.refusal? e = none) : s.offer e = s.accept e := by
  simp only [offer, add, accepted]

/-- A shape that has a path keeps it, and that of the new endpoint has one then. -/
theorem pathOf?_accept (s : Site σ) (e : Endpoint σ) (shape : String) :
    (s.accept e).pathOf? shape =
      (s.pathOf? shape).or (if shape = e.shape then some e.path else none) := by
  cases known : s.pathOf? e.shape with
  | some path =>
      have kept : (s.accept e).paths = s.paths := by simp [accept, known]
      rw [pathOf?, kept, ← pathOf?]
      split
      · rename_i same
        rw [same, known, Option.some_or]
      · rw [Option.or_none]
  | none =>
      have longer : (s.accept e).paths = (e.shape, e.path) :: s.paths := by simp [accept, known]
      rw [pathOf?, longer, List.lookup_cons, ← pathOf?]
      split
      · rename_i same
        rw [if_pos (beq_iff_eq.mp same), beq_iff_eq.mp same, known, Option.none_or]
      · rename_i other
        rw [if_neg (ne_of_beq_false other), Option.or_none]

/-- **An endpoint that is accepted leaves a consistent site.** -/
theorem Consistent.accept (consistent : s.Consistent) (accepted : s.refusal? e = none) :
    (s.accept e).Consistent := by
  obtain ⟨routable, unserved, paths⟩ := refusal?_eq_none_iff.mp accepted
  have free := consistent.serving?_eq_none_iff.mp unserved
  refine ⟨fun x member => ?_, ?_, ?_, fun shape path => ?_⟩
  · rcases List.mem_append.mp member with old | new
    · exact consistent.routable x old
    · rwa [List.mem_singleton.mp new]
  · rw [Site.accept, List.map_append, List.map_singleton]
    refine consistent.distinct.append (List.nodup_singleton _) ?_
    rw [List.disjoint_singleton, List.mem_map]
    rintro ⟨e', member, same⟩
    exact free e' member same
  · rw [Site.accept, consistent.routes_eq, List.map_append, List.reverse_append]
    rfl
  · have members : (∃ x ∈ (s.accept e).endpoints, x.shape = shape ∧ x.path = path) ↔
        s.pathOf? shape = some path ∨ (e.shape = shape ∧ e.path = path) := by
      rw [consistent.pathOf?_eq_some_iff]
      simp [Site.accept, or_and_right, exists_or]
    rw [members, pathOf?_accept, Option.or_eq_some_iff]
    refine or_congr_right' fun other => ?_
    constructor
    · rintro ⟨-, given⟩
      split at given
      · rename_i same
        exact ⟨same.symm, Option.some.inj given⟩
      · cases given
    · rintro ⟨rfl, rfl⟩
      refine ⟨Option.eq_none_iff_forall_ne_some.mpr fun old known => ?_, if_pos rfl⟩
      exact other (paths old known ▸ known)

theorem Consistent.add (consistent : s.Consistent) (added : s.add e = .ok s') : s'.Consistent := by
  obtain ⟨accepted, rfl⟩ := add_eq_ok_iff.mp added
  exact consistent.accept accepted

theorem Consistent.offer (consistent : s.Consistent) (e : Endpoint σ) : (s.offer e).Consistent := by
  unfold Site.offer
  cases added : s.add e with
  | ok s' => exact consistent.add added
  | error cause => exact consistent

/-- **Whatever is offered, a site stays consistent.** -/
theorem consistent_offerAll (consistent : s.Consistent) (es : List (Endpoint σ)) :
    (s.offerAll es).Consistent := by
  induction es generalizing s with
  | nil => exact consistent
  | cons e rest ih => exact ih (consistent.offer e)

/-- An endpoint is accepted next to endpoints of other shapes, also where their paths clash. -/
theorem Consistent.refusal?_of_new_shape (consistent : s.Consistent)
    (routable : routableMethods.contains e.action.method = true)
    (new : ∀ e' ∈ s.endpoints, e'.shape ≠ e.shape) : s.refusal? e = none := by
  refine refusal?_eq_none_iff.mpr ⟨routable, ?_, ?_⟩
  · exact consistent.serving?_eq_none_iff.mpr fun e' member same => new e' member (Prod.mk.inj same).2
  · simp [consistent.pathOf?_eq_none_iff.mpr new]

/-- Endpoints whose shapes differ are all accepted. -/
theorem Consistent.offerAll_endpoints (consistent : s.Consistent) {es : List (Endpoint σ)}
    (routable : ∀ e ∈ es, routableMethods.contains e.action.method = true)
    (new : ∀ e ∈ es, ∀ e' ∈ s.endpoints, e'.shape ≠ e.shape)
    (different : es.Pairwise fun e e' => e.shape ≠ e'.shape) :
    (s.offerAll es).endpoints = s.endpoints ++ es := by
  induction es generalizing s with
  | nil => simp [offerAll]
  | cons e rest ih =>
      obtain ⟨first, different⟩ := List.pairwise_cons.mp different
      obtain ⟨here, routable⟩ := List.forall_mem_cons.mp routable
      have accepted : (s.offer e).endpoints = s.endpoints ++ [e] := by
        rw [offer_of_accepted (consistent.refusal?_of_new_shape here (new e List.mem_cons_self)), Site.accept]
      have later : ∀ x ∈ rest, ∀ e' ∈ (s.offer e).endpoints, e'.shape ≠ x.shape := by
        intro x member e' listed
        rw [accepted] at listed
        rcases List.mem_append.mp listed with old | last
        · exact new x (List.mem_cons_of_mem e member) e' old
        · rw [List.mem_singleton.mp last]
          exact first x member
      have rest_accepted := ih (consistent.offer e) routable later different
      rw [accepted, List.append_assoc, List.singleton_append] at rest_accepted
      exact rest_accepted

/-- Endpoints of a consistent site differ in path or method, since the shape is the path's. -/
theorem Consistent.distinct_paths (consistent : s.Consistent) :
    (s.endpoints.map fun e => (e.path, e.action.method)).Nodup := by
  have distinct := consistent.distinct
  have shapes : (s.endpoints.map fun e => (e.action.method, e.shape)) =
      (s.endpoints.map fun e => (e.path, e.action.method)).map fun x => (x.2, Route.shape x.1) := by
    simp [Endpoint.shape]
  rw [shapes] at distinct
  exact distinct.of_map _

/-- Endpoints of one path have a router. -/
theorem Consistent.exists_router_of_path (consistent : s.Consistent)
    (undocumented : s.config.documented = false) {path : String} (accepts : Route.Accepts path)
    (same : ∀ e ∈ s.endpoints, e.path = path) : ∃ router, s.router? = .ok router := by
  rw [Site.exists_router?_iff consistent.distinct_paths]
  refine ⟨fun e member => ?_, fun e member e' member' _ => ?_, fun documented => ?_⟩
  · rwa [same e member]
  · rw [same e member, same e' member']
  · rw [undocumented] at documented
    cases documented

end Site

/-- **When the accepted endpoints have a router.**  However many endpoints are offered, those that are
accepted have a router exactly if each of their paths is accepted by a table of its own, any two paths that
clash have the same shape, and the path of the document, if it is served, is accepted, clashes with none but
itself, and is no endpoint's for GET. -/
theorem exists_router?_offerAll_iff (config : SiteConfig) (services : Services)
    (render : RenderRequest → Except ViewError Rendered) (es : List (Endpoint σ)) :
    let site : Site σ := Site.offerAll { config := config, services := services, render := render } es
    (∃ router, site.router? = .ok router) ↔
      (∀ e ∈ site.endpoints, Route.Accepts e.path) ∧
        (∀ e ∈ site.endpoints, ∀ e' ∈ site.endpoints, Route.Clash e.path e'.path → e.shape = e'.shape) ∧
          (site.config.documented = true → Route.Accepts site.config.documentPath ∧
            ∀ e ∈ site.endpoints,
              (Route.Clash e.path site.config.documentPath → e.path = site.config.documentPath) ∧
                (e.path = site.config.documentPath → e.action.method ≠ "GET")) := by
  intro site
  have consistent : site.Consistent :=
    Site.consistent_offerAll (Site.consistent_empty config services render) es
  rw [Site.exists_router?_iff consistent.distinct_paths]
  refine and_congr_right fun _ => and_congr_left fun _ => ?_
  constructor
  · intro agree e member e' member' clash
    rw [Endpoint.shape, agree e member e' member' clash, Endpoint.shape]
  · intro agree e member e' member' clash
    exact consistent.path_eq e member e' member' (agree e member e' member' clash)

end

/-- Two endpoints whose placeholders stand behind the same text and differ in name are accepted side by side,
and each has a table of its own; together they have none. -/
theorem accepted_without_router :
    ∃ (e e' : Endpoint NoteStore) (w w' : Workshop NoteStore) (events events' : List Event),
      compile {} .empty { Notes.getNote with route := "/x\x7bid\x7d" } = (.ok e, w, events) ∧
      compile {} w { Notes.getNote with route := "/x\x7bID\x7d" } = (.ok e', w', events') ∧
        let site : Site NoteStore := Site.offerAll { config := { documented := false } } [e, e']
        site.endpoints = [e, e'] ∧ (∀ x ∈ site.endpoints, Route.Accepts x.path) ∧
          ¬∃ router, site.router? = .ok router := by
  have first : { Notes.getNote with route := "/x\x7bid\x7d" }.WellFormed :=
    Notes.getNote_withRoute (p := ⟨"id", none, false, false⟩) (by decide +kernel) rfl
  have second : { Notes.getNote with route := "/x\x7bID\x7d" }.WellFormed :=
    Notes.getNote_withRoute (p := ⟨"ID", none, false, false⟩) (by decide +kernel)
      (Text.lowerAscii_eq_iff.mpr (by decide))
  obtain ⟨e, w, events, compiled, path, method⟩ := Notes.exists_getNote first .empty
  obtain ⟨e', w', events', compiled', path', method'⟩ := Notes.exists_getNote second w
  have different : e.shape ≠ e'.shape := by
    rw [Endpoint.shape, Endpoint.shape, path, path']
    decide +kernel
  have paths : e.path ≠ e'.path := fun same => different (congrArg Route.shape same)
  let site : Site NoteStore := Site.offerAll { config := { documented := false } } [e, e']
  have accepted : site.endpoints = [e, e'] :=
    (Site.consistent_empty _ _ _).offerAll_endpoints (by simp [method, method', routableMethods]) (by simp)
      (by simp [different])
  have tokens : Route.tokens? e.path = some [.literal '/', .literal 'x', .capture "id"] := by
    rw [path]
    decide +kernel
  have tokens' : Route.tokens? e'.path = some [.literal '/', .literal 'x', .capture "ID"] := by
    rw [path']
    decide +kernel
  refine ⟨e, e', w, w', events, events', compiled, compiled', accepted, ?_, fun routed => ?_⟩
  · rw [accepted]
    intro x member
    rw [Route.accepts_iff]
    rcases List.mem_pair.mp member with rfl | rfl
    · exact ⟨by rw [path]; decide +kernel, _, tokens⟩
    · exact ⟨by rw [path']; decide +kernel, _, tokens'⟩
  · -- The two paths clash, but they are not the same.
    have distinct : (site.endpoints.map fun x => (x.path, x.action.method)).Nodup := by
      simp [accepted, paths]
    obtain ⟨-, agree, -⟩ := (Site.exists_router?_iff distinct).mp routed
    rw [accepted] at agree
    exact paths (agree e (by simp) e' (by simp) ⟨_, _, tokens, tokens', by decide⟩)

end HandlerChain
