import HandlerChain.Proofs.Acceptance
import HandlerChain.Proofs.DocumentPaths
import HandlerChain.Proofs.Entries
import Mathlib.Data.List.Induction

/-!
# What a document lists

A document should list each endpoint that is not hidden under its path and its method.  On the way an operation
loses what tells it apart: a document has no place for two of the methods that can be routed, and lists their
operations under GET, and it shows less of a path than a router sees.  Of two operations that come to one place
the second is left out.

The operations of a document, as a list up to order, are compared with what the endpoints should have there.
That no two places are the same is what the document itself keeps, so all depends on the places that the
endpoints ask for.

## Main Definitions

* `DocumentMethod.method` is the method of requests that a method of a document stands for.
* `Document.Faithful` says that a document lists endpoints as it should, `Endpoint.listing?` what this is.
* `Site.MethodsPlaced` and `Site.PathsApart` are what it takes.

## Main Results

* `Document.shown?_eq_some_iff`: the JSON form of a document shows its operations at their places.
* `Site.Consistent.document_faithful_iff` says when the document of a site is faithful.
* `Site.Consistent.pathsApart`: paths of a router look alike only for literal braces.
* `Site.callAll_document` says these of the site that any calls leave.
* `traced_not_listed`: an endpoint that serves TRACE is not listed.
-/

namespace HandlerChain

/-- Without its repetitions a list has none. -/
theorem nodup_eraseDups {α : Type} [BEq α] [LawfulBEq α] (xs : List α) : xs.eraseDups.Nodup := by
  induction xs using List.reverseRecOn with
  | nil => exact List.nodup_nil
  | append_singleton xs x ih =>
      rw [List.eraseDups_append]
      by_cases old : x ∈ xs
      · simpa [List.removeAll, old] using ih
      · have last : ([x].removeAll xs).eraseDups = [x] := by
          simp [List.removeAll, old, List.eraseDups_cons]
        rw [last]
        refine ih.append (List.nodup_singleton x) ?_
        rwa [List.disjoint_singleton, List.mem_eraseDups]

/-- Where the values of a list have different keys, a key tells which element it comes from. -/
theorem eq_of_nodup_filterMap {α β γ : Type} {f : α → Option β} {key : β → γ} {xs : List α}
    (distinct : ((xs.filterMap f).map key).Nodup) {x x' : α} (member : x ∈ xs) (member' : x' ∈ xs) {y y' : β}
    (gives : f x = some y) (gives' : f x' = some y') (same : key y = key y') : x = x' := by
  rw [List.Nodup, List.pairwise_map, List.pairwise_filterMap] at distinct
  have symm : Std.Symm fun a a' => ∀ b, f a = some b → ∀ b', f a' = some b' → key b ≠ key b' :=
    ⟨fun _ _ differ b here b' there => (differ b' there b here).symm⟩
  by_contra other
  exact distinct.forall member member' other y gives y' gives' same

namespace Json

variable {key : String} {value : Json} {members : List (String × Json)}

theorem insert_perm (new : key ∉ members.map Prod.fst) :
    (insert key value members).Perm ((key, value) :: members) := by
  induction members with
  | nil => exact .refl _
  | cons m rest ih =>
      rw [List.map_cons, List.mem_cons, not_or] at new
      rw [insert, if_neg new.1]
      split
      · exact .refl _
      · exact ((ih new.2).cons m).trans (.swap (key, value) m rest)

/-- Where each key has one value, sorting the members keeps them all. -/
theorem sorted_perm (distinct : (members.map Prod.fst).Nodup) :
    ∃ members', sorted members = .object members' ∧ members'.Perm members := by
  have fold : ∀ acc : List (String × Json), ((acc ++ members).map Prod.fst).Nodup →
      (members.foldl (fun acc m => insert m.1 m.2 acc) acc).Perm (acc ++ members) := by
    clear distinct
    induction members with
    | nil => simp
    | cons m rest ih =>
        intro acc distinct
        have new : m.1 ∉ acc.map Prod.fst := by
          rw [List.map_append] at distinct
          exact fun old => List.disjoint_of_nodup_append distinct old List.mem_cons_self
        have step : (insert m.1 m.2 acc ++ rest).Perm (m :: acc ++ rest) := (insert_perm new).append_right rest
        have moved : (insert m.1 m.2 acc ++ rest).Perm (acc ++ m :: rest) :=
          step.trans List.perm_middle.symm
        exact (ih _ ((moved.map Prod.fst).nodup_iff.mpr distinct)).trans moved
  exact ⟨_, rfl, fold [] distinct⟩

/-- Where each key has one value, sorting the members changes no look-up. -/
theorem get?_sorted (distinct : (members.map Prod.fst).Nodup) {k : String} {v : Json} :
    (sorted members).get? k = some v ↔ (k, v) ∈ members := by
  obtain ⟨members', sorted, perm⟩ := sorted_perm distinct
  have distinct' : (members'.map Prod.fst).Nodup := (perm.map Prod.fst).nodup_iff.mpr distinct
  rw [sorted, get?, lookup_eq_some_iff_mem distinct', perm.mem_iff]

end Json

namespace DocumentMethod

/-- The method of requests that a method of a document stands for. -/
def method : DocumentMethod → String
  | get => "GET"
  | post => "POST"
  | put => "PUT"
  | delete => "DELETE"
  | patch => "PATCH"
  | head => "HEAD"
  | options => "OPTIONS"

theorem ofMethod_method (m : DocumentMethod) : ofMethod m.method = m := by
  cases m <;> rfl

theorem method_injective : Function.Injective method := Function.LeftInverse.injective ofMethod_method

theorem name_eq_lowerAscii_method (m : DocumentMethod) : m.name = Text.lowerAscii m.method := by
  cases m <;> decide +kernel

theorem name_injective : Function.Injective name := by
  intro a b
  cases a <;> cases b <;> simp [name]

/-- Of the methods that can be routed, a document has no place for two. -/
theorem exists_method_iff {m : String} (routable : routableMethods.contains m = true) :
    (∃ d : DocumentMethod, d.method = m) ↔ m ≠ "TRACE" ∧ m ≠ "CONNECT" := by
  constructor
  · rintro ⟨d, rfl⟩
    cases d <;> decide
  · rintro ⟨traced, tunnelled⟩
    simp only [routableMethods, List.contains_iff_mem, List.mem_cons, List.not_mem_nil, or_false] at routable
    rcases routable with rfl | rfl | rfl | rfl | rfl | rfl | rfl | rfl | rfl
    · exact ⟨get, rfl⟩
    · exact ⟨head, rfl⟩
    · exact ⟨post, rfl⟩
    · exact ⟨put, rfl⟩
    · exact ⟨delete, rfl⟩
    · exact ⟨patch, rfl⟩
    · exact ⟨options, rfl⟩
    · exact absurd rfl traced
    · exact absurd rfl tunnelled

end DocumentMethod

namespace Document

variable {taken : List (DocumentPlace × Operation)}

/-- No place is used twice. -/
theorem nodup_foldl_add (distinct : (taken.map Prod.fst).Nodup) (ops : List Operation) :
    ((ops.foldl add taken).map Prod.fst).Nodup := by
  induction ops generalizing taken with
  | nil => exact distinct
  | cons op rest ih =>
      refine ih ?_
      rw [add]
      split
      · exact distinct
      · rename_i free
        rw [List.map_append]
        refine distinct.append (List.nodup_singleton _) ?_
        rw [List.map_singleton, List.disjoint_singleton]
        intro used
        obtain ⟨t, member, same⟩ := List.mem_map.mp used
        exact free (List.any_eq_true.mpr ⟨t, member, beq_iff_eq.mpr same⟩)

/-- Operations whose places differ are all listed. -/
theorem foldl_add_of_nodup {ops : List Operation}
    (distinct : (taken.map Prod.fst ++ ops.map Operation.place).Nodup) :
    ops.foldl add taken = taken ++ ops.map fun op => (op.place, op) := by
  induction ops generalizing taken with
  | nil => simp
  | cons op rest ih =>
      have free : ¬(taken.any fun t => t.1 == op.place) := by
        intro used
        obtain ⟨t, member, same⟩ := List.any_eq_true.mp used
        exact List.disjoint_of_nodup_append distinct (List.mem_map_of_mem member)
          (beq_iff_eq.mp same ▸ List.mem_cons_self)
      rw [List.foldl_cons, add, if_neg free, ih (by simpa using distinct), List.append_assoc]
      rfl

theorem operations_ofOperations (title version : String) {ops : List Operation}
    (distinct : (ops.map Operation.place).Nodup) :
    (ofOperations title version ops).operations = ops.map fun op => (op.place, op) := by
  rw [ofOperations, foldl_add_of_nodup (by simpa using distinct), List.nil_append]

theorem nodup_operations (title version : String) (ops : List Operation) :
    ((ofOperations title version ops).operations.map Prod.fst).Nodup :=
  nodup_foldl_add (by simp) ops

/-- What the JSON form of a document has under a path and the name of a method. -/
def shown? (d : Document) (path name : String) : Option Json :=
  ((d.toJson.get? "paths").bind (Json.get? path)).bind (Json.get? name)

/-- **The JSON form of a document shows its operations at their places**, and no others. -/
theorem shown?_eq_some_iff {d : Document} (distinct : (d.operations.map Prod.fst).Nodup)
    {path name : String} {j : Json} :
    d.shown? path name = some j ↔
      ∃ o ∈ d.operations, o.1.path = path ∧ o.1.method.name = name ∧ operation o.2 = j := by
  have paths : d.toJson.get? "paths" = some (.sorted (d.paths.map fun p => (p, d.underPath p))) := rfl
  have each : ((d.paths.map fun p => (p, d.underPath p)).map Prod.fst).Nodup := by
    rw [List.map_map]
    exact (nodup_eraseDups _).map fun _ _ same => same
  -- Under one path, different places have different names.
  have names : ((d.operations.filter fun o => o.1.path == path).map fun o =>
      (o.1.method.name, operation o.2)).map Prod.fst |>.Nodup := by
    have kept := distinct.sublist ((List.filter_sublist (p := fun o => o.1.path == path)).map Prod.fst)
    rw [List.map_map]
    refine kept.of_map.map_on fun o member o' member' same => ?_
    have here := beq_iff_eq.mp (List.mem_filter.mp member).2
    have here' := beq_iff_eq.mp (List.mem_filter.mp member').2
    have place : o.1 = o'.1 := by
      show (⟨o.1.path, o.1.method⟩ : DocumentPlace) = ⟨o'.1.path, o'.1.method⟩
      rw [here, here', DocumentMethod.name_injective same]
    exact List.inj_on_of_nodup_map kept member member' place
  constructor
  · intro found
    obtain ⟨item, under, named⟩ := Option.bind_eq_some_iff.mp found
    rw [paths, Option.bind_some, Json.get?_sorted each, List.mem_map] at under
    obtain ⟨p, -, same⟩ := under
    obtain ⟨rfl, rfl⟩ := Prod.mk.inj same
    rw [underPath, Json.get?, lookup_eq_some_iff_mem names, List.mem_map] at named
    obtain ⟨o, member, same⟩ := named
    obtain ⟨rfl, rfl⟩ := Prod.mk.inj same
    obtain ⟨inside, here⟩ := List.mem_filter.mp member
    exact ⟨o, inside, beq_iff_eq.mp here, rfl, rfl⟩
  · rintro ⟨o, member, rfl, rfl, rfl⟩
    refine Option.bind_eq_some_iff.mpr ⟨d.underPath o.1.path, ?_, ?_⟩
    · rw [paths, Option.bind_some, Json.get?_sorted each, List.mem_map]
      exact ⟨o.1.path, List.mem_eraseDups.mpr (List.mem_map.mpr ⟨o, member, rfl⟩), rfl⟩
    · rw [underPath, Json.get?, lookup_eq_some_iff_mem names, List.mem_map]
      exact ⟨o, List.mem_filter.mpr ⟨member, beq_self_eq_true _⟩, rfl⟩

end Document

section

variable {σ : Type} {s : Site σ} {e : Endpoint σ} {op : Operation}

/-- What a document should list of an endpoint: its operation under its path and method, unless it is hidden. -/
def Endpoint.listing? (e : Endpoint σ) : Option (String × String × Operation) :=
  e.operation?.map fun op => (Route.documented e.path, e.action.method, op)

/-- A document lists endpoints faithfully if it lists what it should of each of them, once, and nothing else. -/
def Document.Faithful (d : Document) (es : List (Endpoint σ)) : Prop :=
  (d.operations.map fun o => (o.1.path, o.1.method.method, o.2)).Perm (es.filterMap Endpoint.listing?)

theorem Endpoint.listing?_of_shown (shown : e.operation? = some op) :
    e.listing? = some (Route.documented e.path, e.action.method, op) := by
  rw [listing?, shown, Option.map_some]

/-- Where the operation of an endpoint is listed, if its place is free. -/
theorem Endpoint.operation?_place (shown : e.operation? = some op) :
    op.place = ⟨Route.documented e.path, .ofMethod e.action.method⟩ := by
  have documents := documents_of_operation? shown
  rw [Operation.place, documents.path, documents.method]

namespace Document.Faithful

variable {d : Document} {es : List (Endpoint σ)}

theorem exists_method (faithful : d.Faithful es) (member : e ∈ es) (visible : e.operation?.isSome) :
    ∃ m : DocumentMethod, m.method = e.action.method := by
  obtain ⟨op, shown⟩ := Option.isSome_iff_exists.mp visible
  have own := List.mem_filterMap.mpr ⟨e, member, Endpoint.listing?_of_shown shown⟩
  obtain ⟨o, -, same⟩ := List.mem_map.mp (faithful.mem_iff.mpr own)
  exact ⟨o.1.method, (Prod.mk.inj (Prod.mk.inj same).2).1⟩

/-- The places of a document differ, so those that the endpoints have of their own differ. -/
theorem eq_of_place (faithful : d.Faithful es) (distinct : (d.operations.map Prod.fst).Nodup)
    {e' : Endpoint σ} (member : e ∈ es) (member' : e' ∈ es) (visible : e.operation?.isSome)
    (visible' : e'.operation?.isSome) (methods : e.action.method = e'.action.method)
    (paths : Route.documented e.path = Route.documented e'.path) : e = e' := by
  have places : ((d.operations.map Prod.fst).map fun p => (p.path, p.method.method)).Nodup := by
    refine distinct.map fun p p' same => ?_
    obtain ⟨path, method⟩ := Prod.mk.inj same
    show (⟨p.path, p.method⟩ : DocumentPlace) = ⟨p'.path, p'.method⟩
    rw [path, DocumentMethod.method_injective method]
  have differ : ((es.filterMap Endpoint.listing?).map fun x => (x.1, x.2.1)).Nodup := by
    rw [← (faithful.map fun x => (x.1, x.2.1)).nodup_iff, List.map_map]
    rwa [List.map_map] at places
  obtain ⟨op, shown⟩ := Option.isSome_iff_exists.mp visible
  obtain ⟨op', shown'⟩ := Option.isSome_iff_exists.mp visible'
  exact eq_of_nodup_filterMap differ member member' (Endpoint.listing?_of_shown shown)
    (Endpoint.listing?_of_shown shown') (Prod.ext paths methods)

end Document.Faithful

namespace Site

/-- A document has a place for the methods of all endpoints that are not hidden. -/
def MethodsPlaced (s : Site σ) : Prop :=
  ∀ e ∈ s.endpoints, e.operation?.isSome → e.action.method ≠ "TRACE" ∧ e.action.method ≠ "CONNECT"

/-- Endpoints of one method that are not hidden have one path if they look alike in a document. -/
def PathsApart (s : Site σ) : Prop :=
  ∀ e ∈ s.endpoints, ∀ e' ∈ s.endpoints, e.operation?.isSome → e'.operation?.isSome →
    e.action.method = e'.action.method → Route.documented e.path = Route.documented e'.path →
      e.path = e'.path

theorem nodup_document (s : Site σ) : (s.document.operations.map Prod.fst).Nodup :=
  Document.nodup_operations s.config.title s.config.version s.operations.toList

/-- The place of the operation of an endpoint is its own. -/
theorem Consistent.operation?_place (consistent : s.Consistent) (placed : s.MethodsPlaced)
    (member : e ∈ s.endpoints) (shown : e.operation? = some op) :
    op.place.path = Route.documented e.path ∧ op.place.method.method = e.action.method := by
  have visible : e.operation?.isSome := by rw [shown, Option.isSome_some]
  obtain ⟨m, method⟩ := (DocumentMethod.exists_method_iff (consistent.routable e member)).mpr
    (placed e member visible)
  rw [Endpoint.operation?_place shown, ← method, DocumentMethod.ofMethod_method]
  exact ⟨rfl, rfl⟩

section

variable (consistent : s.Consistent)
  (listed : s.operations.entries = s.endpoints.filterMap Endpoint.operation?)
include consistent listed

/-- No two operations have one place: their endpoints would have one path and one method. -/
theorem Consistent.nodup_places (placed : s.MethodsPlaced) (apart : s.PathsApart) :
    (s.operations.toList.map Operation.place).Nodup := by
  have perm : s.operations.toList.Perm (s.endpoints.filterMap Endpoint.operation?) :=
    (List.mergeSort_perm _ _).trans (.of_eq listed)
  rw [(perm.map Operation.place).nodup_iff, List.Nodup, List.pairwise_map, List.pairwise_filterMap]
  refine (List.pairwise_map.mp consistent.distinct_paths).imp_of_mem ?_
  intro e e' member member' differ op shown op' shown' same
  obtain ⟨path, method⟩ := consistent.operation?_place placed member shown
  obtain ⟨path', method'⟩ := consistent.operation?_place placed member' shown'
  have methods : e.action.method = e'.action.method := by rw [← method, ← method', same]
  have paths : Route.documented e.path = Route.documented e'.path := by rw [← path, ← path', same]
  have visible : e.operation?.isSome := by rw [shown, Option.isSome_some]
  have visible' : e'.operation?.isSome := by rw [shown', Option.isSome_some]
  exact differ (Prod.ext (apart e member e' member' visible visible' methods paths) methods)

theorem Consistent.document_faithful (placed : s.MethodsPlaced) (apart : s.PathsApart) :
    s.document.Faithful s.endpoints := by
  have perm : s.operations.toList.Perm (s.endpoints.filterMap Endpoint.operation?) :=
    (List.mergeSort_perm _ _).trans (.of_eq listed)
  have all : s.document.operations = s.operations.toList.map fun op => (op.place, op) :=
    Document.operations_ofOperations _ _ (consistent.nodup_places listed placed apart)
  have own : (s.endpoints.filterMap Endpoint.operation?).map
      (fun op => (op.place.path, op.place.method.method, op)) = s.endpoints.filterMap Endpoint.listing? := by
    rw [List.map_filterMap]
    refine List.filterMap_congr fun e member => ?_
    cases shown : e.operation? with
    | none => rw [Endpoint.listing?, shown, Option.map_none, Option.map_none]
    | some op =>
        obtain ⟨path, method⟩ := consistent.operation?_place placed member shown
        rw [Endpoint.listing?_of_shown shown, Option.map_some, path, method]
  rw [Document.Faithful, all, List.map_map, ← own]
  exact perm.map _

/-- **When a document is faithful.**  It is if it has a place for every method, and endpoints which differ to a
router do not look alike; and only then. -/
theorem Consistent.document_faithful_iff :
    s.document.Faithful s.endpoints ↔ s.MethodsPlaced ∧ s.PathsApart := by
  constructor
  · intro faithful
    constructor
    · intro e member visible
      rw [← DocumentMethod.exists_method_iff (consistent.routable e member)]
      exact faithful.exists_method member visible
    · intro e member e' member' visible visible' methods paths
      rw [faithful.eq_of_place s.nodup_document member member' visible visible' methods paths]
  · rintro ⟨placed, apart⟩
    exact consistent.document_faithful listed placed apart

end

/-- Where a router is made, paths without literal braces that look alike are one path: they would clash. -/
theorem Consistent.pathsApart (consistent : s.Consistent) (routed : ∃ router, s.router? = .ok router)
    (plain : ∀ e ∈ s.endpoints, e.operation?.isSome →
      ∀ x ∈ Route.pieces e.action.route, x ≠ .literal '{' ∧ x ≠ .literal '}') : s.PathsApart := by
  obtain ⟨accepts, agree, -⟩ := (Site.exists_router?_iff consistent.distinct_paths).mp routed
  intro e member e' member' visible visible' _ paths
  refine agree e member e' member' ?_
  exact Route.clash_of_documented_eq (plain e member visible) (plain e' member' visible') (accepts e member)
    (accepts e' member') paths

end Site

/-- **What the document of a site shows.**  Its JSON form shows each operation under its path and the name of
its method in lower case, and nothing else.  It lists all endpoints that are not hidden, each once, under its
own path and method, exactly if none has a method without a place in a document and none looks like another of
its method; where there is a router, no two look alike unless one has literal braces in its template. -/
theorem Site.callAll_document (config : SiteConfig) (services : Services)
    (render : RenderRequest → Except ViewError Rendered) (calls : List (SiteCall σ))
    (named : ∀ c ∈ calls, ∀ e ∈ c.offered, ∀ c' ∈ calls, ∀ e' ∈ c'.offered,
      e.unit.typeName = e'.unit.typeName → e = e') :
    let site := (({ config := config, services := services, render := render } : Site σ).callAll calls).1
    (∀ path name j, site.document.shown? path name = some j ↔ ∃ o ∈ site.document.operations,
      o.1.path = path ∧ Text.lowerAscii o.1.method.method = name ∧ Document.operation o.2 = j) ∧
      (site.document.Faithful site.endpoints ↔ site.MethodsPlaced ∧ site.PathsApart) ∧
      ((∃ router, site.router? = .ok router) →
        (∀ e ∈ site.endpoints, e.operation?.isSome →
          ∀ x ∈ Route.pieces e.action.route, x ≠ .literal '{' ∧ x ≠ .literal '}') →
          (site.document.Faithful site.endpoints ↔ site.MethodsPlaced)) := by
  intro site
  have empty := consistent_empty (σ := σ) config services render
  have consistent : site.Consistent := empty.callAll calls
  have faithful : site.document.Faithful site.endpoints ↔ site.MethodsPlaced ∧ site.PathsApart :=
    consistent.document_faithful_iff (empty.operations_callAll rfl rfl named)
  refine ⟨fun path name j => ?_, faithful, fun routed plain => ?_⟩
  · rw [Document.shown?_eq_some_iff site.nodup_document]
    simp only [DocumentMethod.name_eq_lowerAscii_method]
  · rw [faithful]
    exact and_iff_left (consistent.pathsApart routed plain)

end

/-- The path of a note. -/
theorem Notes.accepts_path : Route.Accepts (Route.normalize "/notes/\x7bid\x7d") :=
  Route.accepts_iff.mpr ⟨by decide +kernel, "/notes/".toList.map .literal ++ [.capture "id"], by decide +kernel⟩

/-- An endpoint of the action that finds a note is listed, whatever its method and its route are. -/
theorem Notes.operation?_isSome {config : CompilerConfig} {w w' : Workshop NoteStore} {e : Endpoint NoteStore}
    {events : List Event} {route method : String}
    (compiled : compile config w { Notes.getNote with route := route, method := method } = (.ok e, w', events)) :
    e.operation?.isSome := by
  obtain ⟨⟨parameters, body, rfl⟩, -⟩ := exists_endpoint_of_compile compiled
  rfl

/-- The endpoint that finds a note is listed under its path and method. -/
theorem getNote_callAll_document :
    ∃ (e : Endpoint NoteStore) (w : Workshop NoteStore) (events : List Event),
      compile {} .empty { Notes.getNote with route := "/notes/\x7bid\x7d" } = (.ok e, w, events) ∧
        (∀ c ∈ [SiteCall.add e], ∀ x ∈ c.offered, ∀ c' ∈ [SiteCall.add e], ∀ x' ∈ c'.offered,
          x.unit.typeName = x'.unit.typeName → x = x') ∧
        let site := (({ config := { documented := false } } : Site NoteStore).callAll [.add e]).1
        site.endpoints = [e] ∧ (∃ router, site.router? = .ok router) ∧ site.document.Faithful site.endpoints := by
  have formed : { Notes.getNote with route := "/notes/\x7bid\x7d" }.WellFormed :=
    Notes.getNote_withRoute (p := ⟨"id", none, false, false⟩) (by decide +kernel) rfl
  obtain ⟨e, w, events, compiled, path, method⟩ := Notes.exists_getNote formed .empty
  obtain ⟨-, action, -⟩ := compile_realizes compiled
  have named : ∀ c ∈ [SiteCall.add e], ∀ x ∈ c.offered, ∀ c' ∈ [SiteCall.add e], ∀ x' ∈ c'.offered,
      x.unit.typeName = x'.unit.typeName → x = x' := by
    simp [SiteCall.offered]
  let start : Site NoteStore := { config := { documented := false } }
  have empty : start.Consistent := Site.consistent_empty _ _ _
  have endpoints : (start.callAll [.add e]).1.endpoints = [e] := by
    have free := empty.refusal?_of_new_shape (e := e) (by rw [method]; decide) (by simp [start])
    rw [Site.endpoints_callAll]
    simp [Site.accepted, Site.acceptedOf, SiteCall.offered, Site.add_of_accepted free, start]
  have routed : ∃ router, (start.callAll [.add e]).1.router? = .ok router := by
    refine (empty.callAll [.add e]).exists_router_of_path ?_ Notes.accepts_path ?_
    · rw [Site.callAll_fst, Site.foldl_accept_config]
    · rw [endpoints]
      simpa using path
  obtain ⟨-, -, faithful⟩ :=
    Site.callAll_document { documented := false } .empty Views.none.render [.add e] named
  refine ⟨e, w, events, compiled, named, endpoints, routed, (faithful routed ?_).mpr ?_⟩
  · intro x member _
    have same : x = e := List.mem_singleton.mp (endpoints ▸ member)
    rw [same, action]
    decide +kernel
  · intro x member _
    have same : x = e := List.mem_singleton.mp (endpoints ▸ member)
    rw [same, method]
    decide

/-- Of two endpoints of one path, the one that serves GET has an operation and the one that serves TRACE has
none, although both are accepted and served. -/
theorem traced_not_listed :
    ∃ (e e' : Endpoint NoteStore) (w w' : Workshop NoteStore) (events events' : List Event),
      compile {} .empty { Notes.getNote with route := "/notes/\x7bid\x7d" } = (.ok e, w, events) ∧
      compile {} w { Notes.getNote with route := "/notes/\x7bid\x7d", method := "TRACE" } =
        (.ok e', w', events') ∧
        let site := (({ config := { documented := false } } : Site NoteStore).callAll [.addAll [e, e']]).1
        site.endpoints = [e, e'] ∧ e'.operation?.isSome ∧ (∃ router, site.router? = .ok router) ∧
          (∀ path, site.document.shown? path "trace" = none) ∧ ¬site.document.Faithful site.endpoints := by
  have formed : { Notes.getNote with route := "/notes/\x7bid\x7d" }.WellFormed :=
    Notes.getNote_withRoute (p := ⟨"id", none, false, false⟩) (by decide +kernel) rfl
  obtain ⟨e, w, events, compiled, path, method⟩ := Notes.exists_getNote formed .empty
  obtain ⟨e', w', events', compiled'⟩ := exists_compile_of_wellFormed {} w (formed.withMethod "TRACE")
  obtain ⟨-, action', -⟩ := compile_realizes compiled'
  have path' : e'.path = Route.normalize "/notes/\x7bid\x7d" := by rw [Endpoint.path, action']
  have method' : e'.action.method = "TRACE" := by rw [action']
  have shape : e'.shape = e.shape := by rw [Endpoint.shape, Endpoint.shape, path, path']
  let start : Site NoteStore := { config := { documented := false } }
  have empty : start.Consistent := Site.consistent_empty _ _ _
  have endpoints : (start.callAll [.addAll [e, e']]).1.endpoints = [e, e'] := by
    have free := empty.refusal?_of_new_shape (e := e) (by rw [method]; decide) (by simp [start])
    have free' : (start.accept e).refusal? e' = none := by
      have next := empty.accept free
      refine Site.refusal?_eq_none_iff.mpr ⟨by rw [method']; decide, ?_, fun old known => ?_⟩
      · refine next.serving?_eq_none_iff.mpr fun x member same => ?_
        rw [List.mem_singleton.mp member, method, method'] at same
        exact absurd (Prod.mk.inj same).1 (by decide)
      · obtain ⟨x, member, -, rfl⟩ := (next.pathOf?_eq_some_iff _ _).mp known
        rw [List.mem_singleton.mp member, path, path']
    rw [Site.endpoints_callAll]
    simp [Site.accepted, Site.acceptedOf, SiteCall.offered, Site.add_of_accepted free,
      Site.add_of_accepted free', start]
  have visible : e'.operation?.isSome := Notes.operation?_isSome compiled'
  have unplaced : ∀ m : DocumentMethod, m.method ≠ "TRACE" ∧ m.name ≠ "trace" := by
    intro m
    cases m <;> decide
  refine ⟨e, e', w, w', events, events', compiled, compiled', endpoints, visible, ?_, fun path => ?_,
    fun faithful => ?_⟩
  · refine (empty.callAll [.addAll [e, e']]).exists_router_of_path ?_ Notes.accepts_path ?_
    · rw [Site.callAll_fst, Site.foldl_accept_config]
    · rw [endpoints]
      simp [path, path']
  · refine Option.eq_none_iff_forall_ne_some.mpr fun j shown => ?_
    obtain ⟨o, -, -, named, -⟩ := (Document.shown?_eq_some_iff (Site.nodup_document _)).mp shown
    exact (unplaced o.1.method).2 named
  · obtain ⟨m, own⟩ := faithful.exists_method (e := e') (by rw [endpoints]; simp) visible
    exact (unplaced m).1 (own.trans method')

end HandlerChain
