import HandlerChain.Proofs.Entries
import HandlerChain.Proofs.Matching
import HandlerChain.Proofs.RouterTable

/-!
# Routers serve what their site has

A router is a table of tables that is built in several passes, and a request is looked up in both.  What
it leads to was put there from the endpoints of the site, under the endpoint's own path, or it is the document.

## Main Results

* `Route.Table.find?_matches`: what a path leads to is the value of a pattern that it matches.
* `Router.find?_served`: what a request leads to is the document, or an endpoint whose path it matches.
-/

namespace HandlerChain

/-- What a path leads to is the value of a pattern that it matches, with what this captures by name. -/
theorem Route.Table.find?_matches {α : Type} {table : Table α} {path : String} {value : α}
    {captures : List (String × String)} (found : table.find? path = some (value, captures)) :
    ∃ entry ∈ table.entries, entry.value = value ∧ ∃ captured, Matches entry.tokens path.toList captured ∧
      captures = (captureNames entry.tokens).zip (captured.map String.ofList) := by
  obtain ⟨⟨entry, captured⟩, searched, same⟩ := Option.map_eq_some_iff.mp found
  obtain ⟨ts, candidate, matched⟩ := search_matches searched
  obtain ⟨entry', member, same'⟩ := List.mem_map.mp candidate
  cases same
  cases same'
  exact ⟨entry, member, rfl, captured, matched, rfl⟩

section

variable {σ : Type} {site : Site σ} {router : Router σ}

namespace MethodTable

variable {t : MethodTable σ} {method : String} {target : Target σ}

/-- What serves a method is one of the targets, also where HEAD is served like GET. -/
theorem exists_mem_of_find? (found : t.find? method = some target) :
    ∃ method', (method', target) ∈ t.targets := by
  simp only [find?, Option.orElse_eq_orElse, Option.orElse_eq_or, Option.or_eq_some_iff] at found
  rcases found with own | ⟨-, get⟩
  · exact ⟨method, mem_of_lookup own⟩
  · split at get
    · exact ⟨"GET", mem_of_lookup get⟩
    · cases get

end MethodTable

/-- **What a request leads to** is the document, or an endpoint of the site whose path it matches, with the
captures of that path. -/
theorem Router.find?_served (routed : site.router? = .ok router) {path method : String}
    {methods : MethodTable σ} {captures : List (String × String)} {target : Target σ}
    (found : router.table.find? path = some (methods, captures))
    (served : methods.find? method = some target) :
    target = .document ∨ ∃ e ∈ site.endpoints, target = .endpoint e ∧
      ∃ ts captured, Route.tokens? e.path = some ts ∧ Route.Matches ts path.toList captured ∧
        captures = (Route.captureNames ts).zip (captured.map String.ofList) := by
  obtain ⟨-, divided, holds⟩ := Site.router?_served routed
  obtain ⟨entry, member, rfl, captured, matched, rfl⟩ := Route.Table.find?_matches found
  obtain ⟨method', mine⟩ := MethodTable.exists_mem_of_find? served
  have listed : (entry.pattern, method', target) ∈ servedBy router.table.groups :=
    mem_servedBy.mpr ⟨entry.value, List.mem_map_of_mem member, mine⟩
  rcases holds _ listed with ⟨e, belongs, same⟩ | same
  · obtain ⟨pattern, -, rfl⟩ : entry.pattern = e.path ∧ method' = e.action.method ∧ target = .endpoint e := by
      simpa [Endpoint.served] using same
    exact .inr ⟨e, belongs, rfl, entry.tokens, captured, pattern ▸ divided entry member, matched, rfl⟩
  · exact .inl (congrArg (fun x => x.2.2) same)

/-- The router of a site with one endpoint and no document. -/
theorem Site.router?_singleton {config : SiteConfig} (undocumented : config.documented = false)
    {e : Endpoint σ} (plain : Route.Table.isPlain e.path = true) {ts : List Route.Token}
    (tokens : Route.tokens? e.path = some ts) :
    let alone : Site σ := { config := config, endpoints := [e] }
    alone.router? = .ok ⟨alone, ⟨[⟨e.path, ts,
      ⟨[(e.action.method, .endpoint e)], MethodTable.allowedBy e.action.method⟩⟩]⟩⟩ := by
  intro alone
  have methods : MethodTable.empty.add e.action.method (.endpoint e) =
      some ⟨[(e.action.method, .endpoint e)], MethodTable.allowedBy e.action.method⟩ := by
    simp [MethodTable.add, MethodTable.empty]
  simp [alone, Site.router?, groupByPath, addToGroup, methods, addPaths, addPath, Route.Table.get?,
    Route.Table.insert, Route.Table.empty, plain, tokens, Except.mapError, undocumented]

end

end HandlerChain
