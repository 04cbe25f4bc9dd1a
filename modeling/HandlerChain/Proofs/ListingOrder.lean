import HandlerChain.Proofs.Documents

/-!
# The order of a listing

The operations of a site are kept by the names of their units, and come out of this table in no order that could
be relied on.  What is shown of them is sorted first, by path and then by method.  A document is then made of the
sorted operations one after the other, and there the order counts: the first operation for a place keeps it.

Sorting leaves one order only if no two operations are sorted alike.  This is what the site sees to: of the
endpoints that it accepts, no two have the same method and shape, so no two have the same path and method.

## Main Definitions

* `Operation.Before` is the order of a listing.
* `Site.documentIn` is the document of a site whose operations come out of the table in some order.

## Main Results

* `Operations.toList_eq_of_perm`: operations that differ in path or method have one listing.
* `Site.Consistent.nodup_sortKeys`: the operations of a consistent site do.
* `Site.listing_of_perm`: what is listed does not depend on the order of registration.
-/

namespace HandlerChain

/-! ### Sorting -/

/-- One operation stands before another: its path is smaller, or its method is where the paths are the same. -/
def Operation.Before (a b : Operation) : Prop := a.path < b.path ∨ a.path = b.path ∧ a.method < b.method

/-- What operations are sorted by. -/
def Operation.sortKey (op : Operation) : String × String := (op.path, op.method)

theorem Operation.Before.asymm {a b : Operation} (first : a.Before b) : ¬b.Before a := by
  rcases first with less | ⟨same, less⟩
  · rintro (more | ⟨same, -⟩)
    · exact lt_asymm less more
    · exact less.ne same.symm
  · rintro (more | ⟨-, more⟩)
    · exact more.ne same.symm
    · exact lt_asymm less more

namespace Operations

variable {a b : Operation}

theorem le_iff : le a b = true ↔ a.path < b.path ∨ a.path = b.path ∧ a.method ≤ b.method := by
  simp only [le, Bool.or_eq_true, Bool.and_eq_true, decide_eq_true_eq, beq_iff_eq]

theorem le_trans (a b c : Operation) (first : le a b = true) (second : le b c = true) : le a c = true := by
  rw [le_iff] at *
  rcases first with less | ⟨same, order⟩ <;> rcases second with less' | ⟨same', order'⟩
  · exact .inl (less.trans less')
  · exact .inl (same' ▸ less)
  · exact .inl (same ▸ less')
  · exact .inr ⟨same.trans same', order.trans order'⟩

theorem le_total (a b : Operation) : (le a b || le b a) = true := by
  rw [Bool.or_eq_true, le_iff, le_iff]
  rcases lt_trichotomy a.path b.path with less | same | more
  · exact .inl (.inl less)
  · exact (String.le_total a.method b.method).imp (fun order => .inr ⟨same, order⟩)
      (fun order => .inr ⟨same.symm, order⟩)
  · exact .inr (.inl more)

/-- Operations that differ in what they are sorted by stand before each other or the other way round. -/
theorem before_of_le (order : le a b = true) (differ : a.sortKey ≠ b.sortKey) : a.Before b := by
  rcases le_iff.mp order with less | ⟨same, order⟩
  · exact .inl less
  · exact .inr ⟨same, order.lt_of_ne fun methods => differ (Prod.ext same methods)⟩

variable {order order' : List Operation}

theorem toList_perm (order : List Operation) : (toList ⟨order⟩).Perm order := List.mergeSort_perm order le

/-- A listing of different operations is strictly sorted. -/
theorem pairwise_before (distinct : (order.map Operation.sortKey).Nodup) :
    (toList ⟨order⟩).Pairwise Operation.Before := by
  have sorted : (toList ⟨order⟩).Pairwise fun a b => le a b = true := List.pairwise_mergeSort le_trans le_total order
  have differ : (toList ⟨order⟩).Pairwise fun a b => a.sortKey ≠ b.sortKey :=
    List.pairwise_map.mp (((toList_perm order).map Operation.sortKey).nodup_iff.mpr distinct)
  exact (sorted.and differ).imp fun both => before_of_le both.1 both.2

/-- **Different operations have one listing**, in whatever order they come. -/
theorem toList_eq_of_perm (distinct : (order.map Operation.sortKey).Nodup) (perm : order.Perm order') :
    toList ⟨order⟩ = toList ⟨order'⟩ := by
  refine (mergeSort_eq_of_perm le_trans le_total (fun a b before after => ?_) distinct perm.symm).symm
  by_contra differ
  exact (before_of_le before differ).asymm (before_of_le after (Ne.symm differ))

end Operations

/-! ### Sites -/

section

variable {σ : Type} {s : Site σ} {e : Endpoint σ}

/-- An operation is sorted by the path and the method of its endpoint. -/
theorem Endpoint.operation?_sortKey {op : Operation} (shown : e.operation? = some op) :
    op.sortKey = (e.path, e.action.method) := by
  have documents := documents_of_operation? shown
  rw [Operation.sortKey, documents.path, documents.method]

namespace Site

/-- The document of a site whose operations come out of the table in some order. -/
def documentIn (s : Site σ) (order : List Operation) : Document :=
  .ofOperations s.config.title s.config.version (Operations.toList ⟨order⟩)

theorem addAll_config (s : Site σ) (es : List (Endpoint σ)) : (s.addAll es).1.config = s.config := by
  show (s.callAll [.addAll es]).1.config = s.config
  rw [callAll_fst, foldl_accept_config]

/-- The operations of a consistent site are sorted by different keys. -/
theorem Consistent.nodup_sortKeys (consistent : s.Consistent) :
    ((s.endpoints.filterMap Endpoint.operation?).map Operation.sortKey).Nodup := by
  rw [List.Nodup, List.pairwise_map, List.pairwise_filterMap]
  refine (List.pairwise_map.mp consistent.distinct_paths).imp fun differ op shown op' shown' same => differ ?_
  rw [← Endpoint.operation?_sortKey shown, ← Endpoint.operation?_sortKey shown', same]

end Site

/-- **What a site lists does not depend on the order of registration.**  Let a site accept all endpoints of a list,
and another one all endpoints of the same list in another order.  In whatever order the operations come out of the
two tables, both have one listing and one document.  The listing is strictly sorted by path and method, and has the
operation of each endpoint that is not hidden, once, and nothing else.  Endpoints with units of the same name are
taken to be the same. -/
theorem Site.listing_of_perm (config : SiteConfig) (services : Services)
    (render : RenderRequest → Except ViewError Rendered) {es es' : List (Endpoint σ)} (perm : es.Perm es')
    (named : ∀ e ∈ es, ∀ e' ∈ es, e.unit.typeName = e'.unit.typeName → e = e')
    (accepts : (({ config := config, services := services, render := render } : Site σ).addAll es).2 = none)
    (accepts' : (({ config := config, services := services, render := render } : Site σ).addAll es').2 = none) :
    let start : Site σ := { config := config, services := services, render := render }
    let site := (start.addAll es).1
    let site' := (start.addAll es').1
    (∀ order order', order.Perm site.operations.entries → order'.Perm site'.operations.entries →
      Operations.toList ⟨order⟩ = Operations.toList ⟨order'⟩ ∧ site.documentIn order = site'.documentIn order') ∧
    site.operations.toList = site'.operations.toList ∧ site.document = site'.document ∧
    site.operations.toList.Pairwise Operation.Before ∧
    site.operations.toList.Perm (es.filterMap Endpoint.operation?) := by
  intro start site site'
  have empty : start.Consistent := consistent_empty config services render
  have named' : ∀ e ∈ es', ∀ e' ∈ es', e.unit.typeName = e'.unit.typeName → e = e' :=
    fun e member e' member' => named e (perm.mem_iff.mpr member) e' (perm.mem_iff.mpr member')
  obtain ⟨consistent, endpoints, entries⟩ := empty.addAll_holds rfl rfl accepts named
  obtain ⟨-, -, entries'⟩ := empty.addAll_holds rfl rfl accepts' named'
  have distinct : (site.operations.entries.map Operation.sortKey).Nodup := by
    have keys := consistent.nodup_sortKeys
    rwa [endpoints, ← entries] at keys
  -- The two tables hold the same operations, since the two lists have the same endpoints.
  have tables : site.operations.entries.Perm site'.operations.entries := by
    rw [entries, entries']
    exact perm.filterMap Endpoint.operation?
  have configs : site.config = site'.config := by
    rw [addAll_config, addAll_config]
  have orders : ∀ order order', order.Perm site.operations.entries → order'.Perm site'.operations.entries →
      Operations.toList ⟨order⟩ = Operations.toList ⟨order'⟩ ∧
        site.documentIn order = site'.documentIn order' := by
    intro order order' drawn drawn'
    have listing : Operations.toList ⟨order⟩ = Operations.toList ⟨order'⟩ := by
      refine Operations.toList_eq_of_perm ?_ (drawn.trans (tables.trans drawn'.symm))
      exact (drawn.map Operation.sortKey).nodup_iff.mpr distinct
    exact ⟨listing, by rw [documentIn, documentIn, listing, configs]⟩
  obtain ⟨listing, document⟩ := orders _ _ (.refl _) (.refl _)
  refine ⟨orders, listing, document, Operations.pairwise_before distinct, ?_⟩
  rw [← entries]
  exact Operations.toList_perm site.operations.entries

end

/-- A note can be searched for under any route. -/
theorem Notes.searchNotes_withRoute (route : String) : { Notes.searchNotes with route := route }.WellFormed := by
  have formed := Notes.wellFormed_of_mem (a := Notes.searchNotes) (by simp [Notes.actions])
  have own : Route.parameters Notes.searchNotes.route = [] := by decide +kernel
  refine formed.withRoute fun p member => ?_
  rw [own] at member
  cases member

/-- Two endpoints that are compiled one after the other: one finds a note, the other one searches for notes under
some route.  Both serve GET and are listed, and their units have different names. -/
theorem Notes.exists_pair (route : String) :
    ∃ (e e' : Endpoint NoteStore) (w w' : Workshop NoteStore) (events events' : List Event),
      compile {} .empty { Notes.getNote with route := "/notes/\x7bid\x7d" } = (.ok e, w, events) ∧
      compile {} w { Notes.searchNotes with route := route } = (.ok e', w', events') ∧
        (e.path = "/notes/\x7bid\x7d" ∧ e.action.method = "GET" ∧ e.operation?.isSome) ∧
        (e'.path = Route.normalize route ∧ e'.action.method = "GET" ∧ e'.operation?.isSome) ∧
        e.unit.typeName ≠ e'.unit.typeName := by
  have formed : { Notes.getNote with route := "/notes/\x7bid\x7d" }.WellFormed :=
    Notes.getNote_withRoute (p := ⟨"id", none, false, false⟩) (by decide +kernel) rfl
  obtain ⟨e, w, events, compiled⟩ := exists_compile_of_wellFormed {} .empty formed
  obtain ⟨e', w', events', compiled'⟩ := exists_compile_of_wellFormed {} w (Notes.searchNotes_withRoute route)
  obtain ⟨⟨parameters, body, rfl⟩, units⟩ := exists_endpoint_of_compile compiled
  obtain ⟨⟨parameters', body', rfl⟩, -⟩ := exists_endpoint_of_compile compiled'
  refine ⟨_, _, w, w', events, events', compiled, compiled', ⟨?_, rfl, rfl⟩, ⟨rfl, rfl, rfl⟩, ?_⟩
  · show Route.normalize "/notes/\x7bid\x7d" = _
    decide +kernel
  · show "ActionUnit" ++ "_" ++ hex32 0 ≠ "ActionUnit" ++ "_" ++ hex32 w.units
    rw [units]
    decide +kernel

/-- The search stands before the page of a note, whichever of the two is registered first. -/
theorem searchNotes_listing_of_perm :
    ∃ (e e' : Endpoint NoteStore) (w w' : Workshop NoteStore) (events events' : List Event) (op op' : Operation),
      compile {} .empty { Notes.getNote with route := "/notes/\x7bid\x7d" } = (.ok e, w, events) ∧
      compile {} w { Notes.searchNotes with route := "/notes" } = (.ok e', w', events') ∧
        e.operation? = some op ∧ e'.operation? = some op' ∧
        let start : Site NoteStore := { config := {} }
        (start.addAll [e, e']).2 = none ∧ (start.addAll [e', e]).2 = none ∧
          (start.addAll [e, e']).1.document = (start.addAll [e', e]).1.document ∧
            (start.addAll [e, e']).1.operations.toList = [op', op] := by
  obtain ⟨e, e', w, w', events, events', compiled, compiled', ⟨path, method, visible⟩, ⟨path', method', visible'⟩,
    names⟩ := Notes.exists_pair "/notes"
  obtain ⟨op, shown⟩ := Option.isSome_iff_exists.mp visible
  obtain ⟨op', shown'⟩ := Option.isSome_iff_exists.mp visible'
  have normal : Route.normalize "/notes" = "/notes" := by decide +kernel
  have shapes : e.shape ≠ e'.shape := by
    rw [Endpoint.shape, Endpoint.shape, path, path', normal]
    decide +kernel
  let start : Site NoteStore := { config := {} }
  have empty : start.Consistent := Site.consistent_empty _ _ _
  have accepts : (start.addAll [e, e']).2 = none :=
    empty.addAll_accepts (by simp [method, method', routableMethods]) (by simp [start]) (by simp [shapes])
  have accepts' : (start.addAll [e', e]).2 = none :=
    empty.addAll_accepts (by simp [method, method', routableMethods]) (by simp [start]) (by simp [shapes.symm])
  obtain ⟨-, -, document, sorted, listed⟩ := Site.listing_of_perm {} .empty Views.none.render (List.Perm.swap e' e [])
    (by simp [names, names.symm]) accepts accepts'
  refine ⟨e, e', w, w', events, events', op, op', compiled, compiled', shown, shown', accepts, accepts', document, ?_⟩
  rw [List.filterMap_cons_some shown, List.filterMap_cons_some shown', List.filterMap_nil] at listed
  have before : op'.Before op := by
    refine .inl ?_
    rw [(Endpoint.documents_of_operation? shown).path, (Endpoint.documents_of_operation? shown').path, path, path',
      normal]
    decide
  have pair : [op', op].Pairwise Operation.Before := List.pairwise_pair.mpr before
  have once (a b : Operation) (first : a.Before b) (second : b.Before a) : a = b := absurd second first.asymm
  exact (listed.trans (.swap op' op [])).eq_of_pairwise (fun a b _ _ => once a b) sorted pair

end HandlerChain
