import HandlerChain.Proofs.LetterCase
import HandlerChain.Proofs.ListingOrder
import HandlerChain.Proofs.Serving

/-!
# Generated identifiers

An action that names no identifier gets one from its method and its route: the words of the route, which are
what stands between characters that are neither letters nor digits of ASCII, in lower case and joined to the
method by underscores.  The method and each of the words can be read off the identifier again, since none of
them has an underscore in it.  All else of the route cannot: where a word ends at a slash and where at a brace,
what is no letter and no digit, and the case of the letters.

A site tells endpoints apart by more than this.  So it accepts endpoints side by side that get the same
identifier, and the identifiers of a listing differ exactly if no two of what is listed have the same method and
words.

## Main Definitions

* `Route.words` are the words of a route in lower case.
* `Endpoint.SameWords` says of two endpoints that they have the same method and words.

## Main Results

* `Action.defaultId_eq`: an identifier is the method and the words of the route, joined.
* `Action.defaultId_eq_iff`: it says which these are.
* `Site.callAll_operationIds`: when the identifiers of a listing and of a document differ.
* `searchNotes_id_repeated`: two endpoints of a site with one identifier.
-/

namespace HandlerChain

/-! ### Words -/

/-- The words of a route in lower case. -/
def Route.words (template : String) : List String :=
  ((template.toList.splitOnP fun c => !c.isAlphanum).filter fun part => !part.isEmpty).map fun part =>
    Text.lowerAscii (String.ofList part)

/-- The parts of a divided list are free of what divides them. -/
theorem not_of_mem_splitOnP {α : Type} {p : α → Bool} {xs part : List α} (member : part ∈ xs.splitOnP p) :
    ∀ x ∈ part, p x = false := by
  induction xs generalizing part with
  | nil =>
      rw [List.splitOnP_nil, List.mem_singleton] at member
      simp [member]
  | cons y rest ih =>
      rw [List.splitOnP_cons_eq_if_modifyHead] at member
      by_cases divides : p y = true
      · rw [if_pos divides] at member
        rcases List.mem_cons.mp member with rfl | later
        · simp
        · exact ih later
      · obtain ⟨first, more, divided⟩ := List.exists_cons_of_ne_nil (List.splitOnP_ne_nil p rest)
        rw [if_neg divides, divided, List.modifyHead_cons] at member
        rw [divided] at ih
        rcases List.mem_cons.mp member with rfl | later
        · exact List.forall_mem_cons.mpr ⟨Bool.eq_false_iff.mpr divides, ih List.mem_cons_self⟩
        · exact ih (List.mem_cons_of_mem first later)

/-- The part that is being read goes in front of what is left to read. -/
theorem alphanumericParts_eq (acc cs : List Char) :
    alphanumericParts acc cs =
      ((cs.splitOnP fun c => !c.isAlphanum).modifyHead (acc.reverse ++ ·)).filter fun part => !part.isEmpty := by
  induction cs generalizing acc with
  | nil => cases acc <;> simp [alphanumericParts]
  | cons c rest ih =>
      rw [alphanumericParts, List.splitOnP_cons_eq_if_modifyHead]
      obtain ⟨first, more, divided⟩ :=
        List.exists_cons_of_ne_nil (List.splitOnP_ne_nil (fun c => !Char.isAlphanum c) rest)
      by_cases alphanumeric : c.isAlphanum = true
      · simp [alphanumeric, ih, divided]
      · cases acc <;> simp [alphanumeric, ih, divided]

namespace Route

theorem words_eq (template : String) :
    words template = (alphanumericParts [] template.toList).map fun part => Text.lowerAscii (String.ofList part) := by
  obtain ⟨first, more, divided⟩ :=
    List.exists_cons_of_ne_nil (List.splitOnP_ne_nil (fun c => !Char.isAlphanum c) template.toList)
  simp [words, alphanumericParts_eq, divided]

/-- There is no underscore in a word. -/
theorem underscore_notMem_of_mem_words {template word : String} (member : word ∈ words template) :
    '_' ∉ word.toList := by
  obtain ⟨part, kept, rfl⟩ := List.mem_map.mp member
  obtain ⟨divided, -⟩ := List.mem_filter.mp kept
  rw [Text.lowerAscii, String.toList_map, String.toList_ofList]
  intro inside
  obtain ⟨c, there, lower⟩ := List.mem_map.mp inside
  -- Only the underscore itself has the underscore as its lower case, and it is not alphanumeric.
  have same : c.isAlphanum = Char.isAlphanum '_' :=
    Text.apply_eq_of_toLower_eq (by decide) (lower.trans (by decide))
  have alphanumeric : c.isAlphanum = true := by simpa using not_of_mem_splitOnP divided c there
  rw [alphanumeric] at same
  exact absurd same (by decide)

end Route

namespace Action

variable {σ : Type} {a a' : Action σ}

/-- An identifier is the method and the words of the route, joined. -/
theorem defaultId_eq (a : Action σ) :
    a.defaultId = "_".intercalate (Text.lowerAscii a.method :: Route.words a.route) := by
  have joined (words : List String) (method : String) :
      (words.foldl (fun id word => id ++ "_" ++ word) method).toList =
        ['_'].intercalate (method.toList :: words.map String.toList) := by
    induction words generalizing method with
    | nil => simp
    | cons word rest ih =>
        rw [List.foldl_cons, ih]
        cases rest <;> simp [List.intercalate_cons_cons]
  apply String.toList_injective
  rw [String.toList_intercalate, List.map_cons]
  show _ = ['_'].intercalate _
  rw [← joined, Route.words_eq, List.foldl_map, defaultId]

/-- **An identifier says which method and words it is made of**, if the method has no underscore. -/
theorem defaultId_eq_iff (plain : '_' ∉ (Text.lowerAscii a.method).toList)
    (plain' : '_' ∉ (Text.lowerAscii a'.method).toList) :
    a.defaultId = a'.defaultId ↔
      Text.lowerAscii a.method = Text.lowerAscii a'.method ∧ Route.words a.route = Route.words a'.route := by
  have divided {a : Action σ} (plain : '_' ∉ (Text.lowerAscii a.method).toList) :
      a.defaultId.toList.splitOn '_' =
        (Text.lowerAscii a.method :: Route.words a.route).map String.toList := by
    rw [defaultId_eq, String.toList_intercalate]
    refine List.splitOn_intercalate '_' (fun cs member => ?_) (by simp)
    obtain ⟨part, listed, rfl⟩ := List.mem_map.mp member
    rcases List.mem_cons.mp listed with rfl | word
    · exact plain
    · exact Route.underscore_notMem_of_mem_words word
  constructor
  · intro same
    have parts := congrArg (fun id : String => id.toList.splitOn '_') same
    simp only [divided plain, divided plain'] at parts
    have injective : Function.Injective String.toList := fun _ _ chars => String.toList_injective chars
    exact List.cons.inj (List.map_injective_iff.mpr injective parts)
  · rintro ⟨methods, words⟩
    rw [defaultId_eq, defaultId_eq, methods, words]

end Action

/-! ### Methods -/

/-- Methods that can be routed have no underscore. -/
theorem underscore_notMem_method {m : String} (routable : routableMethods.contains m = true) :
    '_' ∉ (Text.lowerAscii m).toList := by
  have all : (routableMethods.all fun m => !(Text.lowerAscii m).toList.contains '_') = true := by decide +kernel
  simpa using List.all_eq_true.mp all m (List.contains_iff_mem.mp routable)

/-- They are different in lower case too. -/
theorem method_eq_of_lowerAscii_eq {m m' : String} (routable : routableMethods.contains m = true)
    (routable' : routableMethods.contains m' = true) (same : Text.lowerAscii m = Text.lowerAscii m') : m = m' := by
  have distinct : (routableMethods.map Text.lowerAscii).Nodup := by decide +kernel
  exact List.inj_on_of_nodup_map distinct (List.contains_iff_mem.mp routable) (List.contains_iff_mem.mp routable') same

/-! ### Listings -/

section

variable {σ : Type} {s : Site σ} {e e' : Endpoint σ} {op : Operation}

namespace Endpoint

/-- Two endpoints have the same method, and routes with the same words. -/
def SameWords (e e' : Endpoint σ) : Prop :=
  e.action.method = e'.action.method ∧ Route.words e.action.route = Route.words e'.action.route

/-- The operation of an endpoint is among some operations. -/
def ListedAmong (e : Endpoint σ) (ops : List Operation) : Prop := ∃ op ∈ ops, e.operation? = some op

theorem ListedAmong.visible {ops : List Operation} (listed : e.ListedAmong ops) : e.operation?.isSome := by
  obtain ⟨op, -, shown⟩ := listed
  exact Option.isSome_of_eq_some shown

/-- An endpoint has the identifier of its action. -/
theorem CompiledIn.id_eq {registry : Registry σ} (compiled : e.CompiledIn registry) :
    e.id = e.action.id?.getD e.action.defaultId := by
  obtain ⟨config, w, a, w', events, compiled, -⟩ := compiled
  obtain ⟨⟨parameters, body, rfl⟩, -⟩ := exists_endpoint_of_compile compiled
  rfl

/-- It is listed under its identifier. -/
theorem operation?_id (shown : e.operation? = some op) : Document.operationId op = e.id := by
  rw [Document.operationId, (documents_of_operation? shown).id, Option.getD_some]

end Endpoint

/-- A document has none but the operations that it is made of, in their order. -/
theorem Document.operations_sublist (title version : String) (ops : List Operation) :
    ((ofOperations title version ops).operations.map Prod.snd).Sublist ops := by
  have fold : ∀ taken, ((ops.foldl add taken).map Prod.snd).Sublist (taken.map Prod.snd ++ ops) := by
    induction ops with
    | nil => simp
    | cons op rest ih =>
        intro taken
        rw [List.foldl_cons]
        refine (ih (add taken op)).trans ?_
        unfold add
        split
        · exact (List.sublist_cons_self op rest).append_left _
        · simp
  exact fold []

namespace Site

/-- **Generated identifiers of a site tell apart what differs in method or words**, and nothing else. -/
theorem Consistent.id_eq_iff (consistent : s.Consistent) {registry registry' : Registry σ}
    (member : e ∈ s.endpoints) (member' : e' ∈ s.endpoints) (compiled : e.CompiledIn registry)
    (compiled' : e'.CompiledIn registry') (unnamed : e.action.id? = none) (unnamed' : e'.action.id? = none) :
    e.id = e'.id ↔ e.SameWords e' := by
  have routable := consistent.routable e member
  have routable' := consistent.routable e' member'
  rw [compiled.id_eq, compiled'.id_eq, unnamed, unnamed', Option.getD_none, Option.getD_none,
    Action.defaultId_eq_iff (underscore_notMem_method routable) (underscore_notMem_method routable')]
  exact and_congr_left' ⟨method_eq_of_lowerAscii_eq routable routable', congrArg Text.lowerAscii⟩

/-- The identifiers of some operations of a site differ exactly if those of their endpoints do. -/
theorem Consistent.nodup_ids_iff (consistent : s.Consistent)
    (entries : s.operations.entries = s.endpoints.filterMap Endpoint.operation?) {ops : List Operation}
    (sublist : ops.Sublist s.operations.toList) :
    (ops.map Document.operationId).Nodup ↔
      ∀ e ∈ s.endpoints, ∀ e' ∈ s.endpoints, e.ListedAmong ops → e'.ListedAmong ops → e.id = e'.id → e = e' := by
  have perm : s.operations.toList.Perm (s.endpoints.filterMap Endpoint.operation?) :=
    (Operations.toList_perm _).trans (.of_eq entries)
  have keys := consistent.nodup_sortKeys
  have distinct : ops.Nodup := (((perm.map Operation.sortKey).nodup_iff.mpr keys).of_map _).sublist sublist
  have origin (op : Operation) (listed : op ∈ ops) : ∃ e ∈ s.endpoints, e.operation? = some op :=
    List.mem_filterMap.mp (perm.subset (sublist.subset listed))
  rw [List.nodup_map_iff_inj_on distinct]
  constructor
  · rintro differ e member e' member' ⟨op, listed, shown⟩ ⟨op', listed', shown'⟩ same
    rw [← Endpoint.operation?_id shown, ← Endpoint.operation?_id shown'] at same
    exact eq_of_nodup_filterMap keys member member' shown shown'
      (congrArg Operation.sortKey (differ op listed op' listed' same))
  · intro differ op listed op' listed' same
    obtain ⟨e, member, shown⟩ := origin op listed
    obtain ⟨e', member', shown'⟩ := origin op' listed'
    rw [Endpoint.operation?_id shown, Endpoint.operation?_id shown'] at same
    obtain rfl := differ e member e' member' ⟨op, listed, shown⟩ ⟨op', listed', shown'⟩ same
    exact Option.some.inj (shown.symm.trans shown')

end Site

/-- **When generated identifiers differ.**  Let a site be offered compiled endpoints by any calls, none of which
names its identifier unless it is hidden.  Of what is accepted and not hidden, two endpoints have one identifier
exactly if they have the same method and their routes the same words.  So the identifiers of the listing are
pairwise distinct exactly if no two endpoints that are not hidden have these in common, and those of the document
exactly if no two endpoints in it do. -/
theorem Site.callAll_operationIds (config : SiteConfig) (services : Services)
    (render : RenderRequest → Except ViewError Rendered) (calls : List (SiteCall σ))
    (named : ∀ c ∈ calls, ∀ e ∈ c.offered, ∀ c' ∈ calls, ∀ e' ∈ c'.offered,
      e.unit.typeName = e'.unit.typeName → e = e')
    (compiled : ∀ c ∈ calls, ∀ e ∈ c.offered, ∃ registry, e.CompiledIn registry)
    (unnamed : ∀ c ∈ calls, ∀ e ∈ c.offered, e.operation?.isSome → e.action.id? = none) :
    let site := (({ config := config, services := services, render := render } : Site σ).callAll calls).1
    (∀ e ∈ site.endpoints, ∀ e' ∈ site.endpoints, e.operation?.isSome → e'.operation?.isSome →
      (e.id = e'.id ↔ e.SameWords e')) ∧
    ((site.operations.toList.map Document.operationId).Nodup ↔
      ∀ e ∈ site.endpoints, ∀ e' ∈ site.endpoints, e.operation?.isSome → e'.operation?.isSome →
        e.SameWords e' → e = e') ∧
    let documented := site.document.operations.map Prod.snd
    ((documented.map Document.operationId).Nodup ↔
      ∀ e ∈ site.endpoints, ∀ e' ∈ site.endpoints, e.ListedAmong documented → e'.ListedAmong documented →
        e.SameWords e' → e = e') := by
  intro site
  have empty := consistent_empty (σ := σ) config services render
  have consistent : site.Consistent := empty.callAll calls
  have entries : site.operations.entries = site.endpoints.filterMap Endpoint.operation? :=
    empty.operations_callAll rfl rfl named
  have offered (e : Endpoint σ) (member : e ∈ site.endpoints) : ∃ c ∈ calls, e ∈ c.offered := by
    rw [endpoints_callAll] at member
    exact exists_call_of_mem_accepted (by simpa using member)
  have ids (e : Endpoint σ) (member : e ∈ site.endpoints) (e' : Endpoint σ) (member' : e' ∈ site.endpoints)
      (visible : e.operation?.isSome) (visible' : e'.operation?.isSome) : e.id = e'.id ↔ e.SameWords e' := by
    obtain ⟨c, called, there⟩ := offered e member
    obtain ⟨c', called', there'⟩ := offered e' member'
    obtain ⟨registry, made⟩ := compiled c called e there
    obtain ⟨registry', made'⟩ := compiled c' called' e' there'
    exact consistent.id_eq_iff member member' made made' (unnamed c called e there visible)
      (unnamed c' called' e' there' visible')
  have distinct (ops : List Operation) (sublist : ops.Sublist site.operations.toList) :
      (ops.map Document.operationId).Nodup ↔ ∀ e ∈ site.endpoints, ∀ e' ∈ site.endpoints,
        e.ListedAmong ops → e'.ListedAmong ops → e.SameWords e' → e = e' := by
    rw [consistent.nodup_ids_iff entries sublist]
    refine forall₂_congr fun e member => forall₂_congr fun e' member' => forall₂_congr fun listed listed' => ?_
    rw [ids e member e' member' listed.visible listed'.visible]
  have listing (e : Endpoint σ) (member : e ∈ site.endpoints) :
      e.ListedAmong site.operations.toList ↔ e.operation?.isSome := by
    refine ⟨Endpoint.ListedAmong.visible, fun visible => ?_⟩
    obtain ⟨op, shown⟩ := Option.isSome_iff_exists.mp visible
    have there : op ∈ site.operations.entries := entries ▸ List.mem_filterMap.mpr ⟨e, member, shown⟩
    exact ⟨op, (Operations.toList_perm _).mem_iff.mpr there, shown⟩
  refine ⟨ids, ?_, distinct _ (Document.operations_sublist _ _ _)⟩
  rw [distinct _ (.refl _)]
  refine forall₂_congr fun e member => forall₂_congr fun e' member' => ?_
  rw [listing e member, listing e' member']

end

/-- A site with an endpoint that finds a note and one that searches for notes under some route.  Neither names an
identifier, and both are accepted if the route has another shape. -/
theorem Notes.exists_site_of_pair (route : String)
    (apart : Route.shape "/notes/\x7bid\x7d" ≠ Route.shape (Route.normalize route)) :
    ∃ e e' : Endpoint NoteStore,
      let calls : List (SiteCall NoteStore) := [.addAll [e, e']]
      let site := (({ config := {} } : Site NoteStore).callAll calls).1
      (∀ c ∈ calls, ∀ x ∈ c.offered, ∀ c' ∈ calls, ∀ x' ∈ c'.offered,
        x.unit.typeName = x'.unit.typeName → x = x') ∧
      (∀ c ∈ calls, ∀ x ∈ c.offered, ∃ registry, x.CompiledIn registry) ∧
      (∀ c ∈ calls, ∀ x ∈ c.offered, x.operation?.isSome ∧ x.action.method = "GET" ∧ x.action.id? = none) ∧
      site.endpoints = [e, e'] ∧ e.action.route = "/notes/\x7bid\x7d" ∧ e'.action.route = route ∧
        e.path = "/notes/\x7bid\x7d" ∧ e'.path = Route.normalize route := by
  obtain ⟨e, e', w, w', events, events', compiled, compiled', ⟨path, method, visible⟩, ⟨path', method', visible'⟩,
    names⟩ := Notes.exists_pair route
  obtain ⟨-, action, -⟩ := compile_realizes compiled
  obtain ⟨-, action', -⟩ := compile_realizes compiled'
  have shapes : e.shape ≠ e'.shape := by
    rw [Endpoint.shape, Endpoint.shape, path, path']
    exact apart
  have start : ({ config := {} } : Site NoteStore).Consistent := Site.consistent_empty _ _ _
  have accepts : (({ config := {} } : Site NoteStore).addAll [e, e']).2 = none :=
    start.addAll_accepts (by simp [method, method', routableMethods]) (by simp) (by simp [shapes])
  obtain ⟨-, endpoints, -⟩ := start.addAll_holds rfl rfl accepts (by simp [names, names.symm])
  have made : e.CompiledIn w.registry := ⟨_, _, _, w, events, compiled, .refl⟩
  have made' : e'.CompiledIn w'.registry := ⟨_, _, _, w', events', compiled', .refl⟩
  have unnamed : e.action.id? = none := by
    rw [action]
    rfl
  have unnamed' : e'.action.id? = none := by
    rw [action']
    rfl
  refine ⟨e, e', ?_, ?_, ?_, endpoints, by rw [action], by rw [action'], path, path'⟩
  · simp [SiteCall.offered, names, names.symm]
  · simpa [SiteCall.offered] using ⟨⟨_, made⟩, ⟨_, made'⟩⟩
  · simpa [SiteCall.offered] using ⟨⟨visible, method, unnamed⟩, visible', method', unnamed'⟩

/-- What finds a note and what searches for notes have different identifiers. -/
theorem searchNotes_operationIds :
    ∃ e e' : Endpoint NoteStore,
      let site := (({ config := {} } : Site NoteStore).callAll [.addAll [e, e']]).1
      site.endpoints = [e, e'] ∧ e.action.route = "/notes/\x7bid\x7d" ∧ e'.action.route = "/notes" ∧
        ((site.document.operations.map Prod.snd).map Document.operationId).Nodup := by
  obtain ⟨e, e', named, compiled, visible, endpoints, route, route', -⟩ :=
    Notes.exists_site_of_pair "/notes" (by decide +kernel)
  refine ⟨e, e', endpoints, route, route', ?_⟩
  obtain ⟨-, -, documented⟩ := Site.callAll_operationIds {} .empty Views.none.render [.addAll [e, e']] named compiled
    fun c called x offered _ => (visible c called x offered).2.2
  have differ : Route.words e.action.route ≠ Route.words e'.action.route := by
    rw [route, route']
    decide +kernel
  refine documented.mpr fun x member x' member' _ _ same => ?_
  rw [endpoints, List.mem_pair] at member member'
  rcases member with rfl | rfl <;> rcases member' with rfl | rfl
  · rfl
  · exact absurd same.2 differ
  · exact absurd same.2.symm differ
  · rfl

/-- A route with a placeholder and one with a word in its place: both endpoints are accepted and listed, with one
identifier. -/
theorem searchNotes_id_repeated :
    ∃ e e' : Endpoint NoteStore,
      let site := (({ config := {} } : Site NoteStore).callAll [.addAll [e, e']]).1
      site.endpoints = [e, e'] ∧ e.action.route = "/notes/\x7bid\x7d" ∧ e'.action.route = "/notes/id" ∧
        e.action.id? = none ∧ e'.action.id? = none ∧
        (site.document.operations.map Prod.snd).map Document.operationId = ["get_notes_id", "get_notes_id"] := by
  obtain ⟨e, e', named, compiled, visible, endpoints, route, route', path, path'⟩ :=
    Notes.exists_site_of_pair "/notes/id" (by decide +kernel)
  have start : ({ config := {} } : Site NoteStore).Consistent := Site.consistent_empty _ _ _
  let site := (({ config := {} } : Site NoteStore).callAll [.addAll [e, e']]).1
  have entries : site.operations.entries = site.endpoints.filterMap Endpoint.operation? :=
    start.operations_callAll rfl rfl named
  obtain ⟨shown, method, unnamed⟩ := visible _ (List.mem_singleton_self _) e (by simp [SiteCall.offered])
  obtain ⟨shown', method', unnamed'⟩ := visible _ (List.mem_singleton_self _) e' (by simp [SiteCall.offered])
  obtain ⟨op, shown⟩ := Option.isSome_iff_exists.mp shown
  obtain ⟨op', shown'⟩ := Option.isSome_iff_exists.mp shown'
  have identifier {x : Endpoint NoteStore} (there : x ∈ [e, e']) {listed : Operation}
      (shown : x.operation? = some listed)
      (spelled : "_".intercalate (Text.lowerAscii "GET" :: Route.words x.action.route) = "get_notes_id") :
      Document.operationId listed = "get_notes_id" := by
    obtain ⟨registry, made⟩ := compiled _ (List.mem_singleton_self _) x there
    obtain ⟨-, method, unnamed⟩ := visible _ (List.mem_singleton_self _) x there
    rw [Endpoint.operation?_id shown, made.id_eq, unnamed, Option.getD_none, Action.defaultId_eq, method, spelled]
  have id : Document.operationId op = "get_notes_id" :=
    identifier (by simp) shown (by rw [route]; decide +kernel)
  have id' : Document.operationId op' = "get_notes_id" :=
    identifier (by simp) shown' (by rw [route']; decide +kernel)
  have perm : site.operations.toList.Perm [op, op'] := by
    rw [endpoints, List.filterMap_cons_some shown, List.filterMap_cons_some shown', List.filterMap_nil] at entries
    exact (Operations.toList_perm _).trans (.of_eq entries)
  have places : (site.operations.toList.map Operation.place).Nodup := by
    rw [(perm.map Operation.place).nodup_iff]
    have differ : op.place ≠ op'.place := by
      rw [Endpoint.operation?_place shown, Endpoint.operation?_place shown', path, path', method, method']
      decide +kernel
    simpa using differ
  have documented : site.document.operations.map Prod.snd = site.operations.toList := by
    rw [Site.document, Document.operations_ofOperations _ _ places, List.map_map]
    exact List.map_id _
  refine ⟨e, e', endpoints, route, route', unnamed, unnamed', ?_⟩
  show (site.document.operations.map Prod.snd).map Document.operationId = List.replicate 2 "get_notes_id"
  have ids : (site.operations.toList.map Document.operationId).Perm
      [Document.operationId op, Document.operationId op'] := perm.map Document.operationId
  rw [id, id'] at ids
  rw [documented]
  exact List.perm_replicate.mp ids

end HandlerChain
