import HandlerChain.Proofs.Conflicts

/-!
# What a site has accepted

A site is offered endpoints one by one or many at once, and many at once only up to the first that is refused.
What the calls leave depends on the endpoints that were accepted and on nothing else: they stand in the order
in which they were accepted, the tables say what they serve, and each that is not hidden has one operation.
An endpoint that was refused might as well never have been offered.

Operations are kept by the names of units, so the last of these needs that different endpoints have units of
different names.

## Main Definitions

* `SiteCall` is a call, `Site.callAll` makes some calls one after the other.
* `Site.accepted` are the endpoints that calls have had accepted, as their answers tell.
* `Operation.Documents` is what an operation says of its endpoint.

## Main Results

* `Site.callAll_add_accepted`: the accepted endpoints alone make the same site.
* `addPaths_ne_overlap`: groups of different paths are put into a table without a method being there already.
* `Site.callAll_tables`: what calls leave, in terms of the accepted endpoints.
-/

namespace HandlerChain

variable {σ : Type}

/-- What a site may be asked to do. -/
inductive SiteCall (σ : Type) where
  | add (e : Endpoint σ)
  | addAll (es : List (Endpoint σ))

/-- The endpoints that a call offers, in order. -/
def SiteCall.offered : SiteCall σ → List (Endpoint σ)
  | add e => [e]
  | addAll es => es

/-- What an operation says of its endpoint. -/
structure Operation.Documents (op : Operation) (e : Endpoint σ) : Prop where
  method : op.method = e.action.method
  path : op.path = e.path
  id : op.id? = some e.id
  responses : op.responses = [e.success, ⟨400, Problem.mediaType, "Bad Request"⟩,
    ⟨500, Problem.mediaType, "Internal Server Error"⟩]
  unitName : op.unitName = e.unit.typeName

theorem Endpoint.documents_of_operation? {e : Endpoint σ} {op : Operation} (shown : e.operation? = some op) :
    op.Documents e := by
  simp only [operation?] at shown
  split at shown
  · cases shown
  · cases shown
    exact ⟨rfl, rfl, rfl, rfl, rfl⟩

namespace Site

/-- The site after a call, and the refusal that ended the call. -/
def call (s : Site σ) : SiteCall σ → Site σ × Option SiteError
  | .add e =>
    match s.add e with
    | .ok s' => (s', none)
    | .error error => (s, some error)
  | .addAll es => s.addAll es

/-- The site after some calls, and their answers. -/
def callAll (s : Site σ) : List (SiteCall σ) → Site σ × List (Option SiteError)
  | [] => (s, [])
  | c :: rest =>
    let (s, answer) := s.call c
    let (s, answers) := s.callAll rest
    (s, answer :: answers)

/-- The endpoints of a list that are accepted, up to the first that is refused. -/
def acceptedOf (s : Site σ) : List (Endpoint σ) → List (Endpoint σ)
  | [] => []
  | e :: rest =>
    match s.add e with
    | .ok s' => e :: s'.acceptedOf rest
    | .error _ => []

/-- The endpoints that calls have had accepted, in order. -/
def accepted (s : Site σ) : List (SiteCall σ) → List (Endpoint σ)
  | [] => []
  | c :: rest => s.acceptedOf c.offered ++ (s.call c).1.accepted rest

variable {s s' : Site σ} {e : Endpoint σ}

theorem call_eq_addAll (s : Site σ) (c : SiteCall σ) : s.call c = s.addAll c.offered := by
  cases c with
  | addAll es => rfl
  | add e =>
      rw [call, SiteCall.offered, addAll]
      cases s.add e <;> rfl

theorem add_of_accepted (accepts : s.refusal? e = none) : s.add e = .ok (s.accept e) :=
  add_eq_ok_iff.mpr ⟨accepts, rfl⟩

/-- The endpoints that are accepted are all accepted if no others are offered. -/
theorem callAll_add_acceptedOf (s : Site σ) (es : List (Endpoint σ)) :
    s.callAll ((s.acceptedOf es).map .add) = ((s.addAll es).1, (s.acceptedOf es).map fun _ => none) := by
  induction es generalizing s with
  | nil => rfl
  | cons e rest ih =>
      rw [acceptedOf, addAll]
      cases added : s.add e with
      | error cause => rfl
      | ok s' => simp only [List.map_cons, callAll, call, added, ih s']

theorem callAll_append (s : Site σ) (first second : List (SiteCall σ)) :
    s.callAll (first ++ second) =
      (((s.callAll first).1.callAll second).1, (s.callAll first).2 ++ ((s.callAll first).1.callAll second).2) := by
  induction first generalizing s with
  | nil => rfl
  | cons c rest ih => simp only [List.cons_append, callAll, ih]

/-- **The accepted endpoints alone make the same site**, and none of them is refused then. -/
theorem callAll_add_accepted (s : Site σ) (calls : List (SiteCall σ)) :
    s.callAll ((s.accepted calls).map .add) =
      ((s.callAll calls).1, (s.accepted calls).map fun _ => none) := by
  induction calls generalizing s with
  | nil => rfl
  | cons c rest ih =>
      rw [accepted, List.map_append, callAll_append, callAll_add_acceptedOf, callAll, call_eq_addAll,
        List.map_append, ih]

theorem acceptedOf_subset (s : Site σ) (es : List (Endpoint σ)) : s.acceptedOf es ⊆ es := by
  induction es generalizing s with
  | nil => exact List.Subset.refl _
  | cons e rest ih =>
      rw [acceptedOf]
      split
      · exact List.cons_subset_cons e (ih _)
      · exact List.nil_subset _

/-- What is accepted was offered. -/
theorem exists_call_of_mem_accepted {calls : List (SiteCall σ)} (member : e ∈ s.accepted calls) :
    ∃ c ∈ calls, e ∈ c.offered := by
  induction calls generalizing s with
  | nil => cases member
  | cons c rest ih =>
      rcases List.mem_append.mp member with here | later
      · exact ⟨c, List.mem_cons_self, s.acceptedOf_subset c.offered here⟩
      · obtain ⟨c', listed, offered⟩ := ih later
        exact ⟨c', List.mem_cons_of_mem c listed, offered⟩

/-- What some adds leave that are all answered without a refusal. -/
theorem eq_foldl_accept {es : List (Endpoint σ)}
    (added : s.callAll (es.map .add) = (s', es.map fun _ => none)) :
    s' = es.foldl accept s := by
  induction es generalizing s with
  | nil => exact (Prod.mk.inj added).1.symm
  | cons e rest ih =>
      cases one : s.add e with
      | error cause => simp [callAll, call, one] at added
      | ok s'' =>
          simp only [List.map_cons, callAll, call, one, Prod.mk.injEq, List.cons.injEq, true_and] at added
          rw [List.foldl_cons, ← (add_eq_ok_iff.mp one).2]
          exact ih (Prod.ext added.1 added.2)

theorem callAll_fst (s : Site σ) (calls : List (SiteCall σ)) :
    (s.callAll calls).1 = (s.accepted calls).foldl accept s :=
  eq_foldl_accept (s.callAll_add_accepted calls)

theorem Consistent.callAll (consistent : s.Consistent) (calls : List (SiteCall σ)) :
    (s.callAll calls).1.Consistent := by
  have added : ∀ (es : List (Endpoint σ)) (s : Site σ), s.Consistent → (s.addAll es).1.Consistent := by
    intro es
    induction es with
    | nil => exact fun s consistent => consistent
    | cons e rest ih =>
        intro s consistent
        rw [addAll]
        cases one : s.add e with
        | error cause => exact consistent
        | ok s' => exact ih s' (consistent.add one)
  induction calls generalizing s with
  | nil => exact consistent
  | cons c rest ih =>
      rw [Site.callAll, call_eq_addAll]
      exact ih (added c.offered s consistent)

@[simp] theorem foldl_accept_endpoints (s : Site σ) (es : List (Endpoint σ)) :
    (es.foldl accept s).endpoints = s.endpoints ++ es := by
  induction es generalizing s with
  | nil => simp
  | cons e rest ih =>
      rw [List.foldl_cons, ih, accept, List.append_assoc, List.singleton_append]

@[simp] theorem foldl_accept_config (s : Site σ) (es : List (Endpoint σ)) :
    (es.foldl accept s).config = s.config := by
  induction es generalizing s with
  | nil => rfl
  | cons e rest ih => rw [List.foldl_cons, ih, accept]

@[simp] theorem foldl_accept_operations (s : Site σ) (es : List (Endpoint σ)) :
    (es.foldl accept s).operations = es.foldl documentEndpoint s.operations := by
  induction es generalizing s with
  | nil => rfl
  | cons e rest ih => rw [List.foldl_cons, ih, accept, List.foldl_cons]

/-- Operations of units of different names do not replace each other. -/
theorem entries_foldl_documentEndpoint {ops : Operations} {es : List (Endpoint σ)}
    (new : ∀ e ∈ es, ∀ op ∈ ops.entries, op.unitName ≠ e.unit.typeName)
    (distinct : (es.map fun e => e.unit.typeName).Nodup) :
    (es.foldl documentEndpoint ops).entries = ops.entries ++ es.filterMap Endpoint.operation? := by
  induction es generalizing ops with
  | nil => simp
  | cons e rest ih =>
      obtain ⟨here, later⟩ := List.forall_mem_cons.mp new
      obtain ⟨other, distinct⟩ := List.nodup_cons.mp distinct
      rw [List.foldl_cons]
      cases shown : e.operation? with
      | none =>
          rw [documentEndpoint, shown, ih later distinct, List.filterMap_cons_none shown]
      | some op =>
          have named := (Endpoint.documents_of_operation? shown).unitName
          have longer : (ops.insert op).entries = ops.entries ++ [op] := by
            rw [Operations.insert, List.filter_eq_self.mpr fun o member => ?_]
            rw [bne_iff_ne, named]
            exact here o member
          rw [documentEndpoint, shown, ih ?_ distinct, longer, List.filterMap_cons_some shown,
            List.append_assoc, List.singleton_append]
          intro x member o listed
          rw [longer] at listed
          rcases List.mem_append.mp listed with old | last
          · exact later x member o old
          · rw [List.mem_singleton.mp last, named]
            exact fun same => other (List.mem_map.mpr ⟨x, member, same.symm⟩)

theorem endpoints_callAll (s : Site σ) (calls : List (SiteCall σ)) :
    (s.callAll calls).1.endpoints = s.endpoints ++ s.accepted calls := by
  rw [callAll_fst, foldl_accept_endpoints]

/-- The operations of a site that was empty are those of its endpoints, if different endpoints have units of
different names. -/
theorem Consistent.operations_callAll (consistent : s.Consistent) (empty : s.endpoints = [])
    (undocumented : s.operations = .empty) {calls : List (SiteCall σ)}
    (named : ∀ c ∈ calls, ∀ e ∈ c.offered, ∀ c' ∈ calls, ∀ e' ∈ c'.offered,
      e.unit.typeName = e'.unit.typeName → e = e') :
    (s.callAll calls).1.operations.entries =
      (s.callAll calls).1.endpoints.filterMap Endpoint.operation? := by
  have distinct := (consistent.callAll calls).distinct
  rw [endpoints_callAll, empty, List.nil_append] at distinct ⊢
  rw [callAll_fst, foldl_accept_operations, undocumented,
    entries_foldl_documentEndpoint (by simp [Operations.empty])]
  · rfl
  · refine (distinct.of_map _).map_on fun e member e' member' same => ?_
    obtain ⟨c, listed, offered⟩ := exists_call_of_mem_accepted member
    obtain ⟨c', listed', offered'⟩ := exists_call_of_mem_accepted member'
    exact named c listed e offered c' listed' e' offered' same

theorem acceptedOf_eq_self {es : List (Endpoint σ)} (accepts : (s.addAll es).2 = none) : s.acceptedOf es = es := by
  induction es generalizing s with
  | nil => rfl
  | cons e rest ih =>
      rw [addAll] at accepts
      rw [acceptedOf]
      cases added : s.add e with
      | error cause => simp [added] at accepts
      | ok s' =>
          simp only [added] at accepts ⊢
          rw [ih accepts]

/-- Endpoints whose shapes are new and differ are all accepted. -/
theorem Consistent.addAll_accepts (consistent : s.Consistent) {es : List (Endpoint σ)}
    (routable : ∀ e ∈ es, routableMethods.contains e.action.method = true)
    (new : ∀ e ∈ es, ∀ e' ∈ s.endpoints, e'.shape ≠ e.shape)
    (different : es.Pairwise fun e e' => e.shape ≠ e'.shape) : (s.addAll es).2 = none := by
  induction es generalizing s with
  | nil => rfl
  | cons e rest ih =>
      obtain ⟨first, different⟩ := List.pairwise_cons.mp different
      obtain ⟨here, routable⟩ := List.forall_mem_cons.mp routable
      have free := consistent.refusal?_of_new_shape here (new e List.mem_cons_self)
      rw [addAll, add_of_accepted free]
      refine ih (consistent.accept free) routable (fun x member e' listed => ?_) different
      rcases List.mem_append.mp listed with old | last
      · exact new x (List.mem_cons_of_mem e member) e' old
      · rw [List.mem_singleton.mp last]
        exact first x member

/-- **What a site that was empty holds once it has accepted all endpoints of a list.** -/
theorem Consistent.addAll_holds (consistent : s.Consistent) (empty : s.endpoints = [])
    (undocumented : s.operations = .empty) {es : List (Endpoint σ)} (accepts : (s.addAll es).2 = none)
    (named : ∀ e ∈ es, ∀ e' ∈ es, e.unit.typeName = e'.unit.typeName → e = e') :
    (s.addAll es).1.Consistent ∧ (s.addAll es).1.endpoints = es ∧
      (s.addAll es).1.operations.entries = es.filterMap Endpoint.operation? := by
  have one : (s.callAll [.addAll es]).1 = (s.addAll es).1 := rfl
  have endpoints : (s.addAll es).1.endpoints = es := by
    rw [← one, endpoints_callAll, empty]
    simp [accepted, SiteCall.offered, acceptedOf_eq_self accepts]
  refine ⟨one ▸ consistent.callAll _, endpoints, ?_⟩
  rw [← one, consistent.operations_callAll empty undocumented (by simpa [SiteCall.offered] using named), one, endpoints]

end Site

end HandlerChain
