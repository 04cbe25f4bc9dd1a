import HandlerChain.Site.Router
import Mathlib.Data.List.Nodup
import Mathlib.Data.List.Pairwise
import Mathlib.Data.String.Basic

/-!
# What the table of a router holds

A router is made in three passes: the endpoints are grouped by path, the groups are added to a table one
after the other, and the path of the document comes last.  What each pass can do is said here once, as what
is served before and after it; when a pass fails is said beside it.

## Main Definitions

* `servedBy` lists what some groups serve, `Route.Table.groups` are the groups of a table.
* `Route.Accepts` says that a pattern can be in a table at all, `Route.Clash` that two patterns cannot be in
  one.

## Main Results

* `Route.Table.insert_eq_ok_iff` says when a pattern can be added to a table, and what that gives.
* `groupByPath_perm` and `exists_groupByPath`: grouping keeps the endpoints, and fails only for two of one
  method and path.
* `exists_addPaths_iff`: groups make a table exactly if their paths are accepted and no two clash.
* `Site.router?_served`: a router serves the endpoints of its site under their own paths and methods.
-/

namespace HandlerChain

namespace Route

/-- A pattern can be in a table: an empty one takes it. -/
def Accepts (pattern : String) : Prop := ∃ table, (Table.empty : Table Unit).insert pattern () = .ok table

/-- Two patterns cannot be in one table. -/
def Clash (p q : String) : Prop :=
  ∃ ts us, tokens? p = some ts ∧ tokens? q = some us ∧ conflicts ts us = true

theorem conflicts_comm (ts us : List Token) : conflicts ts us = conflicts us ts := by
  induction ts generalizing us with
  | nil => rcases us with _ | ⟨_ | _ | _, us⟩ <;> rfl
  | cons t ts ih =>
      cases us with
      | nil => cases t <;> rfl
      | cons u us =>
          cases t <;> cases u <;> simp only [conflicts, ih us]
          rw [Bool.eq_iff_iff, Bool.and_eq_true, Bool.and_eq_true, decide_eq_true_iff,
            decide_eq_true_iff, eq_comm]

theorem Clash.symm {p q : String} (clash : Clash p q) : Clash q p := by
  obtain ⟨ts, us, first, second, conflict⟩ := clash
  exact ⟨us, ts, second, first, conflicts_comm ts us ▸ conflict⟩

theorem not_clash_iff {p q : String} {ts us : List Token} (first : tokens? p = some ts)
    (second : tokens? q = some us) : ¬Clash p q ↔ conflicts ts us = false := by
  simp [Clash, first, second]

namespace Table

variable {α : Type} {table table' : Table α} {pattern : String} {value : α}

/-- The patterns of a table with their values. -/
def groups (table : Table α) : List (String × α) := table.entries.map fun e => (e.pattern, e.value)

/-- The tokens that a table keeps are those of its patterns. -/
def Divided (table : Table α) : Prop := ∀ e ∈ table.entries, tokens? e.pattern = some e.tokens

theorem divided_empty : (empty : Table α).Divided := fun _ none => absurd none List.not_mem_nil

theorem insert_eq_ok_iff :
    table.insert pattern value = .ok table' ↔
      isPlain pattern = true ∧ ∃ ts, tokens? pattern = some ts ∧
        (∀ e ∈ table.entries, conflicts e.tokens ts = false) ∧
          table' = ⟨table.entries ++ [⟨pattern, ts, value⟩]⟩ := by
  unfold insert
  cases plain : isPlain pattern with
  | false => simp
  | true =>
      cases divided : tokens? pattern with
      | none => simp
      | some ts =>
          by_cases conflict : table.entries.any (fun e => conflicts e.tokens ts) = true
          · obtain ⟨e, member, conflict'⟩ := List.any_eq_true.mp conflict
            simp only [conflict, Bool.not_true, Bool.false_eq_true, ↓reduceIte, reduceCtorEq, true_and,
              Option.some.injEq, exists_eq_left', false_iff, not_and]
            intro free
            simp [free e member] at conflict'
          · have free : ∀ e ∈ table.entries, conflicts e.tokens ts = false := by simpa using conflict
            simp only [conflict, Bool.not_true, Bool.false_eq_true, ↓reduceIte, Except.ok.injEq, true_and,
              Option.some.injEq, exists_eq_left', and_iff_right free]
            exact eq_comm

end Table

theorem accepts_iff {pattern : String} :
    Accepts pattern ↔ Table.isPlain pattern = true ∧ ∃ ts, tokens? pattern = some ts := by
  simp [Accepts, Table.insert_eq_ok_iff, Table.empty]

namespace Table

variable {α : Type} {table table' : Table α} {pattern : String} {value : α}

theorem Divided.insert (divided : table.Divided) (inserted : table.insert pattern value = .ok table') :
    table'.Divided ∧ table'.groups = table.groups ++ [(pattern, value)] := by
  obtain ⟨-, ts, tokens, -, rfl⟩ := insert_eq_ok_iff.mp inserted
  refine ⟨fun e member => ?_, by simp [groups]⟩
  rcases List.mem_append.mp member with old | new
  · exact divided e old
  · rw [List.mem_singleton.mp new]
    exact tokens

/-- A pattern can be added exactly if it is accepted and clashes with none that is there. -/
theorem Divided.exists_insert_iff (divided : table.Divided) :
    (∃ table', table.insert pattern value = .ok table') ↔
      Accepts pattern ∧ ∀ group ∈ table.groups, ¬Clash group.1 pattern := by
  simp only [insert_eq_ok_iff, accepts_iff, groups, List.forall_mem_map]
  constructor
  · rintro ⟨table', plain, ts, tokens, free, -⟩
    exact ⟨⟨plain, ts, tokens⟩, fun e member =>
      (not_clash_iff (divided e member) tokens).mpr (free e member)⟩
  · rintro ⟨⟨plain, ts, tokens⟩, free⟩
    exact ⟨_, plain, ts, tokens, fun e member =>
      (not_clash_iff (divided e member) tokens).mp (free e member), rfl⟩

theorem get?_eq_none_iff : table.get? pattern = none ↔ pattern ∉ table.groups.map Prod.fst := by
  simp [get?, groups]

theorem mem_groups_of_get? (found : table.get? pattern = some value) : (pattern, value) ∈ table.groups := by
  obtain ⟨e, searched, rfl⟩ := Option.map_eq_some_iff.mp found
  have named : e.pattern = pattern := by simpa using List.find?_some searched
  exact List.mem_map.mpr ⟨e, List.mem_of_find?_eq_some searched, by rw [named]⟩

theorem Divided.replace (divided : table.Divided) (pattern : String) (value : α) :
    (table.replace pattern value).Divided := by
  intro e member
  obtain ⟨old, mine, rfl⟩ := List.mem_map.mp member
  split
  · exact divided old mine
  · exact divided old mine

theorem mem_groups_replace {group : String × α} (member : group ∈ (table.replace pattern value).groups) :
    group ∈ table.groups ∨ group = (pattern, value) := by
  obtain ⟨e, changed, rfl⟩ := List.mem_map.mp member
  obtain ⟨old, mine, rfl⟩ := List.mem_map.mp changed
  split
  · rename_i same
    exact .inr (by rw [← eq_of_beq same])
  · exact .inl (List.mem_map_of_mem mine)

end Table

end Route

/-- What some groups serve: paths with methods and their targets. -/
def servedBy {σ : Type} (groups : List (String × MethodTable σ)) : List (String × String × Target σ) :=
  groups.flatMap fun group => group.2.targets.map fun entry => (group.1, entry)

section

variable {σ : Type} {groups groups' : List (String × MethodTable σ)} {path method : String}
  {target : Target σ}

theorem mem_servedBy {x : String × String × Target σ} :
    x ∈ servedBy groups ↔ ∃ t, (x.1, t) ∈ groups ∧ x.2 ∈ t.targets := by
  obtain ⟨p, entry⟩ := x
  simp [servedBy]

namespace MethodTable

theorem lookup_isSome_eq_false_iff {entries : List (String × Target σ)} :
    (entries.lookup method).isSome = false ↔ ∀ entry ∈ entries, entry.1 ≠ method := by
  rw [Option.isSome_eq_false_iff, Option.isNone_iff_eq_none, List.lookup_eq_none_iff]
  exact forall₂_congr fun entry _ => by rw [bne_iff_ne, ne_comm]

theorem add_eq_some_iff {t t' : MethodTable σ} :
    t.add method target = some t' ↔
      (∀ entry ∈ t.targets, entry.1 ≠ method) ∧
        t' = { targets := t.targets ++ [(method, target)]
               allow := t.allow ++ (allowedBy method).filter fun m => !t.allow.contains m } := by
  rw [add, ← lookup_isSome_eq_false_iff]
  cases (t.targets.lookup method).isSome with
  | true => simp
  | false => simpa using eq_comm

theorem exists_merge_iff {t t' : MethodTable σ} :
    (∃ merged, t.merge t' = some merged) ↔
      ∀ entry ∈ t'.targets, ∀ other ∈ t.targets, other.1 ≠ entry.1 := by
  simp only [← lookup_isSome_eq_false_iff]
  unfold merge
  split
  · rename_i both
    obtain ⟨entry, member, taken⟩ := List.any_eq_true.mp both
    exact iff_of_false (by simp) fun free => by simp [free entry member] at taken
  · rename_i free
    exact iff_of_true ⟨_, rfl⟩ (by simpa only [List.any_eq_true, not_exists, not_and,
      Bool.not_eq_true] using free)

end MethodTable

/-- A group more: what is served is what was served, and the new target. -/
theorem addToGroup_perm (added : addToGroup path method target groups = some groups') :
    (servedBy groups').Perm ((path, method, target) :: servedBy groups) := by
  induction groups generalizing groups' with
  | nil =>
      obtain ⟨t, made, rfl⟩ := Option.map_eq_some_iff.mp added
      obtain ⟨-, rfl⟩ := MethodTable.add_eq_some_iff.mp made
      exact .refl _
  | cons group rest ih =>
      rw [addToGroup] at added
      split at added
      · rename_i same
        obtain ⟨t, made, rfl⟩ := Option.map_eq_some_iff.mp added
        obtain ⟨-, rfl⟩ := MethodTable.add_eq_some_iff.mp made
        simp only [servedBy, List.flatMap_cons, List.map_append, List.map_cons, List.map_nil,
          List.append_assoc, ← same]
        exact List.perm_middle
      · split at added
        · obtain ⟨t, made, rfl⟩ := Option.map_eq_some_iff.mp added
          obtain ⟨-, rfl⟩ := MethodTable.add_eq_some_iff.mp made
          exact .refl _
        · obtain ⟨later, made, rfl⟩ := Option.map_eq_some_iff.mp added
          simp only [servedBy, List.flatMap_cons]
          exact ((ih made).append_left _).trans List.perm_middle

/-- The paths of some groups in order, each once, and none without a target. -/
structure Sorted (groups : List (String × MethodTable σ)) : Prop where
  ascending : (groups.map Prod.fst).Pairwise (· < ·)
  inhabited : ∀ group ∈ groups, group.2.targets ≠ []

namespace Sorted

theorem nil : Sorted ([] : List (String × MethodTable σ)) where
  ascending := .nil
  inhabited _ none := absurd none List.not_mem_nil

theorem nodup (sorted : Sorted groups) : (groups.map Prod.fst).Nodup :=
  sorted.ascending.imp fun less => ne_of_lt less

theorem tail {group : String × MethodTable σ} (sorted : Sorted (group :: groups)) : Sorted groups where
  ascending := (List.pairwise_cons.mp sorted.ascending).2
  inhabited g member := sorted.inhabited g (List.mem_cons_of_mem group member)

/-- The paths of some groups are those under which something is served. -/
theorem mem_paths (sorted : Sorted groups) :
    path ∈ groups.map Prod.fst ↔ path ∈ (servedBy groups).map Prod.fst := by
  simp only [List.mem_map, mem_servedBy, Prod.exists, exists_and_right, exists_eq_right]
  constructor
  · rintro ⟨t, member⟩
    obtain ⟨entry, inside⟩ := List.exists_mem_of_ne_nil _ (sorted.inhabited _ member)
    exact ⟨entry.1, entry.2, t, member, inside⟩
  · rintro ⟨-, -, t, member, -⟩
    exact ⟨t, member⟩

theorem mem_paths_of_add (added : addToGroup path method target groups = some groups') {p : String}
    (member : p ∈ groups'.map Prod.fst) : p = path ∨ p ∈ groups.map Prod.fst := by
  induction groups generalizing groups' with
  | nil =>
      obtain ⟨t, -, rfl⟩ := Option.map_eq_some_iff.mp added
      exact .inl (List.mem_singleton.mp member)
  | cons group rest ih =>
      rw [addToGroup] at added
      split at added
      · obtain ⟨t, -, rfl⟩ := Option.map_eq_some_iff.mp added
        exact .inr member
      · split at added
        · obtain ⟨t, -, rfl⟩ := Option.map_eq_some_iff.mp added
          exact List.mem_cons.mp member
        · obtain ⟨later, made, rfl⟩ := Option.map_eq_some_iff.mp added
          rcases List.mem_cons.mp member with first | other
          · exact .inr (first ▸ List.mem_cons_self)
          · exact (ih made other).imp_right (List.mem_cons_of_mem _)

theorem add (sorted : Sorted groups) (added : addToGroup path method target groups = some groups') :
    Sorted groups' := by
  induction groups generalizing groups' with
  | nil =>
      obtain ⟨t, made, rfl⟩ := Option.map_eq_some_iff.mp added
      obtain ⟨-, rfl⟩ := MethodTable.add_eq_some_iff.mp made
      exact ⟨List.pairwise_singleton _ _, by simp⟩
  | cons group rest ih =>
      obtain ⟨first, -⟩ := List.pairwise_cons.mp sorted.ascending
      rw [addToGroup] at added
      split at added
      · obtain ⟨t, made, rfl⟩ := Option.map_eq_some_iff.mp added
        obtain ⟨-, rfl⟩ := MethodTable.add_eq_some_iff.mp made
        exact ⟨sorted.ascending, List.forall_mem_cons.mpr ⟨by simp, sorted.tail.inhabited⟩⟩
      · rename_i other
        split at added
        · rename_i less
          obtain ⟨t, made, rfl⟩ := Option.map_eq_some_iff.mp added
          obtain ⟨-, rfl⟩ := MethodTable.add_eq_some_iff.mp made
          refine ⟨List.pairwise_cons.mpr ⟨fun p member => ?_, sorted.ascending⟩,
            List.forall_mem_cons.mpr ⟨by simp, sorted.inhabited⟩⟩
          rcases List.mem_cons.mp member with rfl | later
          · exact less
          · exact lt_trans less (first p later)
        · rename_i notLess
          obtain ⟨later, made, rfl⟩ := Option.map_eq_some_iff.mp added
          have rest := ih sorted.tail made
          refine ⟨List.pairwise_cons.mpr ⟨fun p member => ?_, rest.ascending⟩,
            List.forall_mem_cons.mpr ⟨sorted.inhabited _ List.mem_cons_self, rest.inhabited⟩⟩
          rcases mem_paths_of_add made member with rfl | old
          · exact lt_of_le_of_ne (not_lt.mp notLess) (Ne.symm other)
          · exact first p old

/-- A target can be added unless its method is served under its path. -/
theorem exists_add (sorted : Sorted groups)
    (free : ∀ x ∈ servedBy groups, (x.1, x.2.1) ≠ (path, method)) :
    ∃ groups', addToGroup path method target groups = some groups' := by
  induction groups with
  | nil => exact ⟨_, rfl⟩
  | cons group rest ih =>
      have later : ∀ x ∈ servedBy rest, (x.1, x.2.1) ≠ (path, method) := fun x member =>
        free x (List.mem_append_right _ member)
      obtain ⟨groups', added⟩ := ih sorted.tail later
      rw [addToGroup]
      split
      · rename_i same
        have unserved : ∀ entry ∈ group.2.targets, entry.1 ≠ method := by
          intro entry member taken
          have served : (group.1, entry) ∈ servedBy (group :: rest) :=
            mem_servedBy.mpr ⟨group.2, List.mem_cons_self, member⟩
          exact free _ served (by rw [same, taken])
        exact ⟨_, by rw [MethodTable.add_eq_some_iff.mpr ⟨unserved, rfl⟩, Option.map_some]⟩
      · split
        · exact ⟨_, rfl⟩
        · exact ⟨_, by rw [added, Option.map_some]⟩

end Sorted

/-- What an endpoint is to a table: its target under its path and method. -/
def Endpoint.served (e : Endpoint σ) : String × String × Target σ := (e.path, e.action.method, .endpoint e)

/-- Grouping more endpoints adds what they serve. -/
theorem groupByPath_perm_append {es : List (Endpoint σ)} (sorted : Sorted groups)
    (grouped : groupByPath groups es = .ok groups') :
    Sorted groups' ∧ (servedBy groups').Perm (es.map Endpoint.served ++ servedBy groups) := by
  induction es generalizing groups with
  | nil =>
      cases grouped
      exact ⟨sorted, .refl _⟩
  | cons e rest ih =>
      rw [groupByPath] at grouped
      cases added : addToGroup e.path e.action.method (.endpoint e) groups with
      | none => simp [added] at grouped
      | some groups'' =>
          simp only [added] at grouped
          obtain ⟨sorted', perm⟩ := ih (sorted.add added) grouped
          refine ⟨sorted', perm.trans ?_⟩
          exact ((addToGroup_perm added).append_left _).trans List.perm_middle

/-- **Grouping keeps the endpoints**, each under its own path and method. -/
theorem groupByPath_perm {es : List (Endpoint σ)} (grouped : groupByPath [] es = .ok groups) :
    Sorted groups ∧ (servedBy groups).Perm (es.map Endpoint.served) := by
  obtain ⟨sorted, perm⟩ := groupByPath_perm_append .nil grouped
  exact ⟨sorted, by simpa [servedBy] using perm⟩

/-- Endpoints of different methods or paths can be grouped. -/
theorem exists_groupByPath {es : List (Endpoint σ)} (sorted : Sorted groups)
    (distinct : (es.map fun e => (e.path, e.action.method)).Nodup)
    (free : ∀ e ∈ es, ∀ x ∈ servedBy groups, (x.1, x.2.1) ≠ (e.path, e.action.method)) :
    ∃ groups', groupByPath groups es = .ok groups' := by
  induction es generalizing groups with
  | nil => exact ⟨groups, rfl⟩
  | cons e rest ih =>
      obtain ⟨new, distinct⟩ := List.nodup_cons.mp distinct
      obtain ⟨groups'', added⟩ : ∃ groups'', addToGroup e.path e.action.method (.endpoint e) groups =
          some groups'' := sorted.exists_add (free e List.mem_cons_self)
      obtain ⟨groups', grouped⟩ := ih (sorted.add added) distinct fun other member x served => by
        rcases List.mem_cons.mp ((addToGroup_perm added).mem_iff.mp served) with rfl | old
        · intro same
          have named : (e.path, e.action.method) = (other.path, other.action.method) := same
          exact new (List.mem_map.mpr ⟨other, member, named.symm⟩)
        · exact free other (List.mem_cons_of_mem e member) x old
      exact ⟨groups', by rw [groupByPath, added]; exact grouped⟩

end

section

variable {σ : Type} {table table' : Route.Table (MethodTable σ)} {path : String} {methods : MethodTable σ}
  {groups : List (String × MethodTable σ)}

theorem addPath_of_notMem (new : path ∉ table.groups.map Prod.fst) :
    addPath table path methods = (table.insert path methods).mapError .path := by
  rw [addPath, Route.Table.get?_eq_none_iff.mpr new]

theorem addPath_of_notMem_eq_ok_iff (new : path ∉ table.groups.map Prod.fst) :
    addPath table path methods = .ok table' ↔ table.insert path methods = .ok table' := by
  rw [addPath_of_notMem new]
  cases table.insert path methods <;> simp [Except.mapError]

/-- **Groups make a table exactly if their paths are accepted and no two clash.** -/
theorem exists_addPaths_iff (divided : table.Divided)
    (distinct : (table.groups.map Prod.fst ++ groups.map Prod.fst).Nodup) :
    (∃ table', addPaths table groups = .ok table') ↔
      (∀ path ∈ groups.map Prod.fst, Route.Accepts path) ∧
        (∀ group ∈ table.groups, ∀ path ∈ groups.map Prod.fst, ¬Route.Clash group.1 path) ∧
          (groups.map Prod.fst).Pairwise fun p q => ¬Route.Clash p q := by
  induction groups generalizing table with
  | nil => simp [addPaths]
  | cons group rest ih =>
      obtain ⟨path, methods⟩ := group
      have new : path ∉ table.groups.map Prod.fst := by
        have apart := List.disjoint_of_nodup_append distinct
        exact fun old => apart old List.mem_cons_self
      have step : (∃ table', addPaths table ((path, methods) :: rest) = .ok table') ↔
          ∃ table'', table.insert path methods = .ok table'' ∧
            ∃ table', addPaths table'' rest = .ok table' := by
        rw [addPaths, addPath_of_notMem new]
        cases table.insert path methods <;> simp [Except.mapError]
      rw [step]
      constructor
      · rintro ⟨table'', inserted, more⟩
        obtain ⟨accepts, free⟩ := divided.exists_insert_iff.mp ⟨table'', inserted⟩
        obtain ⟨divided', grown⟩ := divided.insert inserted
        rw [ih divided' (by simpa [grown] using distinct), grown] at more
        obtain ⟨accepted, apart, pairwise⟩ := more
        refine ⟨List.forall_mem_cons.mpr ⟨accepts, accepted⟩, fun g member => ?_, ?_⟩
        · exact List.forall_mem_cons.mpr ⟨free g member, apart g (List.mem_append_left _ member)⟩
        · exact List.pairwise_cons.mpr ⟨apart (path, methods) (by simp), pairwise⟩
      · rintro ⟨accepted, apart, pairwise⟩
        obtain ⟨accepts, accepted⟩ := List.forall_mem_cons.mp accepted
        obtain ⟨first, pairwise⟩ := List.pairwise_cons.mp pairwise
        obtain ⟨table'', inserted⟩ : ∃ table'', table.insert path methods = .ok table'' :=
          divided.exists_insert_iff.mpr ⟨accepts, fun g member => apart g member path List.mem_cons_self⟩
        obtain ⟨divided', grown⟩ := divided.insert inserted
        refine ⟨table'', inserted, (ih divided' (by simpa [grown] using distinct)).mpr
          ⟨accepted, ?_, pairwise⟩⟩
        rw [grown]
        intro g member
        rcases List.mem_append.mp member with old | last
        · exact fun p inside => apart g old p (List.mem_cons_of_mem path inside)
        · rw [List.mem_singleton.mp last]
          exact first

/-- The groups of a table that is made of some groups are these. -/
theorem addPaths_groups (divided : table.Divided)
    (distinct : (table.groups.map Prod.fst ++ groups.map Prod.fst).Nodup)
    (added : addPaths table groups = .ok table') :
    table'.Divided ∧ table'.groups = table.groups ++ groups := by
  induction groups generalizing table with
  | nil =>
      cases added
      exact ⟨divided, by simp⟩
  | cons group rest ih =>
      obtain ⟨path, methods⟩ := group
      have new : path ∉ table.groups.map Prod.fst := by
        have apart := List.disjoint_of_nodup_append distinct
        exact fun old => apart old List.mem_cons_self
      rw [addPaths] at added
      cases first : addPath table path methods with
      | error e => simp [first] at added
      | ok table'' =>
          simp only [first] at added
          obtain ⟨divided', grown⟩ := divided.insert ((addPath_of_notMem_eq_ok_iff new).mp first)
          obtain ⟨divided'', more⟩ := ih divided' (by simpa [grown] using distinct) added
          exact ⟨divided'', by rw [more, grown, List.append_assoc, List.singleton_append]⟩

/-- What is served with one more path is what was served, and what the path brings. -/
theorem addPath_served (divided : table.Divided) (added : addPath table path methods = .ok table') :
    table'.Divided ∧ ∀ x ∈ servedBy table'.groups,
      x ∈ servedBy table.groups ∨ x.1 = path ∧ x.2 ∈ methods.targets := by
  cases found : table.get? path with
  | none =>
      have new := Route.Table.get?_eq_none_iff.mp found
      obtain ⟨divided', grown⟩ := divided.insert ((addPath_of_notMem_eq_ok_iff new).mp added)
      refine ⟨divided', fun x served => ?_⟩
      obtain ⟨t, member, inside⟩ := mem_servedBy.mp served
      rw [grown] at member
      rcases List.mem_append.mp member with old | last
      · exact .inl (mem_servedBy.mpr ⟨t, old, inside⟩)
      · cases List.mem_singleton.mp last
        exact .inr ⟨rfl, inside⟩
  | some existing =>
      simp only [addPath, found, MethodTable.merge] at added
      split at added
      · rename_i merged together
        cases added
        refine ⟨divided.replace path merged, fun x served => ?_⟩
        obtain ⟨t, member, inside⟩ := mem_servedBy.mp served
        rcases Route.Table.mem_groups_replace member with old | changed
        · exact .inl (mem_servedBy.mpr ⟨t, old, inside⟩)
        · obtain ⟨same, rfl⟩ := Prod.mk.injEq _ _ _ _ ▸ changed
          split at together
          · cases together
          · cases together
            rcases List.mem_append.mp inside with left | right
            · exact .inl (mem_servedBy.mpr
                ⟨existing, same ▸ Route.Table.mem_groups_of_get? found, left⟩)
            · exact .inr ⟨same, right⟩
      · cases added

/-- The path of other methods can be added if it is new and accepted and clashes with none, or if it is
there and none of its methods is among the new ones. -/
theorem exists_addPath_iff (divided : table.Divided) (distinct : (table.groups.map Prod.fst).Nodup) :
    (∃ table', addPath table path methods = .ok table') ↔
      (path ∈ table.groups.map Prod.fst → ∀ x ∈ servedBy table.groups, x.1 = path →
          ∀ entry ∈ methods.targets, x.2.1 ≠ entry.1) ∧
        (path ∉ table.groups.map Prod.fst →
          Route.Accepts path ∧ ∀ group ∈ table.groups, ¬Route.Clash group.1 path) := by
  cases found : table.get? path with
  | none =>
      have new := Route.Table.get?_eq_none_iff.mp found
      simp only [addPath_of_notMem_eq_ok_iff new, divided.exists_insert_iff, new, false_imp_iff,
        true_and, not_false_eq_true, true_imp_iff]
  | some existing =>
      have group := Route.Table.mem_groups_of_get? found
      have old : path ∈ table.groups.map Prod.fst := List.mem_map_of_mem group
      have only : ∀ t, (path, t) ∈ table.groups → t = existing := fun t member =>
        congrArg Prod.snd (List.inj_on_of_nodup_map distinct member group rfl)
      have merges : (∃ table', addPath table path methods = .ok table') ↔
          ∃ merged, existing.merge methods = some merged := by
        simp only [addPath, found]
        cases existing.merge methods <;> simp
      rw [merges, MethodTable.exists_merge_iff]
      simp only [old, true_imp_iff, not_true_eq_false, false_imp_iff, and_true]
      constructor
      · intro free x served here entry member
        obtain ⟨t, grouped, inside⟩ := mem_servedBy.mp served
        rw [only t (here ▸ grouped)] at inside
        exact free entry member x.2 inside
      · intro free entry member other inside
        exact free (path, other) (mem_servedBy.mpr ⟨existing, group, inside⟩) rfl entry member

end

section

variable {σ : Type} {site : Site σ} {router : Router σ}

/-- The table of the endpoints of a site, before the path of the document is added. -/
theorem Site.exists_table {groups : List (String × MethodTable σ)} {table : Route.Table (MethodTable σ)}
    (grouped : groupByPath [] site.endpoints = .ok groups) (added : addPaths .empty groups = .ok table) :
    table.Divided ∧ Sorted table.groups ∧
      (servedBy table.groups).Perm (site.endpoints.map Endpoint.served) := by
  obtain ⟨sorted, perm⟩ := groupByPath_perm grouped
  obtain ⟨divided, made⟩ := addPaths_groups Route.Table.divided_empty sorted.nodup added
  have same : table.groups = groups := made
  exact ⟨divided, same ▸ sorted, same ▸ perm⟩

/-- **A router serves the endpoints of its site under their own paths and methods**, and nothing else but
the document. -/
theorem Site.router?_served (routed : site.router? = .ok router) :
    router.site = site ∧ router.table.Divided ∧ ∀ x ∈ servedBy router.table.groups,
      (∃ e ∈ site.endpoints, x = e.served) ∨ x = (site.config.documentPath, "GET", .document) := by
  unfold Site.router? at routed
  cases grouped : groupByPath [] site.endpoints with
  | error e => simp [grouped] at routed
  | ok groups =>
      cases added : addPaths .empty groups with
      | error e => simp [grouped, added] at routed
      | ok table =>
          obtain ⟨divided, -, perm⟩ := Site.exists_table grouped added
          have own : ∀ x ∈ servedBy table.groups, ∃ e ∈ site.endpoints, x = e.served := by
            intro x served
            obtain ⟨e, member, rfl⟩ := List.mem_map.mp (perm.mem_iff.mp served)
            exact ⟨e, member, rfl⟩
          simp only [grouped, added] at routed
          split at routed
          · cases documented : addPath table site.config.documentPath documentMethods with
            | error e => simp [documented, Except.map] at routed
            | ok table' =>
                simp only [documented, Except.map, Except.ok.injEq] at routed
                subst routed
                obtain ⟨divided', served⟩ := addPath_served divided documented
                refine ⟨rfl, divided', fun x member => ?_⟩
                rcases served x member with old | ⟨path, new⟩
                · exact .inl (own x old)
                · exact .inr (Prod.ext path (List.mem_singleton.mp new))
          · cases routed
            exact ⟨rfl, divided, fun x member => .inl (own x member)⟩

section

variable {es : List (Endpoint σ)} {groups : List (String × MethodTable σ)}

/-- The paths of the groups of some endpoints are theirs. -/
theorem Sorted.mem_paths_iff (sorted : Sorted groups)
    (perm : (servedBy groups).Perm (es.map Endpoint.served)) (path : String) :
    path ∈ groups.map Prod.fst ↔ ∃ e ∈ es, e.path = path := by
  rw [sorted.mem_paths, (perm.map Prod.fst).mem_iff]
  simp [Endpoint.served]

/-- The groups of some endpoints make a table exactly if every path is accepted and paths that clash are
the same. -/
theorem exists_addPaths_empty_iff (sorted : Sorted groups)
    (perm : (servedBy groups).Perm (es.map Endpoint.served)) :
    (∃ table, addPaths .empty groups = .ok table) ↔
      (∀ e ∈ es, Route.Accepts e.path) ∧
        ∀ e ∈ es, ∀ e' ∈ es, Route.Clash e.path e'.path → e.path = e'.path := by
  have path := sorted.mem_paths_iff perm
  have symmetric : Std.Symm fun p q => ¬Route.Clash p q := ⟨fun p q apart clash => apart clash.symm⟩
  rw [exists_addPaths_iff Route.Table.divided_empty sorted.nodup]
  constructor
  · rintro ⟨accepts, -, pairwise⟩
    refine ⟨fun e member => accepts e.path ((path _).mpr ⟨e, member, rfl⟩), ?_⟩
    intro e member e' member' clash
    by_contra other
    exact pairwise.forall ((path _).mpr ⟨e, member, rfl⟩) ((path _).mpr ⟨e', member', rfl⟩) other clash
  · rintro ⟨accepts, agree⟩
    refine ⟨fun p member => ?_, fun _ none => absurd none List.not_mem_nil, ?_⟩
    · obtain ⟨e, mine, rfl⟩ := (path p).mp member
      exact accepts e mine
    · refine sorted.nodup.pairwise_of_forall_ne fun p member q member' other clash => ?_
      obtain ⟨e, mine, rfl⟩ := (path p).mp member
      obtain ⟨e', mine', rfl⟩ := (path q).mp member'
      exact other (agree e mine e' mine' clash)

/-- The document can be served beside some endpoints exactly if its path is accepted, clashes with none but
itself, and is no endpoint's for GET. -/
theorem exists_addPath_document_iff {table : Route.Table (MethodTable σ)} {document : String}
    (divided : table.Divided) (sorted : Sorted table.groups)
    (perm : (servedBy table.groups).Perm (es.map Endpoint.served))
    (accepts : ∀ e ∈ es, Route.Accepts e.path)
    (agree : ∀ e ∈ es, ∀ e' ∈ es, Route.Clash e.path e'.path → e.path = e'.path) :
    (∃ table', addPath table document documentMethods = .ok table') ↔
      Route.Accepts document ∧ ∀ e ∈ es, (Route.Clash e.path document → e.path = document) ∧
        (e.path = document → e.action.method ≠ "GET") := by
  have path := sorted.mem_paths_iff perm
  rw [exists_addPath_iff divided sorted.nodup]
  by_cases there : document ∈ table.groups.map Prod.fst
  -- An endpoint has the path, so it is accepted and clashes with no other; only the method is left.
  · obtain ⟨own, mine, rfl⟩ := (path document).mp there
    simp only [there, true_imp_iff, not_true_eq_false, false_imp_iff, and_true]
    constructor
    · intro free
      refine ⟨accepts own mine, fun e member => ⟨agree e member own mine, fun same => ?_⟩⟩
      exact free e.served (perm.mem_iff.mpr (List.mem_map_of_mem member)) same ("GET", .document)
        List.mem_cons_self
    · rintro ⟨-, free⟩ x served here entry member
      obtain ⟨e, listed, rfl⟩ := List.mem_map.mp (perm.mem_iff.mp served)
      rw [List.mem_singleton.mp member]
      exact (free e listed).2 here
  · have other : ∀ e ∈ es, e.path ≠ document := fun e member same =>
      there ((path document).mpr ⟨e, member, same⟩)
    simp only [there, false_imp_iff, true_and, not_false_eq_true, true_imp_iff]
    refine and_congr_right fun _ => ?_
    constructor
    · intro free e member
      obtain ⟨group, grouped, named⟩ := List.mem_map.mp ((path e.path).mpr ⟨e, member, rfl⟩)
      exact ⟨fun clash => absurd (named ▸ clash) (free group grouped),
        fun same => absurd same (other e member)⟩
    · intro free group grouped clash
      obtain ⟨e, member, named⟩ := (path group.1).mp (List.mem_map_of_mem grouped)
      exact other e member ((free e member).1 (named ▸ clash))

end

/-- **When a site has a router.**  Its endpoints differ in path or method; then there is a router exactly if
every path is accepted, paths that clash are the same, and the path of the document, if it is served, is
accepted, clashes with none but itself, and is no endpoint's for GET. -/
theorem Site.exists_router?_iff
    (distinct : (site.endpoints.map fun e => (e.path, e.action.method)).Nodup) :
    (∃ router, site.router? = .ok router) ↔
      (∀ e ∈ site.endpoints, Route.Accepts e.path) ∧
        (∀ e ∈ site.endpoints, ∀ e' ∈ site.endpoints, Route.Clash e.path e'.path → e.path = e'.path) ∧
          (site.config.documented = true → Route.Accepts site.config.documentPath ∧
            ∀ e ∈ site.endpoints,
              (Route.Clash e.path site.config.documentPath → e.path = site.config.documentPath) ∧
                (e.path = site.config.documentPath → e.action.method ≠ "GET")) := by
  obtain ⟨groups, grouped⟩ : ∃ groups, groupByPath [] site.endpoints = .ok groups :=
    exists_groupByPath .nil distinct fun _ _ x none => absurd none List.not_mem_nil
  obtain ⟨sorted, perm⟩ := groupByPath_perm grouped
  rw [← and_assoc, ← exists_addPaths_empty_iff sorted perm]
  cases added : addPaths .empty groups with
  | error e => simp [Site.router?, grouped, added]
  | ok table =>
      obtain ⟨divided, sorted', perm'⟩ := Site.exists_table grouped added
      obtain ⟨accepts, agree⟩ := (exists_addPaths_empty_iff sorted perm).mp ⟨table, added⟩
      rw [← exists_addPath_document_iff divided sorted' perm' accepts agree]
      cases documented : site.config.documented with
      | false => simp [Site.router?, grouped, added, documented]
      | true =>
          simp only [Site.router?, grouped, added, documented, ↓reduceIte, true_imp_iff]
          cases addPath table site.config.documentPath documentMethods <;> simp [Except.map]

end

end HandlerChain
