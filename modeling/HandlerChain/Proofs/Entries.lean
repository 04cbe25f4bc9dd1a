import Mathlib.Data.List.Nodup
import Mathlib.Data.String.Basic

/-!
# Lists of entries

Tables, objects and the sections of a configuration are lists of entries, each under a key.  Where the keys are
distinct, an entry is found exactly if it is listed.  An entry that is put into its place replaces the one with
its key, so of two entries under one key the later is found; under two keys their order does not matter.

## Main Definitions

* `Insertion` is what the readers of settings and of JSON do with an entry.

## Main Results

* `lookup_eq_some_iff_mem`, `lookup_filter` and `lookup_perm`: what is found among distinct keys.
* `mergeSort_eq_of_perm`: distinct keys are sorted in one way.
* `Insertion.lookup_self`, `Insertion.lookup_of_ne` and `Insertion.put_comm`: what is left of two entries that were
  put one after the other.
-/

namespace HandlerChain

section

variable {α β : Type} [BEq α] [LawfulBEq α] {entries : List (α × β)} {key : α} {value : β}

theorem mem_of_lookup (found : entries.lookup key = some value) : (key, value) ∈ entries := by
  obtain ⟨before, after, split, -⟩ := List.lookup_eq_some_iff.mp found
  simp [split]

/-- Where each key has one value, a look-up finds what is there. -/
theorem lookup_eq_some_iff_mem (distinct : (entries.map Prod.fst).Nodup) :
    entries.lookup key = some value ↔ (key, value) ∈ entries := by
  refine ⟨mem_of_lookup, fun member => ?_⟩
  rw [List.lookup_eq_some_iff]
  obtain ⟨before, after, rfl⟩ := List.append_of_mem member
  refine ⟨before, after, rfl, fun entry earlier => bne_iff_ne.mpr fun same => ?_⟩
  rw [List.map_append, List.map_cons] at distinct
  exact (List.disjoint_of_nodup_append distinct) (List.mem_map_of_mem earlier) (same ▸ List.mem_cons_self)

/-- Among distinct keys, an entry that is taken out leaves no other one under its key. -/
theorem lookup_filter (distinct : (entries.map Prod.fst).Nodup) (keep : α × β → Bool) (key : α) :
    (entries.filter keep).lookup key = (entries.lookup key).filter fun value => keep (key, value) := by
  have distinct' : ((entries.filter keep).map Prod.fst).Nodup :=
    distinct.sublist (List.filter_sublist.map Prod.fst)
  ext value
  rw [lookup_eq_some_iff_mem distinct', List.mem_filter, Option.filter_eq_some_iff,
    lookup_eq_some_iff_mem distinct]

/-- Where each key has one value, the order of the entries does not matter. -/
theorem lookup_perm {entries' : List (α × β)} (distinct : (entries.map Prod.fst).Nodup)
    (perm : entries'.Perm entries) (key : α) : entries'.lookup key = entries.lookup key := by
  have distinct' : (entries'.map Prod.fst).Nodup := (perm.map Prod.fst).nodup_iff.mpr distinct
  ext value
  rw [lookup_eq_some_iff_mem distinct', lookup_eq_some_iff_mem distinct, perm.mem_iff]

end

/-- Where each key has one value, there is one way to sort the entries by their keys. -/
theorem mergeSort_eq_of_perm {α κ : Type} {le : α → α → Bool} {keyOf : α → κ} {entries entries' : List α}
    (trans : ∀ a b c, le a b = true → le b c = true → le a c = true) (total : ∀ a b, (le a b || le b a) = true)
    (antisymm : ∀ a b, le a b = true → le b a = true → keyOf a = keyOf b)
    (distinct : (entries.map keyOf).Nodup) (perm : entries'.Perm entries) :
    entries'.mergeSort le = entries.mergeSort le := by
  have sorted (entries : List α) := List.pairwise_mergeSort trans total entries
  have same : (entries'.mergeSort le).Perm (entries.mergeSort le) :=
    (List.mergeSort_perm entries' le).trans (perm.trans (List.mergeSort_perm entries le).symm)
  refine same.eq_of_pairwise (fun a b member member' first second => ?_) (sorted entries') (sorted entries)
  refine List.inj_on_of_nodup_map distinct ?_ ((List.mergeSort_perm entries le).mem_iff.mp member')
    (antisymm a b first second)
  exact perm.mem_iff.mp ((List.mergeSort_perm entries' le).mem_iff.mp member)

/-- A way to put an entry into its place among sorted ones, where it replaces an entry with its key. -/
structure Insertion {α : Type} (put : String → α → List (String × α) → List (String × α)) : Prop where
  nil (key : String) (value : α) : put key value [] = [(key, value)]
  cons (key : String) (value : α) (k : String) (v : α) (rest : List (String × α)) :
    put key value ((k, v) :: rest) =
      if key = k then (key, value) :: rest
      else if key < k then (key, value) :: (k, v) :: rest
      else (k, v) :: put key value rest

namespace Insertion

variable {α : Type} {put : String → α → List (String × α) → List (String × α)}

theorem lookup_self (insertion : Insertion put) (key : String) (value : α) (entries : List (String × α)) :
    (put key value entries).lookup key = some value := by
  induction entries with
  | nil => simp [insertion.nil]
  | cons entry rest ih =>
      obtain ⟨k, v⟩ := entry
      rw [insertion.cons]
      split_ifs with same less
      · simp
      · simp
      · rw [List.lookup_cons, beq_false_of_ne same]
        exact ih

theorem lookup_of_ne (insertion : Insertion put) {key other : String} (apart : other ≠ key) (value : α)
    (entries : List (String × α)) : (put key value entries).lookup other = entries.lookup other := by
  induction entries with
  | nil => simp [insertion.nil, apart]
  | cons entry rest ih =>
      obtain ⟨k, v⟩ := entry
      rw [insertion.cons]
      split_ifs with same less
      · subst same
        rw [List.lookup_cons, List.lookup_cons, beq_false_of_ne apart]
      · rw [List.lookup_cons, beq_false_of_ne apart]
      · rw [List.lookup_cons, List.lookup_cons, ih]

/-- An entry whose key is smaller comes to stand in front, whether it is put there before or after the other. -/
theorem put_comm_of_lt (insertion : Insertion put) {key other : String} (less : key < other) (value value' : α)
    (entries : List (String × α)) :
    put key value (put other value' entries) = put other value' (put key value entries) := by
  have apart : other ≠ key := less.ne'
  have after : ¬other < key := less.asymm
  induction entries with
  | nil => rw [insertion.nil, insertion.nil, insertion.cons, if_neg less.ne, if_pos less, insertion.cons,
      if_neg apart, if_neg after, insertion.nil]
  | cons entry rest ih =>
      obtain ⟨k, v⟩ := entry
      have behind (rest : List (String × α)) :
          put other value' ((key, value) :: rest) = (key, value) :: put other value' rest := by
        rw [insertion.cons, if_neg apart, if_neg after]
      have front (rest : List (String × α)) :
          put key value ((other, value') :: rest) = (key, value) :: (other, value') :: rest := by
        rw [insertion.cons, if_neg less.ne, if_pos less]
      rcases lt_trichotomy key k with first | rfl | first
      · -- Both keys go in front of what stands behind the smaller one.
        rw [insertion.cons key value k, if_neg first.ne, if_pos first, behind, insertion.cons other value' k]
        split_ifs with same second
        · rw [front]
        · rw [front]
        · rw [insertion.cons, if_neg first.ne, if_pos first]
      · rw [insertion.cons other value' key, if_neg apart, if_neg after, insertion.cons key value key,
          if_pos rfl, insertion.cons key value key, if_pos rfl, behind]
      · have second : k < other := first.trans less
        rw [insertion.cons other value' k, if_neg second.ne', if_neg second.asymm, insertion.cons key value k,
          if_neg first.ne', if_neg first.asymm, insertion.cons key value k, if_neg first.ne', if_neg first.asymm,
          insertion.cons other value' k, if_neg second.ne', if_neg second.asymm, ih]

/-- Two entries under different keys are put in either order. -/
theorem put_comm (insertion : Insertion put) {key other : String} (apart : key ≠ other) (value value' : α)
    (entries : List (String × α)) :
    put key value (put other value' entries) = put other value' (put key value entries) := by
  rcases lt_or_gt_of_ne apart with less | less
  · exact insertion.put_comm_of_lt less value value' entries
  · exact (insertion.put_comm_of_lt less value' value entries).symm

end Insertion

end HandlerChain
