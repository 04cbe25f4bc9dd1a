import HandlerChain.Unit.Registry
import Mathlib.Data.List.Basic

/-!
# Registries only grow

A key that is drawn is not taken, so storing a handler never replaces another one.  What a key leads to
once, it leads to for ever: this is what lets a unit keep keys in place of handlers.

## Main Definitions

* `Registry.Grows` relates a registry to those that storing more handlers makes of it.

## Main Results

* `Registry.get?_add_self` and `Registry.get?_add_of_some` say what storing one handler does to look-ups.
* `Registry.Grows.get?` says the second of any number of handlers.
-/

namespace HandlerChain

/-- The search for a free candidate finds one. -/
theorem KeySource.candidate_firstFree_notMem (s : KeySource) (taken : List HandlerKey) (n : Nat) :
    s.candidate (s.firstFree taken n) ∉ taken := by
  -- The induction is that of the search itself: a candidate that is taken leads to the next one.
  induction n using (s.search_wellFounded taken).induction with
  | _ n ih =>
    unfold firstFree
    split
    · rename_i occupied
      exact ih (n + 1) ⟨rfl, occupied⟩
    · assumption

namespace Registry

variable {σ : Type}

/-- The key under which a handler is stored was free. -/
theorem add_fst_notMem (r : Registry σ) (s : KeySource) (l : Logic σ) :
    (r.add s l).1 ∉ r.keys :=
  s.candidate_firstFree_notMem r.keys s.drawn

@[simp] theorem add_entries (r : Registry σ) (s : KeySource) (l : Logic σ) :
    (r.add s l).2.1.entries = ((r.add s l).1, l) :: r.entries := rfl

theorem get?_add_self (r : Registry σ) (s : KeySource) (l : Logic σ) :
    (r.add s l).2.1.get? (r.add s l).1 = some l := by
  simp [get?]

theorem mem_entries_of_get? {r : Registry σ} {k : HandlerKey} {l : Logic σ}
    (found : r.get? k = some l) : (k, l) ∈ r.entries := by
  obtain ⟨before, after, split, -⟩ := List.lookup_eq_some_iff.mp found
  simp [split]

theorem mem_keys_of_get? {r : Registry σ} {k : HandlerKey} {l : Logic σ}
    (found : r.get? k = some l) : k ∈ r.keys :=
  List.mem_map_of_mem (mem_entries_of_get? found)

theorem exists_get?_of_mem_keys {r : Registry σ} {k : HandlerKey} (taken : k ∈ r.keys) :
    ∃ l, r.get? k = some l := by
  obtain ⟨entry, member, rfl⟩ := List.mem_map.mp taken
  refine Option.ne_none_iff_exists'.mp fun absent => ?_
  exact bne_iff_ne.mp (List.lookup_eq_none_iff.mp absent entry member) rfl

theorem get?_add_of_some {r : Registry σ} {k : HandlerKey} {l : Logic σ}
    (found : r.get? k = some l) (s : KeySource) (new : Logic σ) :
    (r.add s new).2.1.get? k = some l := by
  have different : k ≠ (r.add s new).1 := fun same =>
    r.add_fst_notMem s new (same ▸ mem_keys_of_get? found)
  rw [get?, add_entries, List.lookup_cons, beq_false_of_ne different]
  exact found

/-- `r.Grows r'` if `r'` comes from `r` by storing any number of handlers, under keys from any sources.
-/
inductive Grows (r : Registry σ) : Registry σ → Prop where
  | refl : Grows r r
  | add {r' : Registry σ} (s : KeySource) (l : Logic σ) : Grows r r' → Grows r (r'.add s l).2.1

namespace Grows

variable {r r' r'' : Registry σ}

theorem trans (first : r.Grows r') (second : r'.Grows r'') : r.Grows r'' := by
  induction second with
  | refl => exact first
  | add s l _ ih => exact ih.add s l

/-- **A key keeps its handler** while the registry grows. -/
theorem get? (grows : r.Grows r') {k : HandlerKey} {l : Logic σ} (found : r.get? k = some l) :
    r'.get? k = some l := by
  induction grows with
  | refl => exact found
  | add s new _ ih => exact get?_add_of_some ih s new

end Grows

end Registry

end HandlerChain
