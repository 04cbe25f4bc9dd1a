import HandlerChain.Handler.Logic
import HandlerChain.Value.Uuid

/-!
# The registry of handlers

Handlers are kept under keys that are drawn from a source of candidates. A candidate that is taken is
passed over, so candidates may repeat as long as new ones keep coming.

## Main Definitions

* `HandlerKey` is a key, `KeySource` a source of candidates.
* `Registry` holds handlers by key; `Registry.add` stores one under a new key.
-/

namespace HandlerChain

/-- The key of a handler. -/
structure HandlerKey where
  number : Nat
  deriving DecidableEq, Repr, Inhabited

/-- The text of a key. -/
def HandlerKey.text (k : HandlerKey) : String :=
  "handler-" ++ (Uuid.mk (BitVec.ofNat 128 k.number)).render

/-- A source of candidates for keys, of which the first `drawn` are used up. However many keys are
taken, a candidate that is not among them is still to come. -/
structure KeySource where
  candidate : Nat → HandlerKey
  drawn : Nat
  fresh : ∀ (taken : List HandlerKey) (n : Nat), ∃ m, n ≤ m ∧ candidate m ∉ taken

namespace KeySource

/-- Some number is above those of all keys that are taken. -/
theorem exists_bound (taken : List HandlerKey) : ∃ bound, ∀ key ∈ taken, key.number < bound := by
  induction taken with
  | nil => exact ⟨0, by simp⟩
  | cons key rest ih =>
      obtain ⟨bound, below⟩ := ih
      refine ⟨max bound (key.number + 1), fun other member => ?_⟩
      rcases List.mem_cons.mp member with rfl | member
      · omega
      · have := below other member
        omega

/-- Counting goes past all keys that are taken. -/
theorem counting_fresh (taken : List HandlerKey) (n : Nat) : ∃ m, n ≤ m ∧ HandlerKey.mk m ∉ taken := by
  obtain ⟨bound, below⟩ := exists_bound taken
  refine ⟨max n bound, Nat.le_max_left n bound, fun member => ?_⟩
  exact absurd (below _ member) (Nat.not_lt.mpr (Nat.le_max_right n bound))

/-- The source that counts. -/
def counting : KeySource where
  candidate n := ⟨n⟩
  drawn := 0
  fresh := counting_fresh

instance : Inhabited KeySource := ⟨counting⟩

/-- The search for a candidate that is not taken ends. -/
theorem search_ends (s : KeySource) (taken : List HandlerKey) (n : Nat) :
    Acc (fun a b => a = b + 1 ∧ s.candidate b ∈ taken) n := by
  obtain ⟨m, after, free⟩ := s.fresh taken n
  obtain ⟨d, rfl⟩ := Nat.exists_eq_add_of_le after
  clear after
  -- `d` more candidates may be taken before the free one.
  induction d generalizing n with
  | zero => exact ⟨_, fun m step => absurd step.2 free⟩
  | succ d ih => exact ⟨_, fun m step => step.1 ▸ ih (n + 1) (by rwa [Nat.add_right_comm, Nat.add_assoc])⟩

/-- From any position, only finitely many candidates in a row are taken. -/
theorem search_wellFounded (s : KeySource) (taken : List HandlerKey) :
    WellFounded (fun a b => a = b + 1 ∧ s.candidate b ∈ taken) :=
  ⟨s.search_ends taken⟩

/-- The position of the first candidate, from `n` on, that is not taken. -/
def firstFree (s : KeySource) (taken : List HandlerKey) (n : Nat) : Nat :=
  if s.candidate n ∈ taken then s.firstFree taken (n + 1) else n
termination_by (s.search_wellFounded taken).wrap n
decreasing_by exact ⟨rfl, by assumption⟩

/-- A key that is not taken, and the source without the candidates used up. -/
def draw (s : KeySource) (taken : List HandlerKey) : HandlerKey × KeySource :=
  let i := s.firstFree taken s.drawn
  (s.candidate i, { s with drawn := i + 1 })

end KeySource

/-- Handlers by key, the newest first. -/
structure Registry (σ : Type) where
  entries : List (HandlerKey × Logic σ)

namespace Registry

variable {σ : Type}

/-- No handler. -/
def empty : Registry σ := ⟨[]⟩

/-- The keys that are taken. -/
def keys (r : Registry σ) : List HandlerKey := r.entries.map Prod.fst

/-- The handler under a key. -/
def get? (r : Registry σ) (k : HandlerKey) : Option (Logic σ) := r.entries.lookup k

/-- The number of handlers. -/
def size (r : Registry σ) : Nat := r.entries.length

/-- Stores a handler under a new key. -/
def add (r : Registry σ) (s : KeySource) (l : Logic σ) : HandlerKey × Registry σ × KeySource :=
  let (k, s) := s.draw r.keys
  (k, ⟨(k, l) :: r.entries⟩, s)

end Registry

end HandlerChain
