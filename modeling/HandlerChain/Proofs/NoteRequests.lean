import HandlerChain.Notes.Desk
import HandlerChain.Proofs.Entries
import HandlerChain.Proofs.Threading
import Mathlib.Data.List.Perm.Basic

/-!
# Requests to the store of notes

Requests take turns at the store of notes, and the creation of a note takes several of them.  What holds between
the turns is a fact about the creations and the store together: the numbers that were taken are those from two on,
one for each creation that has come so far, and the store has the first note and those of the creations that have
put theirs in.  The order in which the creations began plays no part in it, so a turn is a step of any one of them.

From it all answers follow.  No two creations have one number, a note that was put into the store is never replaced,
and a search goes through what was put in so far.

## Main Definitions

* `Creation.Of` says what a creation comes from; `Creation.note?` is its note, `Creation.kept?` its note in the store.
* `NoteStore.Consistent` is what holds of a store and the creations that work on it, `Desk.Sound` of a desk after
  some turns.

## Main Results

* `NoteStore.exists_search` and `NoteStore.search_perm`: what a search lists, in whatever order notes are kept.
* `NoteStore.Consistent.advance`: a step of any creation keeps store and creations consistent.
* `Desk.Sound.take` and `Desk.Sound.run`: turns keep a desk sound.
* `Desk.run_consistent`: what requests get, whichever turn is next.
* `Desk.run_alone`, `Notes.invoke_createNote`, `Notes.invoke_getNote`, `Notes.invoke_searchNotes`: these are the turns
  of the actions on notes.
-/

namespace HandlerChain

/-! ### Searching -/

/-- A text is a part of another if it stands somewhere in it as a whole. -/
theorem isPartOf_iff {part text : List Char} : isPartOf part text = true ↔ part <:+: text := by
  induction text with
  | nil => rw [isPartOf, List.isEmpty_iff, List.infix_nil]
  | cons c rest ih => rw [isPartOf, Bool.or_eq_true, List.isPrefixOf_iff_prefix, ih, List.infix_cons_iff]

namespace NoteStore

variable {s : NoteStore} {n : Note}

/-- Where numbers are distinct, a note is found by its number exactly if it is in the store. -/
theorem find?_eq_some_iff (distinct : (s.notes.map Note.id).Nodup) {id : NoteId} :
    s.find? id = some n ↔ n ∈ s.notes ∧ n.id = id := by
  rw [find?]
  constructor
  · exact fun found => ⟨List.mem_of_find?_eq_some found, by simpa using List.find?_some found⟩
  · rintro ⟨member, rfl⟩
    obtain ⟨m, found⟩ : ∃ m, s.notes.find? (fun m => m.id = n.id) = some m :=
      Option.isSome_iff_exists.mp (List.find?_isSome.mpr ⟨n, member, by simp⟩)
    have same : m.id = n.id := by simpa using List.find?_some found
    rw [found, List.inj_on_of_nodup_map distinct (List.mem_of_find?_eq_some found) member same]

theorem before_iff {a b : Note} : before a b = true ↔ a.id.val ≤ b.id.val := decide_eq_true_iff

theorem before_trans (a b c : Note) (first : before a b = true) (second : before b c = true) : before a c = true :=
  before_iff.mpr ((before_iff.mp first).trans (before_iff.mp second))

theorem before_total (a b : Note) : (before a b || before b a) = true := by
  simpa only [Bool.or_eq_true, before_iff] using Int.le_total _ _

/-- **A search lists the notes that match, by number, and cuts off what is beyond the limit.** -/
theorem exists_search (distinct : (s.notes.map Note.id).Nodup) (query : String) (limit : Nat) :
    ∃ all : List Note, s.search query limit = all.take limit ∧ all.Pairwise (fun a b => a.id.val < b.id.val) ∧
      ∀ n, n ∈ all ↔ n ∈ s.notes ∧ (Text.lowerCase query).toList <:+: (Text.lowerCase n.title).toList := by
  let all := (s.notes.filter fun n => n.matchesQuery query).mergeSort before
  have perm : all.Perm (s.notes.filter fun n => n.matchesQuery query) := List.mergeSort_perm _ before
  refine ⟨all, rfl, ?_, fun n => ?_⟩
  · have sorted : all.Pairwise fun a b => before a b = true := List.pairwise_mergeSort before_trans before_total _
    have apart : all.Pairwise fun a b => a.id ≠ b.id :=
      List.pairwise_map.mp ((perm.map Note.id).nodup_iff.mpr (distinct.sublist (List.filter_sublist.map Note.id)))
    refine (sorted.and apart).imp fun both => (before_iff.mp both.1).lt_of_ne fun same => ?_
    exact both.2 (IntKind.Number.ext same)
  · rw [perm.mem_iff, List.mem_filter, Note.matchesQuery, isPartOf_iff]

/-- Where numbers are distinct, a search does not depend on the order in which notes are kept. -/
theorem search_perm (distinct : (s.notes.map Note.id).Nodup) {order : List Note} (perm : order.Perm s.notes)
    (query : String) (limit : Nat) : { s with notes := order }.search query limit = s.search query limit := by
  refine congrArg (List.take limit) (mergeSort_eq_of_perm before_trans before_total
    (fun a b first second => ?_) (distinct.sublist (List.filter_sublist.map Note.id)) (perm.filter _))
  exact IntKind.Number.ext (le_antisymm (before_iff.mp first) (before_iff.mp second))

end NoteStore

/-! ### Creations -/

namespace Creation

/-- The note of a creation, once it has a number. -/
def note? : Creation → Option Note
  | submitted _ | trimmed _ => none
  | numbered n | stored n | returned n => some n

/-- The note of a creation, once it is in the store. -/
def kept? : Creation → Option Note
  | submitted _ | trimmed _ | numbered _ => none
  | stored n | returned n => some n

/-- How far a creation can have come with what was submitted. -/
inductive Of (new : NewNote) : Creation → Prop where
  | submitted : Of new (.submitted new)
  | trimmed : Of new (.trimmed new.trimmed)
  | numbered (id : NoteId) : Of new (.numbered (new.trimmed.numbered id))
  | stored (id : NoteId) : Of new (.stored (new.trimmed.numbered id))
  | returned (id : NoteId) : Of new (.returned (new.trimmed.numbered id))

variable {new : NewNote} {c : Creation}

theorem Of.advance (origin : Of new c) (s : NoteStore) : Of new (c.advance s).2.1 := by
  cases origin with
  | submitted => exact .trimmed
  | trimmed => exact .numbered _
  | numbered id => exact .stored id
  | stored id => exact .returned id
  | returned id => exact .returned id

/-- The steps that a creation has left. -/
def stepsLeft : Creation → Nat
  | submitted _ => 4
  | trimmed _ => 3
  | numbered _ => 2
  | stored _ => 1
  | returned _ => 0

theorem stepsLeft_le (c : Creation) : c.stepsLeft ≤ 4 := by cases c <;> simp [stepsLeft]

theorem stepsLeft_advance (c : Creation) (s : NoteStore) : (c.advance s).2.1.stepsLeft = c.stepsLeft - 1 := by
  cases c <;> rfl

theorem stepsLeft_eq_zero_iff : c.stepsLeft = 0 ↔ ∃ n, c = .returned n := by
  cases c <;> simp [stepsLeft]

/-- A note in the store has a number, so what is kept is part of what is numbered. -/
theorem kept_sublist (creations : List Creation) : (creations.filterMap kept?).Sublist (creations.filterMap note?) := by
  induction creations with
  | nil => exact .slnil
  | cons c rest ih =>
      cases c with
      | submitted | trimmed => exact ih
      | numbered n => exact ih.cons n
      | stored n | returned n => exact ih.cons_cons n

end Creation

/-! ### The store and the creations -/

namespace NoteStore

open Creation

/-- The numbers of the first `count` notes after the one with which a server starts. -/
def numbersTaken (count : Nat) : List Int := (List.range count).map fun i : Nat => (i : Int) + 2

theorem numbersTaken_nodup (count : Nat) : (numbersTaken count).Nodup :=
  List.nodup_range.map fun i j same => by omega

theorem numbersTaken_succ (count : Nat) : numbersTaken (count + 1) = numbersTaken count ++ [(count : Int) + 2] := by
  rw [numbersTaken, List.range_succ, List.map_append, ← numbersTaken, List.map_singleton]

theorem two_le_of_mem_numbersTaken {count : Nat} {number : Int} (member : number ∈ numbersTaken count) :
    2 ≤ number := by
  obtain ⟨i, -, rfl⟩ := List.mem_map.mp member
  omega

/-- What holds of a store and the creations that work on it, in whatever order these are listed. -/
structure Consistent (creations : List Creation) (s : NoteStore) : Prop where
  last : s.lastId.val = (creations.filterMap note?).length + 1
  numbers : ((creations.filterMap note?).map fun n => n.id.val).Perm
    (numbersTaken (creations.filterMap note?).length)
  kept : s.notes.Perm (initial.notes ++ creations.filterMap kept?)

variable {creations creations' rest : List Creation} {c : Creation} {s : NoteStore}

theorem Consistent.start : Consistent [] NoteStore.initial := ⟨rfl, .refl _, .refl _⟩

theorem Consistent.perm (consistent : Consistent creations s) (perm : creations'.Perm creations) :
    Consistent creations' s := by
  have noted := perm.filterMap note?
  refine ⟨?_, ?_, consistent.kept.trans ((perm.filterMap kept?).symm.append_left _)⟩
  · rw [noted.length_eq, consistent.last]
  · rw [noted.length_eq]
    exact (noted.map _).trans consistent.numbers

/-- No two notes of creations have one number. -/
theorem Consistent.numbers_nodup (consistent : Consistent creations s) :
    ((creations.filterMap note?).map fun n => n.id.val).Nodup :=
  consistent.numbers.nodup_iff.mpr (numbersTaken_nodup _)

/-- The numbers of creations are not that of the first note. -/
theorem Consistent.ne_first (consistent : Consistent creations s) {n m : Note} (noted : n ∈ creations.filterMap note?)
    (first : m ∈ NoteStore.initial.notes) : m.id.val ≠ n.id.val := by
  have late := two_le_of_mem_numbersTaken (consistent.numbers.mem_iff.mp (List.mem_map_of_mem noted))
  have one : m.id.val = 1 := by
    rw [List.mem_singleton.mp first]
    rfl
  omega

/-- No two notes in the store have one number. -/
theorem Consistent.distinct (consistent : Consistent creations s) : (s.notes.map Note.id).Nodup := by
  rw [(consistent.kept.map Note.id).nodup_iff, List.map_append, List.nodup_append']
  have noted : ((creations.filterMap note?).map Note.id).Nodup :=
    .of_map IntKind.Number.val (by rw [List.map_map]; exact consistent.numbers_nodup)
  refine ⟨List.nodup_singleton _, noted.sublist ((kept_sublist creations).map _), ?_⟩
  rw [List.disjoint_left]
  intro id first kept
  obtain ⟨m, listed, rfl⟩ := List.mem_map.mp first
  obtain ⟨n, member, same⟩ := List.mem_map.mp kept
  exact consistent.ne_first ((kept_sublist creations).mem member) listed (congrArg IntKind.Number.val same.symm)

/-- The next number, which does not turn over as long as there are fewer notes than numbers. -/
theorem Consistent.takeId_val (consistent : Consistent creations s)
    (few : (creations.filterMap note?).length < 2 ^ 63) :
    s.takeId.1.val = (creations.filterMap note?).length + 2 := by
  have last := consistent.last
  have lo : IntKind.lo .u64 = 0 := rfl
  have width : (Nat.pow 2 (IntKind.bits .u64) : Int) = 2 ^ 64 := rfl
  simp only [takeId, IntKind.wrap, lo, width, last]
  omega

/-- **A step of a creation keeps store and creations consistent.** -/
theorem Consistent.advance (consistent : Consistent (c :: rest) s)
    (few : ((c :: rest).filterMap note?).length < 2 ^ 63) :
    Consistent ((c.advance s).2.1 :: rest) (c.advance s).2.2 := by
  cases c with
  | submitted new => exact ⟨consistent.last, consistent.numbers, consistent.kept⟩
  | trimmed new =>
      have next : s.takeId.1.val = (rest.filterMap note?).length + 2 := consistent.takeId_val few
      have last : s.takeId.1.val = ((rest.filterMap note?).length + 1 : Nat) + 1 := by omega
      refine ⟨last, ?_, consistent.kept⟩
      -- The new number stands behind those that were taken.
      calc s.takeId.1.val :: (rest.filterMap note?).map (fun n => n.id.val)
        _ |>.Perm (s.takeId.1.val :: numbersTaken (rest.filterMap note?).length) := consistent.numbers.cons _
        _ |>.Perm (numbersTaken (rest.filterMap note?).length ++ [s.takeId.1.val]) :=
            (List.perm_append_singleton _ _).symm
        _ = numbersTaken ((rest.filterMap note?).length + 1) := by rw [numbersTaken_succ, next]
  | numbered n =>
      -- No note in the store has the number, so none is replaced.
      have free : ∀ m ∈ s.notes, m.id ≠ n.id := by
        intro m member same
        rcases List.mem_append.mp (consistent.kept.mem_iff.mp member) with first | kept
        · exact consistent.ne_first List.mem_cons_self first (congrArg IntKind.Number.val same)
        · have fresh := (List.nodup_cons.mp consistent.numbers_nodup).1
          exact fresh (List.mem_map.mpr ⟨m, (kept_sublist rest).mem kept, congrArg IntKind.Number.val same⟩)
      have others : s.notes.filter (fun m => m.id ≠ n.id) = s.notes :=
        List.filter_eq_self.mpr fun m member => decide_eq_true (free m member)
      refine ⟨consistent.last, consistent.numbers, ?_⟩
      calc s.notes.filter (fun m => m.id ≠ n.id) ++ [n]
        _ = s.notes ++ [n] := by rw [others]
        _ |>.Perm (n :: s.notes) := List.perm_append_singleton _ _
        _ |>.Perm (n :: (initial.notes ++ rest.filterMap kept?)) := consistent.kept.cons _
        _ |>.Perm (initial.notes ++ n :: rest.filterMap kept?) := List.perm_middle.symm
  | stored n => exact ⟨consistent.last, consistent.numbers, consistent.kept⟩
  | returned n => exact ⟨consistent.last, consistent.numbers, consistent.kept⟩

/-- A creation that begins does not touch the store. -/
theorem Consistent.submit (consistent : Consistent creations s) (new : NewNote) :
    Consistent (creations ++ [.submitted new]) s := by
  have begun : Consistent (.submitted new :: creations) s := ⟨consistent.last, consistent.numbers, consistent.kept⟩
  exact begun.perm (List.perm_append_singleton _ _)

/-- A step of any of the creations keeps store and creations consistent. -/
theorem Consistent.advance_at (consistent : Consistent creations s)
    (few : (creations.filterMap note?).length < 2 ^ 63) {k : Nat} (found : creations[k]? = some c) :
    Consistent (creations.set k (c.advance s).2.1) (c.advance s).2.2 := by
  obtain ⟨inside, rfl⟩ := List.getElem?_eq_some_iff.mp found
  have apart : (creations[k] :: creations.eraseIdx k).Perm creations := List.getElem_cons_eraseIdx_perm inside
  have step := (consistent.perm apart).advance (by rwa [(apart.filterMap note?).length_eq])
  exact step.perm (List.set_perm_cons_eraseIdx inside _)

end NoteStore

/-! ### Turns -/

namespace Desk

open Creation

variable {turns later : List Turn} {turn : Turn} {d : Desk} {k : Nat} {c : Creation} {n : Note}

@[simp] theorem submissions_append (turns later : List Turn) :
    submissions (turns ++ later) = submissions turns ++ submissions later := List.filterMap_append

theorem take_proceed (found : d.creations[k]? = some c) :
    d.take (.proceed k) = ((c.advance d.store).1.elim .pending (.created k),
      ⟨(c.advance d.store).2.2, d.creations.set k (c.advance d.store).2.1⟩) := by
  simp only [take, found]

/-- What a turn can do: a creation begins, a creation goes on, or the desk stays as it is. -/
theorem take_cases (d : Desk) (turn : Turn) :
    (∃ new, turn = .submit new ∧
      d.take turn = (.pending, { d with creations := d.creations ++ [.submitted new] })) ∨
    (∃ k c, turn = .proceed k ∧ d.creations[k]? = some c ∧
      d.take turn = ((c.advance d.store).1.elim .pending (.created k),
        ⟨(c.advance d.store).2.2, d.creations.set k (c.advance d.store).2.1⟩)) ∨
    (submissions [turn] = [] ∧ (∀ k, turn = .proceed k → d.creations[k]? = none) ∧
      (d.take turn).2 = d ∧ ∀ k n, (d.take turn).1 ≠ .created k n) := by
  cases turn with
  | submit new => exact .inl ⟨new, rfl, rfl⟩
  | proceed k =>
      cases found : d.creations[k]? with
      | none => exact .inr (.inr ⟨rfl, fun j same => by cases same; exact found, by simp [take, found]⟩)
      | some c => exact .inr (.inl ⟨k, c, rfl, found, take_proceed found⟩)
  | get id => exact .inr (.inr ⟨rfl, by simp, by simp [take]⟩)
  | search query limit => exact .inr (.inr ⟨rfl, by simp, by simp [take]⟩)

/-- What holds of a desk after some turns. -/
structure Sound (turns : List Turn) (d : Desk) : Prop where
  count : d.creations.length = (submissions turns).length
  origin : ∀ (k : Nat) (c : Creation), d.creations[k]? = some c → ∃ new, (submissions turns)[k]? = some new ∧ c.Of new
  consistent : d.store.Consistent d.creations

theorem Sound.opened : Sound [] opened :=
  ⟨rfl, fun k c found => by simp [Desk.opened] at found, .start⟩

/-- There are at most as many numbers taken as notes submitted. -/
theorem Sound.few (sound : Sound turns d) (few : (submissions turns).length < 2 ^ 63) :
    (d.creations.filterMap note?).length < 2 ^ 63 :=
  (List.length_filterMap_le note? d.creations).trans_lt (sound.count ▸ few)

/-- **A turn keeps a desk sound.** -/
theorem Sound.take (sound : Sound turns d) (few : (submissions turns).length < 2 ^ 63) (turn : Turn) :
    Sound (turns ++ [turn]) (d.take turn).2 := by
  rcases d.take_cases turn with ⟨new, rfl, taken⟩ | ⟨k, c, rfl, found, taken⟩ | ⟨silent, -, same, -⟩
  · have submitted : submissions (turns ++ [.submit new]) = submissions turns ++ [new] := submissions_append ..
    rw [taken]
    refine ⟨by simp [submitted, sound.count], fun j c' at_j => ?_, sound.consistent.submit new⟩
    rw [submitted]
    rcases lt_or_ge j d.creations.length with before | behind
    · rw [List.getElem?_append_left before] at at_j
      obtain ⟨new', there, origin⟩ := sound.origin j c' at_j
      exact ⟨new', by rwa [List.getElem?_append_left (sound.count ▸ before)], origin⟩
    · rw [List.getElem?_append_right behind, List.getElem?_singleton] at at_j
      split_ifs at at_j with last
      cases at_j
      refine ⟨new, ?_, .submitted⟩
      rw [List.getElem?_append_right (sound.count ▸ behind), ← sound.count, last]
      rfl
  · have submitted : submissions (turns ++ [.proceed k]) = submissions turns := by
      rw [submissions_append]
      exact List.append_nil _
    rw [taken]
    refine ⟨?_, fun j c' at_j => ?_, sound.consistent.advance_at (sound.few few) found⟩
    · rw [submitted, List.length_set, sound.count]
    · rw [submitted]
      rw [List.getElem?_set] at at_j
      split_ifs at at_j with here inside
      · cases at_j
        obtain ⟨new, there, origin⟩ := sound.origin k c found
        exact ⟨new, here ▸ there, origin.advance d.store⟩
      · exact sound.origin j c' at_j
  · rw [same]
    have submitted : submissions (turns ++ [turn]) = submissions turns := by
      rw [submissions_append, silent, List.append_nil]
    exact ⟨submitted ▸ sound.count, submitted ▸ sound.origin, sound.consistent⟩

/-- **Turns keep a desk sound.** -/
theorem Sound.run (sound : Sound turns d) (few : (submissions (turns ++ later)).length < 2 ^ 63) :
    Sound (turns ++ later) (d.run later).2 := by
  induction later generalizing turns d with
  | nil => simpa [Desk.run] using sound
  | cons turn rest ih =>
      have now : (submissions turns).length < 2 ^ 63 := by
        rw [submissions_append, List.length_append] at few
        omega
      rw [List.append_cons] at few ⊢
      exact ih (sound.take now turn) few

theorem run_append (d : Desk) (turns later : List Turn) :
    d.run (turns ++ later) =
      ((d.run turns).1 ++ ((d.run turns).2.run later).1, ((d.run turns).2.run later).2) := by
  induction turns generalizing d with
  | nil => rfl
  | cons turn rest ih => simp only [List.cons_append, Desk.run, ih]

/-- A creation whose steps nobody comes between numbers the note with the trimmed title and puts it into the store. -/
theorem run_alone (d : Desk) (new : NewNote) :
    let k := d.creations.length
    let (note, store) := d.store.create new.trimmed
    d.run (.submit new :: List.replicate 4 (.proceed k)) =
      ([.pending, .pending, .pending, .pending, .created k note], ⟨store, d.creations ++ [.returned note]⟩) := by
  simp [run, take, List.replicate, advance, NoteStore.create]

/-- What a turn returns is returned from then on, and nothing else is. -/
theorem created_take_iff :
    (d.take turn).1 = .created k n ∨ d.creations[k]? = some (.returned n) ↔
      (d.take turn).2.creations[k]? = some (.returned n) := by
  rcases d.take_cases turn with ⟨new, rfl, taken⟩ | ⟨j, c, rfl, found, taken⟩ | ⟨-, -, same, silent⟩
  · rw [taken]
    rcases lt_or_ge k d.creations.length with before | behind
    · simp [List.getElem?_append_left before]
    · rw [List.getElem?_append_right behind, List.getElem?_singleton, List.getElem?_eq_none behind]
      split_ifs <;> simp
  · obtain ⟨inside, -⟩ := List.getElem?_eq_some_iff.mp found
    rw [taken]
    rcases eq_or_ne j k with rfl | other
    · rw [List.getElem?_set_self inside, found]
      cases c <;> simp [advance]
    · rw [List.getElem?_set_ne other]
      cases (c.advance d.store).1 <;> simp [other]
  · simp [same, silent]

/-- The notes that were returned are those of the creations that are at their end. -/
theorem created_run_iff :
    .created k n ∈ (d.run turns).1 ∨ d.creations[k]? = some (.returned n) ↔
      (d.run turns).2.creations[k]? = some (.returned n) := by
  induction turns generalizing d with
  | nil => simp [Desk.run]
  | cons turn rest ih =>
      rw [Desk.run]
      simp only [List.mem_cons, ← ih, ← created_take_iff]
      rw [or_assoc, or_left_comm, eq_comm]

/-- Turns of others leave a creation where it is. -/
theorem getElem?_take_of_ne (other : turn ≠ .proceed k) (found : d.creations[k]? = some c) :
    (d.take turn).2.creations[k]? = some c := by
  obtain ⟨inside, -⟩ := List.getElem?_eq_some_iff.mp found
  rcases d.take_cases turn with ⟨new, rfl, taken⟩ | ⟨j, c', rfl, -, taken⟩ | ⟨-, -, same, -⟩
  · rw [taken, List.getElem?_append_left inside, found]
  · rw [taken, List.getElem?_set_ne fun same => other (congrArg Turn.proceed same), found]
  · rw [same, found]

/-- **A creation that gets the turns for its steps comes to its end**, whatever happens in between. -/
theorem exists_returned (found : d.creations[k]? = some c) (enough : c.stepsLeft ≤ later.count (.proceed k)) :
    ∃ n, (d.run later).2.creations[k]? = some (.returned n) := by
  -- The induction is on the turns; those of others leave the creation where it is.
  induction later generalizing d c with
  | nil =>
      obtain ⟨n, rfl⟩ := stepsLeft_eq_zero_iff.mp (Nat.le_zero.mp enough)
      exact ⟨n, found⟩
  | cons turn rest ih =>
      by_cases mine : turn = .proceed k
      · subst mine
        have next : (d.take (.proceed k)).2.creations[k]? = some (c.advance d.store).2.1 := by
          rw [take_proceed found, List.getElem?_set_self (List.getElem?_eq_some_iff.mp found).1]
        refine ih next ?_
        rw [stepsLeft_advance]
        rw [List.count_cons_self] at enough
        omega
      · rw [List.count_cons_of_ne mine] at enough
        exact ih (getElem?_take_of_ne mine found) enough

/-! ### What requests get -/

/-- **No two creations have one number.** -/
theorem Sound.eq_of_id {k' : Nat} {c' : Creation} {n' : Note} (sound : Sound turns d)
    (first : d.creations[k]? = some c) (second : d.creations[k']? = some c') (noted : c.note? = some n)
    (noted' : c'.note? = some n') (same : n.id = n'.id) : k = k' := by
  have apart : d.creations.Pairwise fun c c' =>
      ∀ n, c.note? = some n → ∀ n', c'.note? = some n' → n.id.val ≠ n'.id.val :=
    List.pairwise_filterMap.mp (List.pairwise_map.mp sound.consistent.numbers_nodup)
  have before {i j : Nat} {c c' : Creation} {n n' : Note} (less : i < j) (first : d.creations[i]? = some c)
      (second : d.creations[j]? = some c') (noted : c.note? = some n) (noted' : c'.note? = some n') :
      n.id ≠ n'.id := by
    obtain ⟨inside, rfl⟩ := List.getElem?_eq_some_iff.mp first
    obtain ⟨inside', rfl⟩ := List.getElem?_eq_some_iff.mp second
    intro same
    exact List.pairwise_iff_getElem.mp apart i j inside inside' less n noted n' noted'
      (congrArg IntKind.Number.val same)
  rcases lt_trichotomy k k' with less | equal | more
  · exact absurd same (before less first second noted noted')
  · exact equal
  · exact absurd same.symm (before more second first noted' noted)

/-- **What is in the store**: the first note, and those that creations have put there. -/
theorem Sound.mem_notes_iff (sound : Sound turns d) :
    n ∈ d.store.notes ↔
      n ∈ NoteStore.initial.notes ∨ ∃ c ∈ d.creations, c = .stored n ∨ c = .returned n := by
  have put (c : Creation) : c.kept? = some n ↔ c = .stored n ∨ c = .returned n := by cases c <;> simp [kept?]
  rw [sound.consistent.kept.mem_iff, List.mem_append, List.mem_filterMap]
  simp only [put]

/-- **A note that was returned is found by its number.** -/
theorem Sound.take_get (sound : Sound turns d) (returned : d.creations[k]? = some (.returned n)) :
    (d.take (.get n.id)).1 = .found (some n) := by
  have kept : n ∈ d.store.notes :=
    sound.mem_notes_iff.mpr (.inr ⟨_, List.mem_of_getElem? returned, .inr rfl⟩)
  rw [Desk.take, (NoteStore.find?_eq_some_iff sound.consistent.distinct).mpr ⟨kept, rfl⟩]

/-- The notes that a server has returned are those of the creations that are at their end. -/
theorem created_iff :
    .created k n ∈ (opened.run turns).1 ↔ (opened.run turns).2.creations[k]? = some (.returned n) := by
  rw [← created_run_iff]
  simp [opened]

/-- **The notes of a server are consistent**, whichever request has the next turn, as long as there are fewer than
`2 ^ 63` submissions.  The notes that are returned have numbers of their own.  Each is what was submitted, with blanks
trimmed from the title, and is found unchanged by its number ever after.  A search lists the notes in the store whose
titles match, in the order of their numbers and up to the limit, however the store keeps them; and in the store are the
first note and those that creations have put there, also before they are returned.  Whatever is submitted is returned
once it has had the turns for its four steps. -/
theorem run_consistent (turns : List Turn) (few : (submissions turns).length < 2 ^ 63) :
    let answers := (opened.run turns).1
    let d := (opened.run turns).2
    (∀ k n, .created k n ∈ answers → (∀ m ∈ NoteStore.initial.notes, m.id ≠ n.id) ∧
      ∀ k' n', .created k' n' ∈ answers → n.id = n'.id → k = k' ∧ n = n') ∧
    (∀ k n, .created k n ∈ answers →
      (∃ new, (submissions turns)[k]? = some new ∧ n.title = Text.trim new.title ∧ n.body = new.body) ∧
      ∀ later, (submissions (turns ++ later)).length < 2 ^ 63 →
        ((opened.run (turns ++ later)).2.take (.get n.id)).1 = .found (some n)) ∧
    (∀ query limit, ∃ all : List Note, (d.take (.search query limit)).1 = .listed (all.take limit) ∧
      all.Pairwise (fun a b => a.id.val < b.id.val) ∧
      (∀ n, n ∈ all ↔ n ∈ d.store.notes ∧ (Text.lowerCase query).toList <:+: (Text.lowerCase n.title).toList) ∧
      ∀ order, order.Perm d.store.notes → { d.store with notes := order }.search query limit = all.take limit) ∧
    (∀ n, n ∈ d.store.notes ↔ n ∈ NoteStore.initial.notes ∨ ∃ c ∈ d.creations, c = .stored n ∨ c = .returned n) ∧
    ∀ k < (submissions turns).length, ∀ later, 4 ≤ later.count (.proceed k) →
      ∃ n, .created k n ∈ (opened.run (turns ++ later)).1 := by
  intro answers d
  have sound : Sound turns d := Sound.opened.run few
  refine ⟨fun k n first => ⟨fun m listed same => ?_, fun k' n' second same => ?_⟩,
    fun k n made => ⟨?_, fun later few => ?_⟩, fun query limit => ?_, fun n => sound.mem_notes_iff,
    fun k submitted later enough => ?_⟩
  · have noted : n ∈ d.creations.filterMap note? :=
      List.mem_filterMap.mpr ⟨_, List.mem_of_getElem? (created_iff.mp first), rfl⟩
    exact sound.consistent.ne_first noted listed (congrArg IntKind.Number.val same)
  · obtain rfl := sound.eq_of_id (created_iff.mp first) (created_iff.mp second) rfl rfl same
    have equal := (created_iff.mp first).symm.trans (created_iff.mp second)
    simpa using equal
  · obtain ⟨new, there, origin⟩ := sound.origin k _ (created_iff.mp made)
    cases origin with
    | returned id => exact ⟨new, there, rfl, rfl⟩
  · have still : .created k n ∈ (opened.run (turns ++ later)).1 := by
      rw [run_append]
      exact List.mem_append_left _ made
    exact (Sound.opened.run few).take_get (created_iff.mp still)
  · obtain ⟨all, search, sorted, listed⟩ := NoteStore.exists_search sound.consistent.distinct query limit
    refine ⟨all, congrArg Answer.listed search, sorted, listed, fun order perm => ?_⟩
    rw [NoteStore.search_perm sound.consistent.distinct perm, search]
  · obtain ⟨c, found⟩ : ∃ c, d.creations[k]? = some c := ⟨_, List.getElem?_eq_getElem (sound.count ▸ submitted)⟩
    obtain ⟨n, returned⟩ := exists_returned found (c.stepsLeft_le.trans enough)
    exact ⟨n, created_iff.mpr (by rw [run_append]; exact returned)⟩

/-- The later of two creations is returned first.  Its note is found while the earlier one has taken a number but has
not put its note into the store. -/
theorem run_consistent_overtaking :
    let turns : List Turn :=
      [.submit ⟨" Milk ", "two"⟩, .submit ⟨"Eggs", ""⟩, .proceed 0, .proceed 0, .proceed 1, .proceed 1,
        .proceed 1, .proceed 1]
    let later : List Turn := [.get ⟨2, by decide, by decide⟩]
    (submissions turns).length < 2 ^ 63 ∧ (submissions (turns ++ later)).length < 2 ^ 63 ∧
      .created 1 ⟨⟨3, by decide, by decide⟩, "Eggs", ""⟩ ∈ (opened.run turns).1 ∧
      ((opened.run turns).2.run later).1 = [.found none] ∧
      ((opened.run (turns ++ later)).2.take (.get ⟨3, by decide, by decide⟩)).1 =
        .found (some ⟨⟨3, by decide, by decide⟩, "Eggs", ""⟩) := by
  intro turns later
  have few : (submissions turns).length < 2 ^ 63 := by decide
  have few' : (submissions (turns ++ later)).length < 2 ^ 63 := by decide
  have made : .created 1 ⟨⟨3, by decide, by decide⟩, "Eggs", ""⟩ ∈ (opened.run turns).1 := by decide +kernel
  obtain ⟨-, returned, -⟩ := run_consistent turns few
  exact ⟨few, few', made, by decide +kernel, (returned 1 _ made).2 later few'⟩

end Desk

/-! ### The actions on notes -/

namespace Notes

variable {config : CompilerConfig} {w w' : Workshop NoteStore} {e : Endpoint NoteStore} {events : List Event}
  {registry : Registry NoteStore}

/-- The action that creates notes takes all steps of a creation. -/
theorem invoke_createNote (compiled : compile config w createNote = (.ok e, w', events))
    (grown : w'.registry.Grows registry) (host : Host NoteStore) (s : NoteStore) (new : NewNote) :
    e.unit.invoke registry (.ofValues [⟨newNoteType, newNoteValue new⟩, ⟨store, (0 : Nat)⟩]) host s =
      (.ok (.value ⟨.encoded noteType, noteType, noteValue (s.create new.trimmed).1⟩), (s.create new.trimmed).2) := by
  obtain ⟨wellFormed, -, realizes, -⟩ := compile_realizes compiled
  rw [(realizes.grows grown).invoke_eq_meaning wellFormed.toValid]
  rfl

/-- The action that finds a note takes the turn that finds one. -/
theorem invoke_getNote (compiled : compile config w getNote = (.ok e, w', events))
    (grown : w'.registry.Grows registry) (host : Host NoteStore) (s : NoteStore) (id : NoteId) :
    e.unit.invoke registry (.ofValues [⟨store, (0 : Nat)⟩, ⟨.int .u64, id⟩]) host s =
      (.ok (.value ⟨.encoded (.option noteType), .option noteType, (s.find? id).map noteValue⟩), s) := by
  obtain ⟨wellFormed, -, realizes, -⟩ := compile_realizes compiled
  rw [(realizes.grows grown).invoke_eq_meaning wellFormed.toValid]
  rfl

/-- The action that searches for notes takes the turn that does. -/
theorem invoke_searchNotes (compiled : compile config w searchNotes = (.ok e, w', events))
    (grown : w'.registry.Grows registry) (host : Host NoteStore) (s : NoteStore) (query : String)
    (limit : IntKind.Number .usize) :
    e.unit.invoke registry (.ofValues [⟨store, (0 : Nat)⟩, ⟨.text, query⟩, ⟨.int .usize, limit⟩]) host s =
      (.ok (.value ⟨.encoded (.list noteType), .list noteType,
        (s.search query limit.val.toNat).map noteValue⟩), s) := by
  obtain ⟨wellFormed, -, realizes, -⟩ := compile_realizes compiled
  rw [(realizes.grows grown).invoke_eq_meaning wellFormed.toValid]
  rfl

end Notes

end HandlerChain
