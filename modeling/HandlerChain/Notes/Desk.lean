import HandlerChain.Notes.Store

/-!
# Requests to the store of notes

Several requests work on one store and take turns.  The creation of a note goes in steps: the title is trimmed,
the note takes a number, it is put into the store, and it is returned.  Other requests may come in between; to
find a note, or to search for notes, takes one turn.  Which turn is next is left open.

## Main Definitions

* `Creation` is how far the creation of a note has come, and `Creation.advance` its next step.
* `Desk` is a store with the creations that work on it, `Desk.opened` the one with which a server starts.
* `Desk.take` is a turn, and `Desk.run` are turns one after the other.
-/

namespace HandlerChain

/-- How far the creation of a note has come. -/
inductive Creation where
  | submitted (new : NewNote)
  | trimmed (new : NewNote)
  | numbered (note : Note)
  | stored (note : Note)
  | returned (note : Note)
  deriving DecidableEq, Repr

/-- The next step of a creation; the last one returns the note. To take a number and to put the note into the
store are two steps. -/
def Creation.advance (s : NoteStore) : Creation → Option Note × Creation × NoteStore
  | submitted new => (none, trimmed new.trimmed, s)
  | trimmed new =>
    let (id, s) := s.takeId
    (none, numbered (new.numbered id), s)
  | numbered note => (none, stored note, s.put note)
  | stored note => (some note, returned note, s)
  | returned note => (none, returned note, s)

/-- A store with the creations that work on it, in the order in which they began. -/
structure Desk where
  store : NoteStore
  creations : List Creation
  deriving DecidableEq, Repr

namespace Desk

/-- Whose turn it is: a note is submitted, a creation goes on, a note is found by its number, or notes are
searched for. -/
inductive Turn where
  | submit (new : NewNote)
  | proceed (k : Nat)
  | get (id : NoteId)
  | search (query : String) (limit : Nat)
  deriving DecidableEq, Repr

/-- What a turn answers; nothing is answered to a creation before it is at its end. -/
inductive Answer where
  | pending
  | created (k : Nat) (note : Note)
  | found (note? : Option Note)
  | listed (notes : List Note)
  deriving DecidableEq, Repr

/-- The desk with which a server starts. -/
def opened : Desk := ⟨.initial, []⟩

/-- One turn. A creation that has not begun does nothing. -/
def take (d : Desk) : Turn → Answer × Desk
  | .submit new => (.pending, { d with creations := d.creations ++ [.submitted new] })
  | .proceed k =>
    match d.creations[k]? with
    | none => (.pending, d)
    | some c =>
      let (note?, c, store) := c.advance d.store
      (note?.elim .pending (.created k), ⟨store, d.creations.set k c⟩)
  | .get id => (.found (d.store.find? id), d)
  | .search query limit => (.listed (d.store.search query limit), d)

/-- Turns one after the other, with what they answer. -/
def run (d : Desk) : List Turn → List Answer × Desk
  | [] => ([], d)
  | turn :: rest =>
    let (answer, d) := d.take turn
    let (answers, d) := d.run rest
    (answer :: answers, d)

/-- The notes that are submitted, in this order. -/
def submissions (turns : List Turn) : List NewNote :=
  turns.filterMap fun
    | .submit new => some new
    | _ => none

end Desk

end HandlerChain
