import HandlerChain.Text.CharClass
import HandlerChain.Text.LowerCase
import HandlerChain.Value.IntKind

/-!
# The store of notes

Notes are kept by number. A new note takes the next number first and is put into the store in a second
step, so other requests may come in between.

## Main Definitions

* `Note` is a note, `NewNote` one without a number.
* `NoteStore.takeId` and `NoteStore.put` are the two steps of `NoteStore.create`.
* `NoteStore.find?` finds a note by number, `NoteStore.search` by a part of its title.
-/

namespace HandlerChain

/-- The number of a note. -/
abbrev NoteId := IntKind.Number .u64

/-- A note. -/
structure Note where
  id : NoteId
  title : String
  body : String
  deriving DecidableEq, Repr

/-- A note that has yet to be numbered. -/
structure NewNote where
  title : String
  body : String
  deriving DecidableEq, Repr

/-- The note without blanks around its title. -/
def NewNote.trimmed (n : NewNote) : NewNote := { n with title := Text.trim n.title }

/-- The note under a number. -/
def NewNote.numbered (n : NewNote) (id : NoteId) : Note := ⟨id, n.title, n.body⟩

/-- Notes, no two of one number, and the last number that was taken. -/
structure NoteStore where
  lastId : NoteId
  notes : List Note
  deriving DecidableEq, Repr

/-- Whether a text is a part of another. -/
def isPartOf (part : List Char) : List Char → Bool
  | [] => part.isEmpty
  | c :: rest => part.isPrefixOf (c :: rest) || isPartOf part rest

/-- Whether a title matches a query, without regard to case. -/
def Note.matchesQuery (n : Note) (query : String) : Bool :=
  isPartOf (Text.lowerCase query).toList (Text.lowerCase n.title).toList

namespace NoteStore

/-- A store without notes. -/
def empty : NoteStore := ⟨default, []⟩

/-- Takes the next number. -/
def takeId (s : NoteStore) : NoteId × NoteStore :=
  let id := IntKind.wrap .u64 (s.lastId.val + 1)
  (id, { s with lastId := id })

/-- Puts a note into the store; one of the same number is replaced. -/
def put (s : NoteStore) (n : Note) : NoteStore :=
  { s with notes := s.notes.filter (fun m => m.id ≠ n.id) ++ [n] }

/-- Numbers a note and puts it into the store. -/
def create (s : NoteStore) (new : NewNote) : Note × NoteStore :=
  let (id, s) := s.takeId
  let note := new.numbered id
  (note, s.put note)

/-- The note of a number. -/
def find? (s : NoteStore) (id : NoteId) : Option Note := s.notes.find? fun n => n.id = id

/-- Whether one note stands before another in the answer to a query. -/
def before (a b : Note) : Bool := a.id.val ≤ b.id.val

/-- The notes whose titles match a query, by number, at most `limit` of them. -/
def search (s : NoteStore) (query : String) (limit : Nat) : List Note :=
  ((s.notes.filter fun n => n.matchesQuery query).mergeSort before).take limit

/-- The store with which a server starts. -/
def initial : NoteStore := (empty.create ⟨"Welcome", "Notes are kept in memory."⟩).2

end NoteStore

end HandlerChain
