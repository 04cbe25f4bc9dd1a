import HandlerChain.Decode.Mismatch
import HandlerChain.Text.Utf8

/-!
# Reading position in JSON text

A cursor is the unread bytes with the line and column that the read ones lead to. Columns count
bytes. An error is reported either at the cursor or, when the next byte is to blame, behind it.

## Main Definitions

* `Json.Cursor` is a position, `Json.Cursor.advance` reads one byte.
* `Json.Fault` is what can be wrong with the text, `Json.ReadError` a fault with its place.
* `Json.Reader` is a computation that moves the cursor or fails.
-/

namespace HandlerChain.Json

/-- The unread bytes, and the place of the first of them. -/
structure Cursor where
  rest : List UInt8
  line : Nat := 1
  column : Nat := 0

/-- What can be wrong with JSON text, or with the data that it holds. -/
inductive Fault where
  | endInList
  | endInObject
  | endInString
  | endInValue
  | expectedColon
  | expectedListCommaOrEnd
  | expectedObjectCommaOrEnd
  | expectedIdent
  | expectedValue
  | expectedQuote
  | invalidEscape
  | invalidNumber
  | numberOutOfRange
  | invalidCodePoint
  | controlCharacter
  | keyNotString
  | keyNotNumeric
  | loneSurrogate
  | trailingComma
  | trailingCharacters
  | unfinishedSurrogate
  | tooDeep
  | mismatch (m : Decode.Mismatch)
  deriving Repr

/-- The wording of a fault. -/
def Fault.message : Fault → String
  | endInList => "EOF while parsing a list"
  | endInObject => "EOF while parsing an object"
  | endInString => "EOF while parsing a string"
  | endInValue => "EOF while parsing a value"
  | expectedColon => "expected `:`"
  | expectedListCommaOrEnd => "expected `,` or `]`"
  | expectedObjectCommaOrEnd => "expected `,` or `\x7d`"
  | expectedIdent => "expected ident"
  | expectedValue => "expected value"
  | expectedQuote => "expected `\"`"
  | invalidEscape => "invalid escape"
  | invalidNumber => "invalid number"
  | numberOutOfRange => "number out of range"
  | invalidCodePoint => "invalid unicode code point"
  | controlCharacter => "control character (\\u0000-\\u001F) found while parsing a string"
  | keyNotString => "key must be a string"
  | keyNotNumeric => "invalid value: expected key to be a number in quotes"
  | loneSurrogate => "lone leading surrogate in hex escape"
  | trailingComma => "trailing comma"
  | trailingCharacters => "trailing characters"
  | unfinishedSurrogate => "unexpected end of hex escape"
  | tooDeep => "recursion limit exceeded"
  | mismatch m => m.message .json

/-- A fault, its place, and the cursor at which reading stopped. A mismatch has no place of its own and
gets one from the value around it. -/
structure ReadError where
  fault : Fault
  place : Option (Nat × Nat)
  stopped : Cursor

/-- The wording of an error. -/
def ReadError.message (e : ReadError) : String :=
  match e.place with
  | none => e.fault.message
  | some (line, column) =>
    e.fault.message ++ " at line " ++ toString line ++ " column " ++ toString column

namespace Cursor

/-- The place behind one more byte. -/
def step (place : Nat × Nat) (b : UInt8) : Nat × Nat :=
  if b = 10 then (place.1 + 1, 0) else (place.1, place.2 + 1)

/-- The cursor behind the next byte. -/
def advance (c : Cursor) : Cursor :=
  match c.rest with
  | [] => c
  | b :: rest =>
    let (line, column) := step (c.line, c.column) b
    ⟨rest, line, column⟩

/-- The place of the cursor. -/
def here (c : Cursor) : Nat × Nat := (c.line, c.column)

/-- The place behind the next byte. -/
def ahead (c : Cursor) : Nat × Nat := c.advance.here

/-- The cursor behind `n` bytes. -/
def advanceBy : Nat → Cursor → Cursor
  | 0, c => c
  | n + 1, c => advanceBy n c.advance

/-- The next byte. -/
def peek? (c : Cursor) : Option UInt8 := c.rest.head?

end Cursor

/-- A computation that reads from a cursor. -/
abbrev Reader (α : Type) := Cursor → Except ReadError (α × Cursor)

namespace Reader

/-- Reads nothing. -/
def give {α : Type} (a : α) : Reader α := fun c => .ok (a, c)

/-- Reads with the first, then with what it chooses. -/
def andThen {α β : Type} (r : Reader α) (f : α → Reader β) : Reader β := fun c =>
  match r c with
  | .error e => .error e
  | .ok (a, c) => f a c

instance : Monad Reader where
  pure := give
  bind := andThen

/-- Fails at the cursor. -/
def failHere {α : Type} (fault : Fault) : Reader α := fun c => .error ⟨fault, some c.here, c⟩

/-- Fails behind the next byte. -/
def failAhead {α : Type} (fault : Fault) : Reader α := fun c => .error ⟨fault, some c.ahead, c⟩

/-- Fails because of the data. -/
def mismatch {α : Type} (m : Decode.Mismatch) : Reader α := fun c => .error ⟨.mismatch m, none, c⟩

/-- The next byte, unread. -/
def peek : Reader (Option UInt8) := fun c => .ok (c.peek?, c)

/-- Reads one byte, if there is one. -/
def skip : Reader Unit := fun c => .ok ((), c.advance)

/-- Reads one byte. -/
def next : Reader (Option UInt8) := fun c => .ok (c.peek?, c.advance)

/-- Gives a mismatch the place at which reading stopped. -/
def settle {α : Type} (r : Reader α) : Reader α := fun c =>
  match r c with
  | .ok x => .ok x
  | .error e => .error { e with place := e.place <|> some e.stopped.here }

/-- Reads the inside of a list or object and then its end. A mismatch inside gets the place behind the
end, as far as that can be read. -/
def closedBy {α : Type} (inside : Reader α) (close : Reader Unit) : Reader α := fun c =>
  match inside c with
  | .ok (a, c) =>
    match close c with
    | .ok (_, c) => .ok (a, c)
    | .error e => .error e
  | .error e =>
    match e.place with
    | some _ => .error e
    | none =>
      let stopped := match close e.stopped with
        | .ok (_, c) => c
        | .error e => e.stopped
      .error { e with place := some stopped.here }

/-- The cursor behind white space. -/
def dropSpace (line column : Nat) : List UInt8 → Cursor
  | [] => ⟨[], line, column⟩
  | b :: rest =>
    if b = 32 ∨ b = 9 ∨ b = 13 then dropSpace line (column + 1) rest
    else if b = 10 then dropSpace (line + 1) 0 rest
    else ⟨b :: rest, line, column⟩

/-- Skips white space and shows the byte behind it. -/
def peekToken : Reader (Option UInt8) := fun c =>
  let c := dropSpace c.line c.column c.rest
  .ok (c.peek?, c)

end Reader

end HandlerChain.Json
