import HandlerChain.Route.Template

/-!
# Route tables

A table maps request paths to values by patterns. In a pattern, a name in braces captures one piece of
a path without slashes that is not empty, and a name in braces behind a star captures the rest of the
path, which is not empty either. A brace that is written twice is a literal brace.

## Main Definitions

* `Route.Token` is a part of a pattern, `Route.tokens?` divides a pattern.
* `Route.Conflict` says that two patterns may not be in one table.
* `Route.Table.insert` adds a pattern, `Route.Table.find?` looks a path up: literals win over captures
  of a piece, and these over captures of the rest.
-/

namespace HandlerChain.Route

/-- A part of a pattern. -/
inductive Token where
  | literal (c : Char)
  | capture (name : String)
  | rest (name : String)
  deriving DecidableEq, Repr

/-- The greatest number of pieces that a pattern may capture. -/
def maxCaptures : Nat := 25

/-- A character of a pattern, and whether it is a brace that was written twice. -/
structure Glyph where
  char : Char
  doubled : Bool
  deriving DecidableEq, Repr

namespace Glyph

/-- Whether the glyph begins a name. -/
def opens (g : Glyph) : Bool := g.char = '{' && !g.doubled

/-- Whether the glyph ends a name. -/
def closes (g : Glyph) : Bool := g.char = '}' && !g.doubled

end Glyph

/-- The glyphs of a pattern. -/
def glyphs : List Char → List Glyph
  | '{' :: '{' :: rest => ⟨'{', true⟩ :: glyphs rest
  | '}' :: '}' :: rest => ⟨'}', true⟩ :: glyphs rest
  | c :: rest => ⟨c, false⟩ :: glyphs rest
  | [] => []

/-- Whether the text behind a name is a new piece or nothing. -/
def endsPiece : List Glyph → Bool
  | [] => true
  | g :: _ => g.char = '/'

/-- Divides glyphs into tokens. `name` holds the characters of an unfinished name, the last first. -/
def tokensFrom : Option (List Char) → List Glyph → Option (List Token)
  | none, [] => some []
  | none, g :: rest =>
    if g.closes then none
    else if g.opens then tokensFrom (some []) rest
    else (tokensFrom none rest).map (.literal g.char :: ·)
  | some _, [] => none
  | some [], g :: rest => if g.char = '}' then none else tokensFrom (some [g.char]) rest
  | some name@(_ :: _), g :: rest =>
    if g.closes then
      if !endsPiece rest then none
      else match name.reverse with
        | '*' :: bare => if bare.isEmpty || !rest.isEmpty then none else some [.rest (String.ofList bare)]
        | bare => (tokensFrom none rest).map (.capture (String.ofList bare) :: ·)
    else if g.char = '*' || g.char = '/' then none
    else tokensFrom (some (g.char :: name)) rest

/-- Whether a token captures a piece. -/
def Token.isCapture : Token → Bool
  | .capture _ => true
  | _ => false

/-- The tokens of a pattern, if it is well-formed. -/
def tokens? (pattern : String) : Option (List Token) :=
  match tokensFrom none (glyphs pattern.toList) with
  | none => none
  | some ts => if maxCaptures < ts.countP Token.isCapture then none else some ts

/-- The names that tokens capture, in order. -/
def captureNames : List Token → List String
  | [] => []
  | .literal _ :: ts => captureNames ts
  | .capture n :: ts => n :: captureNames ts
  | .rest n :: ts => n :: captureNames ts

/-- Whether two patterns conflict: they are the same up to names, or at the first place at which they
differ, one captures the rest and the other captures too. -/
def conflicts : List Token → List Token → Bool
  | [], [] => true
  | .literal a :: x, .literal b :: y => a = b && conflicts x y
  | .capture _ :: x, .capture _ :: y => conflicts x y
  | .rest _ :: _, .rest _ :: _ => true
  | .rest _ :: _, .capture _ :: _ => true
  | .capture _ :: _, .rest _ :: _ => true
  | _, _ => false

/-- Why a pattern cannot be added to a table. -/
inductive TableError where
  | malformed (pattern : String)
  | conflict (pattern : String)
  deriving DecidableEq, Repr

/-- A pattern with its value. -/
structure Entry (α : Type) where
  pattern : String
  tokens : List Token
  value : α

/-- Values by pattern. -/
structure Table (α : Type) where
  entries : List (Entry α)

namespace Table

variable {α : Type}

/-- A table without patterns. -/
def empty : Table α := ⟨[]⟩

/-- Whether a pattern begins with a slash and none of its pieces begins with a colon or a star. -/
def isPlain (pattern : String) : Bool :=
  pattern.toList.head? = some '/' &&
    (segments pattern.toList).all fun s => s.head? ≠ some ':' && s.head? ≠ some '*'

/-- The table with one more pattern. -/
def insert (t : Table α) (pattern : String) (value : α) : Except TableError (Table α) :=
  if !isPlain pattern then .error (.malformed pattern)
  else match tokens? pattern with
    | none => .error (.malformed pattern)
    | some ts =>
      if t.entries.any fun e => conflicts e.tokens ts then .error (.conflict pattern)
      else .ok ⟨t.entries ++ [⟨pattern, ts, value⟩]⟩

/-- The value of a pattern that is spelled the same. -/
def get? (t : Table α) (pattern : String) : Option α :=
  (t.entries.find? fun e => e.pattern == pattern).map Entry.value

/-- The table with another value for a pattern. -/
def replace (t : Table α) (pattern : String) (value : α) : Table α :=
  ⟨t.entries.map fun e => if e.pattern == pattern then { e with value := value } else e⟩

end Table

/-- Tokens that are yet to be matched, with what they lead to. -/
abbrev Candidate (ι : Type) := List Token × ι

/-- The candidates that go on with a literal, behind it. -/
def behindLiteral {ι : Type} (c : Char) (cs : List (Candidate ι)) : List (Candidate ι) :=
  cs.filterMap fun
    | (.literal d :: ts, i) => if d = c then some (ts, i) else none
    | _ => none

/-- The candidates that go on with a capture of a piece, behind it. -/
def behindCapture {ι : Type} (cs : List (Candidate ι)) : List (Candidate ι) :=
  cs.filterMap fun
    | (.capture _ :: ts, i) => some (ts, i)
    | _ => none

/-- The first candidate that is at its end. -/
def finished? {ι : Type} (cs : List (Candidate ι)) : Option ι :=
  cs.findSome? fun
    | ([], i) => some i
    | _ => none

/-- The first candidate that goes on with a capture of the rest. -/
def takingRest? {ι : Type} (cs : List (Candidate ι)) : Option ι :=
  cs.findSome? fun
    | (.rest _ :: _, i) => some i
    | _ => none

/-- The candidate that a path matches, with the captured texts in order. -/
def search {ι : Type} (cs : List (Candidate ι)) (path : List Char) : Option (ι × List (List Char)) :=
  match path with
  | [] => (finished? cs).map fun i => (i, [])
  | c :: rest =>
    let literal := match behindLiteral c cs with
      | [] => none
      | next => search next rest
    match literal with
    | some found => some found
    | none =>
      let piece := if c = '/' then none else
        match behindCapture cs with
        | [] => none
        | next =>
          (search next (rest.dropWhile (· ≠ '/'))).map fun (i, captured) =>
            (i, (c :: rest.takeWhile (· ≠ '/')) :: captured)
      match piece with
      | some found => some found
      | none => (takingRest? cs).map fun i => (i, [c :: rest])
termination_by path.length
decreasing_by
  · simp
  · have h := (List.dropWhile_suffix (· ≠ '/') (l := rest)).length_le
    simp only [List.length_cons]
    exact Nat.lt_succ_of_le h

/-- The value that a path leads to, with the captured texts by name, in order. -/
def Table.find? {α : Type} (t : Table α) (path : String) : Option (α × List (String × String)) :=
  (search (t.entries.map fun e => (e.tokens, e)) path.toList).map fun (e, captured) =>
    (e.value, (captureNames e.tokens).zip (captured.map String.ofList))

end HandlerChain.Route
