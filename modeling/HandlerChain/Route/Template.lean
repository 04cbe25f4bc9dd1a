/-!
# Route templates

A template is a path in which placeholders in braces stand for parameters: a name, optionally behind
one or two stars for a parameter that takes the rest of the path, behind it a constraint after a colon
and a question mark. A brace that begins no placeholder stands for itself.

## Main Definitions

* `Route.Parameter` is a placeholder, `Route.Parameter.read` reads one.
* `Route.Piece` is a placeholder or a literal character; `Route.pieces` divides a template.
* `Route.normalize` is the path that a router takes, `Route.shape` what is left without names.
* `Route.documented` is the path that a document shows.
-/

namespace HandlerChain.Route

/-- A parameter of a template. -/
structure Parameter where
  name : String
  constraint : Option String
  optional : Bool
  catchAll : Bool
  deriving DecidableEq, Repr

/-- A part of a template. -/
inductive Piece where
  | literal (c : Char)
  | parameter (p : Parameter)
  deriving DecidableEq, Repr

/-- Whether a character may begin a name. -/
def isNameStart (c : Char) : Bool := c.isAlpha || c = '_'

/-- Whether a character may go on a name. -/
def isNameRest (c : Char) : Bool := c.isAlphanum || c = '_'

/-- Whether a character may stand in a constraint. -/
def isConstraint (c : Char) : Bool := c ≠ '}' && c ≠ '?'

/-- The number of stars at the front, at most two, and what follows them. -/
def dropStars : List Char → Nat × List Char
  | '*' :: '*' :: rest => (2, rest)
  | '*' :: rest => (1, rest)
  | cs => (0, cs)

/-- An optional constraint behind a name, and what follows it. -/
def readConstraint : List Char → Option String × List Char
  | ':' :: rest =>
    let text := rest.takeWhile isConstraint
    (if text.isEmpty then none else some (String.ofList text), rest.dropWhile isConstraint)
  | cs => (none, cs)

/-- Reads a placeholder behind its brace, with what follows it. -/
def Parameter.read (cs : List Char) : Option (Parameter × List Char) :=
  let (stars, cs) := dropStars cs
  match cs with
  | [] => none
  | c :: _ =>
    if !isNameStart c then none
    else
      let name := cs.takeWhile isNameRest
      let (constraint, rest) := readConstraint (cs.dropWhile isNameRest)
      let (optional, rest) := match rest with
        | '?' :: rest => (true, rest)
        | _ => (false, rest)
      match rest with
      | '}' :: rest => some (⟨String.ofList name, constraint, optional, 0 < stars⟩, rest)
      | _ => none

/-- Divides characters into pieces; there are at most as many as characters. -/
def piecesFrom : Nat → List Char → List Piece
  | 0, _ => []
  | _, [] => []
  | fuel + 1, c :: rest =>
    if c = '{' then
      match Parameter.read rest with
      | some (p, rest) => .parameter p :: piecesFrom fuel rest
      | none => .literal c :: piecesFrom fuel rest
    else .literal c :: piecesFrom fuel rest

/-- The pieces of a template. -/
def pieces (template : String) : List Piece := piecesFrom template.length template.toList

/-- The parameters of a template, in order. -/
def parameters (template : String) : List Parameter :=
  (pieces template).filterMap fun
    | .literal _ => none
    | .parameter p => some p

/-- Whether a template has a parameter of the given name up to the case of ASCII letters. -/
def hasParameter (template name : String) : Bool :=
  (parameters template).any fun p => p.name.map Char.toLower == name.map Char.toLower

/-- The form that a router takes of a piece: the bare name, behind a star if it takes the rest. -/
def Piece.routed : Piece → List Char
  | .literal c => [c]
  | .parameter p =>
    if p.catchAll then '{' :: '*' :: p.name.toList ++ ['}'] else '{' :: p.name.toList ++ ['}']

/-- The characters with a leading slash. -/
def withSlash : List Char → List Char
  | '/' :: rest => '/' :: rest
  | cs => '/' :: cs

/-- The path that a router takes. -/
def normalize (template : String) : String :=
  String.ofList (withSlash ((pieces template).flatMap Piece.routed))

/-- The pieces of a path between slashes. -/
def segments : List Char → List (List Char)
  | [] => [[]]
  | c :: rest =>
    if c = '/' then [] :: segments rest
    else match segments rest with
      | [] => [[c]]
      | s :: more => (c :: s) :: more

/-- A segment without the name of a placeholder at its front. -/
def shapeOfSegment : List Char → List Char
  | '{' :: '*' :: _ => ['{', '*', '}']
  | '{' :: _ => ['{', '}']
  | cs => cs

/-- Segments with slashes between them. -/
def joinSegments : List (List Char) → List Char
  | [] => []
  | [s] => s
  | s :: rest => s ++ '/' :: joinSegments rest

/-- The path that a router takes, without the names of placeholders. -/
def shape (template : String) : String :=
  String.ofList (joinSegments ((segments (normalize template).toList).map shapeOfSegment))

/-- Takes the star behind each brace away. -/
def dropBraceStars : List Char → List Char
  | '{' :: '*' :: rest => '{' :: dropBraceStars rest
  | c :: rest => c :: dropBraceStars rest
  | [] => []

/-- The path that a document shows for a path that a router takes. -/
def documented (path : String) : String := String.ofList (dropBraceStars path.toList)

end HandlerChain.Route
