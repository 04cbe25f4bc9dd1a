import HandlerChain.Yaml.Fault

/-!
# Reading position in YAML text

A cursor is the unread characters with their place. A text holds no NUL, so NUL stands for its end
wherever a character is asked for.

## Main Definitions

* `Yaml.Cursor` is a position; `Yaml.Cursor.advance` moves inside a line and `Yaml.Cursor.skipBreak`
  to the next one.
* `Yaml.Gap` is the blanks and line breaks between two parts of a scalar, and `Yaml.Gap.text` what they
  stand for.
-/

namespace HandlerChain.Yaml

/-- The character that stands for the end of a text. -/
def endMarker : Char := '\x00'

/-- Whether a character ends a line. -/
def isBreak (c : Char) : Bool :=
  c == '\n' || c == '\r' || c == '\u0085' || c == '\u2028' || c == '\u2029'

/-- Whether a character is a space or a tab. -/
def isBlank (c : Char) : Bool := c == ' ' || c == '\t'

/-- Whether a line ends at a character. -/
def endsLine (c : Char) : Bool := isBreak c || c == endMarker

/-- Whether a word ends at a character. -/
def endsWord (c : Char) : Bool := isBlank c || endsLine c

/-- Whether a character is part of a name. -/
def isNameChar (c : Char) : Bool := c.isAlphanum || c == '_' || c == '-'

/-- The unread characters, and the place of the first of them. -/
structure Cursor where
  rest : List Char
  mark : Mark := {}
  deriving Inhabited

namespace Cursor

/-- The character `n` places ahead. -/
def ahead (c : Cursor) (n : Nat) : Char := c.rest.getD n endMarker

/-- The next character. -/
def next (c : Cursor) : Char := c.ahead 0

/-- Whether the text has ended. -/
def atEnd (c : Cursor) : Bool := c.rest.isEmpty

/-- Moves over characters of one line. -/
def advance (c : Cursor) (n : Nat) : Cursor :=
  let n := min n c.rest.length
  ⟨c.rest.drop n, { c.mark with offset := c.mark.offset + n, column := c.mark.column + n }⟩

/-- Moves over one character. -/
def skip (c : Cursor) : Cursor := c.advance 1

/-- Moves over one line break; a carriage return and a line feed are one. -/
def skipBreak (c : Cursor) : Cursor :=
  let n := if c.next == '\r' && c.ahead 1 == '\n' then 2 else if isBreak c.next then 1 else 0
  if n = 0 then c
  else ⟨c.rest.drop n, ⟨c.mark.offset + n, c.mark.line + 1, 0⟩⟩

/-- What a line break stands for: the two separators of Unicode for themselves, all others for a line
feed. -/
def lineBreak (c : Cursor) : List Char :=
  if c.next == '\u2028' || c.next == '\u2029' then [c.next]
  else if isBreak c.next then ['\n']
  else []

/-- The longest run of characters that pass a test, and the cursor behind it. -/
def run (c : Cursor) (p : Char → Bool) : List Char × Cursor :=
  let taken := c.rest.takeWhile p
  (taken, c.advance taken.length)

/-- Moves over blanks. -/
def skipBlanks (c : Cursor) : Cursor := (c.run isBlank).2

/-- Moves over a comment. -/
def skipComment (c : Cursor) : Cursor :=
  if c.next == '#' then (c.run fun x => !endsLine x).2 else c

/-- Whether a document marker of three given characters stands at the start of a line. -/
def atMarker (c : Cursor) (x : Char) : Bool :=
  c.mark.column == 0 && c.ahead 0 == x && c.ahead 1 == x && c.ahead 2 == x && endsWord (c.ahead 3)

/-- Whether any document marker stands at the start of a line. -/
def atDocumentMarker (c : Cursor) : Bool := c.atMarker '-' || c.atMarker '.'

end Cursor

/-- Blanks and line breaks between two parts of a scalar. -/
structure Gap where
  blanks : List Char := []
  first : List Char := []
  more : List Char := []
  broken : Bool := false

namespace Gap

/-- What line breaks stand for: a single one for a space, more for one less than they are; a first break
that is a separator of its own stays. -/
def fold (first more : List Char) : List Char :=
  if first == ['\n'] then (if more.isEmpty then [' '] else more) else first ++ more

/-- What a gap stands for. -/
def text (g : Gap) : List Char := if g.broken then fold g.first g.more else g.blanks

/-- Reads a gap. Behind a line break a tab left of the column `indent` is refused. -/
def read (indent : Nat) (refuse : Mark → Fault) : Nat → Gap → Cursor → Except Fault (Gap × Cursor)
  | 0, g, c => .ok (g, c)
  | fuel + 1, g, c =>
    if isBlank c.next then
      if g.broken then
        if c.next == '\t' && c.mark.column < indent then .error (refuse c.mark)
        else read indent refuse fuel g c.skip
      else read indent refuse fuel { g with blanks := g.blanks ++ [c.next] } c.skip
    else if isBreak c.next then
      if g.broken then read indent refuse fuel { g with more := g.more ++ c.lineBreak } c.skipBreak
      else read indent refuse fuel ⟨[], c.lineBreak, [], true⟩ c.skipBreak
    else .ok (g, c)

end Gap

end HandlerChain.Yaml
