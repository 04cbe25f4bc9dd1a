import HandlerChain.Yaml.Scalar

/-!
# Tokens of a text

The cutting of a YAML text into tokens. Indentation opens and closes blocks, and a scalar turns out to
be a key only when a colon follows it: then a key token, and the start of a block if the key is the
first in its column, are put in front of it. Until then such a token is held back.

## Main Definitions

* `Yaml.PendingKey` is a token that a colon can still make a key.
* `Yaml.Layout` is the state of the cutting, and `Yaml.Layout.step` reads one more token.
* `Yaml.Tokens` is what is known of a text, and `Yaml.tokens` cuts a text.

## Design Notes

A text is cut as a whole. Where it has a fault, `Yaml.Tokens` has the tokens in front of it that nothing
behind them can change: a reader of tokens can come upon something wrong before it comes upon the fault.
-/

namespace HandlerChain.Yaml

/-- A token that is a key if a colon follows: its number, its place, and whether it has to be one. -/
structure PendingKey where
  number : Nat
  mark : Mark
  required : Bool

/-- The state of the cutting: the cursor, the tokens so far, the pending key of the innermost
collection and those of the flow collections around it, the columns of the open blocks, and whether a
key can start here. -/
structure Layout where
  cursor : Cursor
  tokens : Array Token := #[]
  key : Option PendingKey := none
  outerKeys : List (Option PendingKey) := []
  indent : Int := -1
  outerIndents : List Int := []
  keyAllowed : Bool := true

namespace Layout

/-- The place of the cursor. -/
def mark (l : Layout) : Mark := l.cursor.mark

/-- The column of the cursor. -/
def column (l : Layout) : Int := l.cursor.mark.column

/-- Whether the cursor is inside a flow collection. -/
def inFlow (l : Layout) : Bool := !l.outerKeys.isEmpty

/-- Adds a token. -/
def push (l : Layout) (t : Token) : Layout := { l with tokens := l.tokens.push t }

/-- Puts a token without extent in front of the token of a given number. -/
def putBefore (l : Layout) (number : Nat) (kind : TokenKind) (m : Mark) : Layout :=
  { l with tokens := l.tokens.insertIdxIfInBounds number ⟨kind, m, m⟩ }

/-- Fails at the cursor without an occasion. -/
def refuse {α : Type} (l : Layout) (problem : Problem) : Except Fault α := .error ⟨problem, l.mark, none⟩

/-! ### Keys -/

/-- Gives up a pending key; one that is required is missing its colon. -/
def dropKey (l : Layout) : Except Fault Layout :=
  match l.key with
  | some k =>
    if k.required then .error ⟨.noColon, l.mark, some (.simpleKey, k.mark)⟩ else .ok { l with key := none }
  | none => .ok l

/-- Makes the token that comes next a pending key, where one is allowed. -/
def saveKey (l : Layout) : Except Fault Layout :=
  if l.keyAllowed then
    l.dropKey.map fun l =>
      { l with key := some ⟨l.tokens.size, l.mark, !l.inFlow && l.indent == l.column⟩ }
  else .ok l

/-- A pending key, unless it is in an earlier line or too far back. -/
def fresh (m : Mark) : Option PendingKey → Except Fault (Option PendingKey)
  | none => .ok none
  | some k =>
    if k.mark.line < m.line || k.mark.offset + 1024 < m.offset then
      if k.required then .error ⟨.noColon, m, some (.simpleKey, k.mark)⟩ else .ok none
    else .ok (some k)

/-- Gives up the pending keys that can no longer be keys; the outermost is looked at first. -/
def dropStaleKeys (l : Layout) : Except Fault Layout :=
  match l.outerKeys.reverse.mapM (fresh l.mark) with
  | .error e => .error e
  | .ok outer => (fresh l.mark l.key).map fun k => { l with key := k, outerKeys := outer.reverse }

/-! ### Blocks -/

/-- Opens a block at a column, unless one is open there; its token goes in front of the token of a given
number. -/
def openBlock (l : Layout) (column : Int) (number : Nat) (kind : TokenKind) (m : Mark) : Layout :=
  if l.inFlow || column ≤ l.indent then l
  else { l.putBefore number kind m with indent := column, outerIndents := l.indent :: l.outerIndents }

/-- The tokens that close the blocks right of a column, and the columns that stay. -/
def closing (column : Int) (m : Mark) : Int → List Int → List Token × Int × List Int
  | indent, [] => ([], indent, [])
  | indent, outer :: rest =>
    if column < indent then
      let (ts, state) := closing column m outer rest
      (⟨.blockEnd, m, m⟩ :: ts, state)
    else ([], indent, outer :: rest)

/-- Closes the blocks right of a column. -/
def closeBlocks (l : Layout) (column : Int) : Layout :=
  if l.inFlow then l
  else
    let (ts, indent, outer) := closing column l.mark l.indent l.outerIndents
    { l with tokens := l.tokens ++ ts.toArray, indent := indent, outerIndents := outer }

/-! ### Single tokens -/

/-- Reads a token that is a fixed number of characters. -/
def fixed (l : Layout) (kind : TokenKind) (n : Nat) : Layout :=
  let behind := l.cursor.advance n
  { l.push ⟨kind, l.mark, behind.mark⟩ with cursor := behind }

/-- Sets whether a key can start. -/
def allowKey (b : Bool) (l : Layout) : Layout := { l with keyAllowed := b }

/-- Takes over a token that was read, with the cursor behind it. -/
def take (l : Layout) : Except Fault (Token × Cursor) → Except Fault Layout
  | .ok (t, c) => .ok { l.push t with cursor := c }
  | .error e => .error e

/-- Opens a flow collection. -/
def openFlow (l : Layout) (kind : TokenKind) : Except Fault Layout :=
  l.saveKey.map fun l =>
    (allowKey true { l with key := none, outerKeys := l.key :: l.outerKeys }).fixed kind 1

/-- Closes a flow collection. -/
def closeFlow (l : Layout) (kind : TokenKind) : Except Fault Layout :=
  l.dropKey.map fun l =>
    let l := match l.outerKeys with
      | [] => l
      | k :: rest => { l with key := k, outerKeys := rest }
    (l.allowKey false).fixed kind 1

/-- Reads the indicator of an entry or of a key of a block, or the indicator of a key in a flow
collection. -/
def indicator (l : Layout) (problem : Problem) (opens kind : TokenKind) : Except Fault Layout :=
  if !l.inFlow && !l.keyAllowed then l.refuse problem
  else
    (l.openBlock l.column l.tokens.size opens l.mark).dropKey.map fun l =>
      (l.allowKey (!l.inFlow || kind == .blockEntry)).fixed kind 1

/-- Reads the colon in front of a value; the pending key, if there is one, becomes a key. -/
def colon (l : Layout) : Except Fault Layout :=
  match l.key with
  | some k =>
    let l := (l.putBefore k.number .key k.mark).openBlock k.mark.column k.number .blockMapping k.mark
    .ok ((allowKey false { l with key := none }).fixed .value 1)
  | none =>
    if !l.inFlow && !l.keyAllowed then l.refuse .noValueHere
    else
      .ok (((l.openBlock l.column l.tokens.size .blockMapping l.mark).allowKey (!l.inFlow)).fixed .value 1)

/-- Reads a directive or a document marker, which close all blocks. -/
def betweenDocuments (l : Layout) (read : Layout → Except Fault Layout) : Except Fault Layout :=
  match (l.closeBlocks (-1)).dropKey with
  | .error e => .error e
  | .ok l => read (l.allowKey false)

/-- Reads a token that can become a key. -/
def keyLike (l : Layout) (read : Cursor → Except Fault (Token × Cursor)) : Except Fault Layout :=
  match l.saveKey with
  | .error e => .error e
  | .ok l => (l.allowKey false).take (read l.cursor)

/-- Reads an anchor or an alias. -/
def readName (activity : Activity) (kind : String → TokenKind) (c : Cursor) :
    Except Fault (Token × Cursor) :=
  (Scan.name activity c).map fun (s, behind) => (⟨kind s, c.mark, behind.mark⟩, behind)

/-- Reads a tag. -/
def readTag (inFlow : Bool) (c : Cursor) : Except Fault (Token × Cursor) :=
  (Scan.tag inFlow c).map fun ((handle, rest), behind) => (⟨.tag handle rest, c.mark, behind.mark⟩, behind)

/-- Reads a plain scalar; a key can start behind one that ends with its line. -/
def plain (l : Layout) : Except Fault Layout :=
  match l.saveKey with
  | .error e => .error e
  | .ok l =>
    match Scan.plain l.inFlow (l.indent + 1).toNat l.cursor with
    | .error e => .error e
    | .ok ((t, broken), c) => .ok { l.push t with cursor := c, keyAllowed := broken }

/-- Reads a block scalar. -/
def block (isLiteral : Bool) (l : Layout) : Except Fault Layout :=
  match l.dropKey with
  | .error e => .error e
  | .ok l => (l.allowKey true).take (Scan.block isLiteral l.indent l.cursor)

/-! ### The next token -/

/-- Moves over blanks, comments and line breaks. Where a key can start, a tab cannot be skipped in
front of it. -/
def skipSpace : Nat → Layout → Layout
  | 0, l => l
  | fuel + 1, l =>
    let c := l.cursor
    let c := if c.mark.column == 0 && c.next == '\ufeff' then c.skip else c
    let c := (c.run fun x => x == ' ' || ((l.inFlow || !l.keyAllowed) && x == '\t')).2.skipComment
    if isBreak c.next then
      skipSpace fuel { l with cursor := c.skipBreak, keyAllowed := l.keyAllowed || !l.inFlow }
    else { l with cursor := c }

/-- Ends the text: all blocks are closed in a line of their own. -/
def finish (l : Layout) : Except Fault Layout :=
  let m := l.mark
  let m := if m.column == 0 then m else { m with line := m.line + 1, column := 0 }
  (closeBlocks { l with cursor := ⟨[], m⟩ } (-1)).dropKey.map fun l =>
    (l.allowKey false).push ⟨.streamEnd, m, m⟩

/-- Whether a plain scalar can start at a cursor. -/
def startsPlain (inFlow : Bool) (c : Cursor) : Bool :=
  !(endsWord c.next || "-?:,[]\x7b\x7d#&*!|>'\"%@`".toList.contains c.next) ||
    (c.next == '-' && !isBlank (c.ahead 1)) ||
    (!inFlow && (c.next == '?' || c.next == ':') && !endsWord (c.ahead 1))

/-- Reads the token at the cursor. -/
def readToken (l : Layout) : Except Fault Layout :=
  let c := l.cursor
  let x := c.next
  let alone := endsWord (c.ahead 1)
  if c.mark.column == 0 && x == '%' then
    l.betweenDocuments fun l => l.take (Scan.directive l.cursor)
  else if c.atMarker '-' then l.betweenDocuments fun l => .ok (l.fixed .documentStart 3)
  else if c.atMarker '.' then l.betweenDocuments fun l => .ok (l.fixed .documentEnd 3)
  else if x == '[' then l.openFlow .flowSequence
  else if x == '\x7b' then l.openFlow .flowMapping
  else if x == ']' then l.closeFlow .flowSequenceEnd
  else if x == '\x7d' then l.closeFlow .flowMappingEnd
  else if x == ',' then l.dropKey.map fun l => (l.allowKey true).fixed .flowEntry 1
  else if x == '-' && alone then l.indicator .noEntryHere .blockSequence .blockEntry
  else if x == '?' && (l.inFlow || alone) then l.indicator .noKeyHere .blockMapping .key
  else if x == ':' && (l.inFlow || alone) then l.colon
  else if x == '*' then l.keyLike (readName .reference .reference)
  else if x == '&' then l.keyLike (readName .anchor .anchor)
  else if x == '!' then l.keyLike (readTag l.inFlow)
  else if x == '|' && !l.inFlow then l.block true
  else if x == '>' && !l.inFlow then l.block false
  else if x == '\'' then l.keyLike (Scan.quoted true)
  else if x == '"' then l.keyLike (Scan.quoted false)
  else if startsPlain l.inFlow c then l.plain
  else .error ⟨.noToken, c.mark, some (.nextToken, c.mark)⟩

/-- Reads one more token, with the tokens that indentation puts in front of it. -/
def step (l : Layout) : Except Fault Layout :=
  match (skipSpace (l.cursor.rest.length + 1) l).dropStaleKeys with
  | .error e => .error e
  | .ok l =>
    let l := l.closeBlocks l.column
    let read := if l.cursor.atEnd then l.finish else l.readToken
    match read with
    | .error e => .error e
    | .ok l => l.dropStaleKeys

/-- The number of tokens that can no longer change. -/
def settled (l : Layout) : Nat :=
  (l.key :: l.outerKeys).foldl
    (fun n k => match k with
      | some k => min n k.number
      | none => n)
    l.tokens.size

/-- Whether the last token has been read. -/
def isDone (l : Layout) : Bool := l.tokens.back?.any fun t => t.kind == .streamEnd

end Layout

/-- The tokens of a text; those of a text with a fault end in front of it. -/
structure Tokens where
  known : List Token
  fault : Option Fault := none

/-- Reads tokens up to the end or to a fault. -/
def Layout.run : Nat → Layout → Tokens
  | 0, l => ⟨l.tokens.toList, none⟩
  | fuel + 1, l =>
    if l.isDone then ⟨l.tokens.toList, none⟩
    else
      match l.step with
      | .ok next => next.run fuel
      | .error e => ⟨l.tokens.toList.take l.settled, some e⟩

/-! ### Texts -/

/-- Whether a character can stand in a text. -/
def isTextChar (c : Char) : Bool :=
  let n := c.toNat
  n == 9 || n == 10 || n == 13 || (0x20 ≤ n && n ≤ 0x7E) || n == 0x85 || (0xA0 ≤ n && n ≤ 0xFFFD) ||
    0x10000 ≤ n

/-- The offset in bytes of the first character that cannot stand in a text. -/
def firstControl (bytes : Nat) : List Char → Option Nat
  | [] => none
  | c :: rest => if isTextChar c then firstControl (bytes + c.utf8Size) rest else some bytes

/-- Cuts a text into tokens. A byte order mark at its start is no part of it. -/
def tokens (s : String) : Tokens :=
  match firstControl 0 s.toList with
  | some n => ⟨[], some ⟨.controlCharacter, ⟨n, 0, 0⟩, none⟩⟩
  | none =>
    let cs := match s.toList with
      | '\ufeff' :: rest => rest
      | cs => cs
    let start : Token := ⟨.streamStart, {}, {}⟩
    Layout.run (cs.length + 2) { cursor := ⟨cs, {}⟩, tokens := #[start] }

end HandlerChain.Yaml
