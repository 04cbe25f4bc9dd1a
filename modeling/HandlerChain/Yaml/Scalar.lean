import HandlerChain.Yaml.Tag

/-!
# Scalars of YAML

The text of a scalar in each of its styles. Plain and quoted scalars fold line breaks; block scalars
keep their lines relative to an indentation.

## Main Definitions

* `Yaml.Scan.plain` reads a plain scalar.
* `Yaml.Scan.quoted` reads a scalar between quotes.
* `Yaml.Scan.block` reads a literal or folded scalar.
-/

namespace HandlerChain.Yaml.Scan

/-! ### Plain scalars -/

/-- The characters up to a blank or to an indicator that ends a plain scalar, and whether they end at a
colon that cannot stand there. -/
def plainWord (flow : Bool) : List Char → List Char × Bool
  | [] => ([], false)
  | x :: rest =>
    let after := rest.headD endMarker
    if endsWord x then ([], false)
    else if flow && x == ':' && ",?[]\x7b\x7d".toList.contains after then ([], true)
    else if x == ':' && endsWord after then ([], false)
    else if flow && ",[]\x7b\x7d".toList.contains x then ([], false)
    else
      let (word, misplaced) := plainWord flow rest
      (x :: word, misplaced)

/-- A plain scalar that has been read. -/
structure Plain where
  text : List Char
  stop : Mark
  broken : Bool

/-- Reads words of a plain scalar that are indented by `indent` at least. -/
def plainFrom (flow : Bool) (indent : Nat) (since : Mark) : Nat → Plain → Gap → Scan Plain
  | 0, p, _ => fun c => .ok (p, c)
  | fuel + 1, p, g => fun c =>
    if c.atDocumentMarker || c.next == '#' then .ok ({ p with broken := g.broken }, c)
    else
      let (word, misplaced) := plainWord flow c.rest
      let behind := c.advance word.length
      if misplaced then fail .plainScalar since .misplacedColon behind
      else
        let p := if word.isEmpty then { p with broken := g.broken }
          else { text := p.text ++ g.text ++ word, stop := behind.mark, broken := false }
        let g := if word.isEmpty then g else {}
        if !(isBlank behind.next || isBreak behind.next) then .ok (p, behind)
        else
          let refuse (m : Mark) : Fault := ⟨.misplacedTab, m, some (.plainScalar, since)⟩
          match Gap.read indent refuse (behind.rest.length + 1) g behind with
          | .error e => .error e
          | .ok (g, c) =>
            if !flow && c.mark.column < indent then .ok ({ p with broken := g.broken }, c)
            else plainFrom flow indent since fuel p g c

/-- Reads a plain scalar, and whether a line break was read behind it. -/
def plain (flow : Bool) (indent : Nat) : Scan (Token × Bool) := fun c =>
  match plainFrom flow indent c.mark (c.rest.length + 1) ⟨[], c.mark, false⟩ {} c with
  | .error e => .error e
  | .ok (p, behind) => .ok ((⟨.scalar (String.ofList p.text) .plain, c.mark, p.stop⟩, p.broken), behind)

/-! ### Quoted scalars -/

/-- What an escape stands for: a character, or a number of hexadecimal digits that follow. -/
def escape? (c : Char) : Option (Char ⊕ Nat) :=
  if c == '0' then some (.inl '\x00')
  else if c == 'a' then some (.inl '\x07')
  else if c == 'b' then some (.inl '\x08')
  else if c == 't' || c == '\t' then some (.inl '\t')
  else if c == 'n' then some (.inl '\n')
  else if c == 'v' then some (.inl '\x0b')
  else if c == 'f' then some (.inl '\x0c')
  else if c == 'r' then some (.inl '\r')
  else if c == 'e' then some (.inl '\x1b')
  else if c == ' ' || c == '"' || c == '/' || c == '\\' then some (.inl c)
  else if c == 'N' then some (.inl '\u0085')
  else if c == '_' then some (.inl '\u00a0')
  else if c == 'L' then some (.inl '\u2028')
  else if c == 'P' then some (.inl '\u2029')
  else if c == 'x' then some (.inr 2)
  else if c == 'u' then some (.inr 4)
  else if c == 'U' then some (.inr 8)
  else none

/-- The number of hexadecimal digits, if all of them are. -/
def hexNumber? (cs : List Char) : Option Nat :=
  cs.foldlM (fun acc c => (hexValue? c).map (16 * acc + ·)) 0

/-- Reads an escape. -/
def escape (since : Mark) : Scan Char := fun c =>
  match escape? (c.ahead 1) with
  | none => fail .quotedText since .unknownEscape c
  | some (.inl x) => .ok (x, c.advance 2)
  | some (.inr n) =>
    let c := c.advance 2
    let digits := c.rest.take n
    match (if digits.length < n then none else hexNumber? digits) with
    | none => fail .quotedText since .noHexDigits c
    | some code =>
      if code.isValidChar then .ok (Char.ofNat code, c.advance n)
      else fail .quotedText since .invalidCode c

/-- Reads the characters of a quoted scalar up to a blank or the closing quote, and whether they end at
an escaped line break. -/
def quotedWord (single : Bool) (since : Mark) : Nat → List Char → Scan (List Char × Bool)
  | 0, acc => fun c => .ok ((acc, false), c)
  | fuel + 1, acc => fun c =>
    if endsWord c.next then .ok ((acc, false), c)
    else if single then
      if c.next == '\'' then
        if c.ahead 1 == '\'' then quotedWord single since fuel (acc ++ ['\'']) (c.advance 2)
        else .ok ((acc, false), c)
      else quotedWord single since fuel (acc ++ [c.next]) c.skip
    else if c.next == '"' then .ok ((acc, false), c)
    else if c.next == '\\' then
      if isBreak (c.ahead 1) then .ok ((acc, true), c.skip.skipBreak)
      else
        match escape since c with
        | .error e => .error e
        | .ok (x, c) => quotedWord single since fuel (acc ++ [x]) c
    else quotedWord single since fuel (acc ++ [c.next]) c.skip

/-- Reads a quoted scalar behind its opening quote. -/
def quotedFrom (single : Bool) (since : Mark) : Nat → List Char → Scan (List Char)
  | 0, acc => fun c => .ok (acc, c)
  | fuel + 1, acc => fun c =>
    if c.atDocumentMarker then fail .quotedScalar since .documentMarker c
    else if c.atEnd then fail .quotedScalar since .endOfText c
    else
      match quotedWord single since (c.rest.length + 1) acc c with
      | .error e => .error e
      | .ok ((acc, broken), c) =>
        if c.next == (if single then '\'' else '"') then .ok (acc, c.skip)
        else
          let refuse (m : Mark) : Fault := ⟨.misplacedTab, m, some (.quotedScalar, since)⟩
          match Gap.read 0 refuse (c.rest.length + 1) { broken := broken } c with
          | .error e => .error e
          | .ok (g, c) => quotedFrom single since fuel (acc ++ g.text) c

/-- Reads a quoted scalar. -/
def quoted (single : Bool) : Scan Token := fun c =>
  match quotedFrom single c.mark (c.rest.length + 2) [] c.skip with
  | .error e => .error e
  | .ok (text, behind) =>
    let style : ScalarStyle := if single then .singleQuoted else .doubleQuoted
    .ok (⟨.scalar (String.ofList text) style, c.mark, behind.mark⟩, behind)

/-! ### Block scalars -/

/-- What is done with the line breaks at the end of a block scalar. -/
inductive Chomping where
  | strip
  | clip
  | keep
  deriving DecidableEq

/-- Chomping by its indicator. -/
def chomping? (c : Char) : Option Chomping :=
  if c == '+' then some .keep else if c == '-' then some .strip else none

/-- Reads the digit of an indentation; without one it is zero. -/
def indentDigit (since : Mark) : Scan Nat := fun c =>
  if c.next == '0' then fail .blockScalar since .zeroIndent c
  else if c.next.isDigit then .ok (c.next.toNat - 48, c.skip)
  else .ok (0, c)

/-- Reads chomping and indentation, in either order. -/
def blockHeader (since : Mark) : Scan (Chomping × Nat) := fun c =>
  match chomping? c.next with
  | some ch => (indentDigit since c.skip).map fun (n, c) => ((ch, n), c)
  | none =>
    match indentDigit since c with
    | .error e => .error e
    | .ok (n, behind) =>
      match chomping? behind.next with
      | some ch => .ok ((ch, n), behind.skip)
      | none => .ok ((.clip, n), behind)

/-- Blank lines in front of a line of a block scalar. -/
structure BlockGap where
  breaks : List Char := []
  widest : Nat := 0
  stop : Mark

/-- Reads blank lines and the indentation of the line behind them; an indentation of zero is not known
yet. -/
def blockGap (since : Mark) (indent : Nat) : Nat → BlockGap → Scan BlockGap
  | 0, g => fun c => .ok (g, c)
  | fuel + 1, g => fun c =>
    let spaces := (c.rest.takeWhile (· == ' ')).length
    let c := c.advance (if indent = 0 then spaces else min spaces (indent - c.mark.column))
    let g := { g with widest := max g.widest c.mark.column }
    if (indent = 0 || c.mark.column < indent) && c.next == '\t' then fail .blockScalar since .tabIndent c
    else if !isBreak c.next then .ok (g, c)
    else
      let behind := c.skipBreak
      blockGap since indent fuel { g with breaks := g.breaks ++ c.lineBreak, stop := behind.mark } behind

/-- A block scalar that is being read: its text, the line break behind its last line, the blank lines
behind that, and whether that line starts with a blank. -/
structure Block where
  text : List Char
  last : List Char
  gap : BlockGap
  spaced : Bool

/-- Reads lines of a block scalar. -/
def blockLines (isLiteral : Bool) (since : Mark) (indent : Nat) : Nat → Block → Scan Block
  | 0, b => fun c => .ok (b, c)
  | fuel + 1, b => fun c =>
    if c.mark.column != indent || c.atEnd then .ok (b, c)
    else
      let spaced := isBlank c.next
      let join := if !isLiteral && b.last == ['\n'] && !b.spaced && !spaced
        then (if b.gap.breaks.isEmpty then [' '] else []) else b.last
      let (line, behind) := c.run fun x => !endsLine x
      let next := behind.skipBreak
      match blockGap since indent (next.rest.length + 1) { stop := next.mark } next with
      | .error e => .error e
      | .ok (g, c) =>
        blockLines isLiteral since indent fuel
          ⟨b.text ++ join ++ b.gap.breaks ++ line, behind.lineBreak, g, spaced⟩ c

/-- The text of a block scalar with its end as the chomping says. -/
def Block.chomp (b : Block) : Chomping → List Char
  | .strip => b.text
  | .clip => b.text ++ b.last
  | .keep => b.text ++ b.last ++ b.gap.breaks

/-- Reads a block scalar inside a block that is indented by `outer`. -/
def block (isLiteral : Bool) (outer : Int) : Scan Token := fun c =>
  let since := c.mark
  match blockHeader since c.skip with
  | .error e => .error e
  | .ok ((ch, n), c) =>
    let c := c.skipBlanks.skipComment
    if !endsLine c.next then fail .blockScalar since .blockHeaderEnd c
    else
      let c := c.skipBreak
      let given := if n = 0 then 0 else if 0 ≤ outer then outer.toNat + n else n
      match blockGap since given (c.rest.length + 1) { stop := c.mark } c with
      | .error e => .error e
      | .ok (g, c) =>
        let indent := if given = 0 then max (max g.widest (outer + 1).toNat) 1 else given
        match blockLines isLiteral since indent (c.rest.length + 1) ⟨[], [], g, false⟩ c with
        | .error e => .error e
        | .ok (b, c) =>
          let style : ScalarStyle := if isLiteral then .literal else .folded
          .ok (⟨.scalar (String.ofList (b.chomp ch)) style, since, b.gap.stop⟩, c)

end HandlerChain.Yaml.Scan
