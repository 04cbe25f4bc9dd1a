import HandlerChain.Json.Basic
import HandlerChain.Yaml.Atom

/-!
# Writing YAML

The block form of a value: an entry or an item in each line, two columns for each level, and sequences of
a mapping in the column of their key. A text is plain where that reads back as the same text; else it is
quoted, or a literal block if it has several lines.

## Main Definitions

* `Yaml.Form` is how a text is written, `Yaml.Form.of` the form of a text.
* `Yaml.render` is the text of a value.
-/

namespace HandlerChain.Yaml

/-- How a text is written. -/
inductive Form where
  | plain
  | single
  | double
  | literal
  deriving DecidableEq, Repr

namespace Form

/-- Whether a character is written as itself. -/
def isPrintable (c : Char) : Bool :=
  let n := c.toNat
  n == 0x0A || (0x20 ≤ n && n ≤ 0x7E) || (0xA0 ≤ n && n ≤ 0xFFFD && n != 0xFEFF)

/-- The first characters that are indicators wherever they start a text. -/
def indicators : List Char := "#,[]\x7b\x7d&*!|>'\"%@`".toList

/-- Whether a later character, between two others, would end or change a plain text. -/
def disturbs (before c after : Char) : Bool :=
  (c == ':' && endsWord after) || (c == '#' && endsWord before)

/-- Whether characters behind another hold one that would end or change a plain text. -/
def isDisturbed (before : Char) : List Char → Bool
  | [] => false
  | c :: rest => disturbs before c (rest.headD endMarker) || isDisturbed c rest

/-- Whether a text starts like something else than a plain text. -/
def startsOtherwise : List Char → Bool
  | [] => false
  | '-' :: '-' :: '-' :: _ => true
  | '.' :: '.' :: '.' :: _ => true
  | c :: rest =>
    indicators.contains c ||
      ((c == '?' || c == ':' || c == '-') && endsWord (rest.headD endMarker))

/-- Whether some line ends with a space. -/
def hasSpaceAtBreak : List Char → Bool
  | a :: b :: rest => (a == ' ' && isBreak b) || hasSpaceAtBreak (b :: rest)
  | _ => false

/-- Whether some line but the first starts with a space. -/
def hasBreakAtSpace : List Char → Bool
  | a :: b :: rest => (isBreak a && b == ' ') || hasBreakAtSpace (b :: rest)
  | _ => false

/-- Whether a text can be plain in a block. -/
def canBePlain (cs : List Char) : Bool :=
  cs.all isPrintable && !cs.any isBreak && cs.head? != some ' ' && cs.getLast? != some ' ' &&
    !startsOtherwise cs && !isDisturbed (cs.headD endMarker) (cs.drop 1)

/-- Whether a text can be a literal block. -/
def canBeLiteral (cs : List Char) : Bool :=
  cs.all isPrintable && !cs.isEmpty && cs.getLast? != some ' ' && !hasSpaceAtBreak cs

/-- Whether a text can be between single quotes. -/
def canBeSingle (cs : List Char) : Bool :=
  cs.all isPrintable && !hasSpaceAtBreak cs && !hasBreakAtSpace cs

/-- The old names of truth values, which are always quoted. -/
def truthNames : List String :=
  ["y", "Y", "yes", "Yes", "YES", "n", "N", "no", "No", "NO", "true", "True", "TRUE", "false", "False",
    "FALSE", "on", "On", "ON", "off", "Off", "OFF"]

/-- The form of a text; a key in front of a colon is in one line. -/
def of (isKey : Bool) (s : String) : Form :=
  let cs := s.toList
  let quoted := if canBeSingle cs then single else double
  if truthNames.contains s then quoted
  else if cs.contains '\n' then if canBeLiteral cs && !isKey then literal else double
  else if looksSpecial s then quoted
  else if isKey && cs.any isBreak then double
  else if canBePlain cs then plain
  else quoted

end Form

/-! ### Texts -/

/-- Upper case hexadecimal digits of a number, as many as asked for. -/
def hexDigits : Nat → Nat → List Char
  | 0, _ => []
  | k + 1, n => hexDigits k (n / 16) ++ [(Nat.digitChar (n % 16)).toUpper]

/-- What stands for a character between double quotes. -/
def escape (c : Char) : List Char :=
  let n := c.toNat
  if c == '"' || c == '\\' then ['\\', c]
  else if Form.isPrintable c && !isBreak c then [c]
  else if n == 0 then ['\\', '0']
  else if n == 7 then ['\\', 'a']
  else if n == 8 then ['\\', 'b']
  else if n == 9 then ['\\', 't']
  else if n == 10 then ['\\', 'n']
  else if n == 11 then ['\\', 'v']
  else if n == 12 then ['\\', 'f']
  else if n == 13 then ['\\', 'r']
  else if n == 0x1B then ['\\', 'e']
  else if n == 0x85 then ['\\', 'N']
  else if n == 0x2028 then ['\\', 'L']
  else if n == 0x2029 then ['\\', 'P']
  else if n ≤ 0xFF then '\\' :: 'x' :: hexDigits 2 n
  else if n ≤ 0xFFFF then '\\' :: 'u' :: hexDigits 4 n
  else '\\' :: 'U' :: hexDigits 8 n

/-- Spaces up to a column. -/
def pad (column : Nat) : String := String.ofList (List.replicate column ' ')

/-- The lines of a literal block; lines without text have no spaces. -/
def literalLines (column : Nat) (s : String) : String :=
  let lines := s.splitOn "\n"
  let lines := if lines.getLast? == some "" then lines.dropLast else lines
  String.join (lines.map fun line => (if line.isEmpty then "" else pad column ++ line) ++ "\n")

/-- What stands behind the indicator of a literal block: the indentation, if it cannot be seen, and what
is done with line breaks at the end. -/
def literalHints (s : String) : String :=
  let cs := s.toList
  let indent := if cs.head?.any fun c => c == ' ' || isBreak c then "2" else ""
  let ending := match cs.reverse with
    | [] => "-"
    | [c] => if isBreak c then "+" else "-"
    | c :: d :: _ => if !isBreak c then "-" else if isBreak d then "+" else ""
  indent ++ ending

/-- A text in a form that takes one line. -/
def renderInline (s : String) : Form → String
  | .single => "'" ++ s.replace "'" "''" ++ "'"
  | .double => String.ofList ('"' :: (s.toList.flatMap escape ++ ['"']))
  | _ => s

/-- A text in its form, with a line break behind it; the lines of a block start at a column. -/
def renderText (column : Nat) (s : String) : String :=
  match Form.of false s with
  | .literal => "|" ++ literalHints s ++ "\n" ++ literalLines column s
  | form => renderInline s form ++ "\n"

/-! ### Values -/

/-- The text of a number. -/
def renderNumber : Json.Number → String
  | .integer n => toString n
  | .float x => FloatLayout.yaml.render x

/-- Whether a key stands in front of its colon in one line. -/
def isSimpleKey (s : String) : Bool := s.utf8ByteSize ≤ 128 && !s.toList.any isBreak

mutual

/-- A value that starts at a column, behind what stands in front of it in its line. -/
def renderBlock (column : Nat) : Json → String
  | .null => "null\n"
  | .bool b => toString b ++ "\n"
  | .number n => renderNumber n ++ "\n"
  | .text s => renderText column s
  | .array [] => "[]\n"
  | .array (item :: rest) => "- " ++ renderBlock (column + 2) item ++ renderItems column rest
  | .object [] => "\x7b\x7d\n"
  | .object ((key, value) :: rest) => renderEntry column key value ++ renderEntries column rest
  termination_by v => (sizeOf v, 0)
  decreasing_by
    all_goals simp only [Prod.lex_def, Json.array.sizeOf_spec, Json.object.sizeOf_spec,
      List.cons.sizeOf_spec, Prod.mk.sizeOf_spec]
    all_goals omega

/-- Items in lines of their own. -/
def renderItems (column : Nat) : List Json → String
  | [] => ""
  | item :: rest => pad column ++ "- " ++ renderBlock (column + 2) item ++ renderItems column rest
  termination_by items => (sizeOf items, 0)
  decreasing_by
    all_goals simp only [Prod.lex_def, List.cons.sizeOf_spec]
    all_goals omega

/-- Entries in lines of their own. -/
def renderEntries (column : Nat) : List (String × Json) → String
  | [] => ""
  | (key, value) :: rest => pad column ++ renderEntry column key value ++ renderEntries column rest
  termination_by entries => (sizeOf entries, 0)
  decreasing_by
    all_goals simp only [Prod.lex_def, List.cons.sizeOf_spec, Prod.mk.sizeOf_spec]
    all_goals omega

/-- An entry that starts at a column. -/
def renderEntry (column : Nat) (key : String) (value : Json) : String :=
  if isSimpleKey key then
    renderInline key (Form.of true key) ++ ":" ++
      match value with
      | .array (item :: rest) =>
        "\n" ++ pad column ++ "- " ++ renderBlock (column + 2) item ++ renderItems column rest
      | .object ((k, v) :: rest) =>
        "\n" ++ pad (column + 2) ++ renderEntry (column + 2) k v ++ renderEntries (column + 2) rest
      | v => " " ++ renderBlock (column + 2) v
  else
    "? " ++ renderText (column + 2) key ++ pad column ++ ": " ++ renderBlock (column + 2) value
  -- The value itself is rendered as a block, which the second part of the measure puts after its entry.
  termination_by (sizeOf value, 1)
  decreasing_by
    all_goals simp only [Prod.lex_def, Json.array.sizeOf_spec, Json.object.sizeOf_spec,
      List.cons.sizeOf_spec, Prod.mk.sizeOf_spec, true_and, Nat.zero_lt_one, or_true]
    all_goals omega

end

/-- The text of a value. -/
def render (v : Json) : String := renderBlock 0 v

end HandlerChain.Yaml
