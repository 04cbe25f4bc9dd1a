import HandlerChain.Yaml.Cursor

/-!
# Tokens of YAML

The smallest parts of a YAML text, among them those that stand for indentation.

## Main Definitions

* `Yaml.TokenKind` is what a token says, `Yaml.Token` a token with its place.
* `Yaml.ScalarStyle` is how a scalar is written.
-/

namespace HandlerChain.Yaml

/-- How a scalar is written. -/
inductive ScalarStyle where
  | plain
  | singleQuoted
  | doubleQuoted
  | literal
  | folded
  deriving DecidableEq, Repr

/-- What a token says. -/
inductive TokenKind where
  | streamStart
  | streamEnd
  | version (major minor : Nat)
  | tagDirective (handle meaning : String)
  | documentStart
  | documentEnd
  | blockSequence
  | blockMapping
  | blockEnd
  | flowSequence
  | flowSequenceEnd
  | flowMapping
  | flowMappingEnd
  | blockEntry
  | flowEntry
  | key
  | value
  | reference (name : String)
  | anchor (name : String)
  | tag (handle rest : String)
  | scalar (text : String) (style : ScalarStyle)
  deriving DecidableEq, Repr

/-- A token with the places of its start and its end. -/
structure Token where
  kind : TokenKind
  start : Mark
  stop : Mark
  deriving Repr

/-- A reader of a part of the text: what it reads, and the cursor behind it. -/
abbrev Scan (α : Type) := Cursor → Except Fault (α × Cursor)

end HandlerChain.Yaml
