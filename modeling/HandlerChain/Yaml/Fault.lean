/-!
# Faults in YAML text

What can be wrong with the form of a YAML text, with the place where it was noticed and what was being
read at the time.

## Main Definitions

* `Yaml.Mark` is a place in a text.
* `Yaml.Problem` is what is wrong, `Yaml.Activity` what was being read.
* `Yaml.Fault` is a problem with its place, and `Yaml.Fault.message` its wording.
-/

namespace HandlerChain.Yaml

/-- A place in a text; lines and columns count from zero. -/
structure Mark where
  offset : Nat := 0
  line : Nat := 0
  column : Nat := 0
  deriving DecidableEq, Repr, Inhabited

namespace Mark

/-- Whether a place is in the first column of the first line; such a place is never shown. -/
def isFirst (m : Mark) : Bool := m.line == 0 && m.column == 0

/-- Whether two places are in one line and column. -/
def same (m n : Mark) : Bool := m.line == n.line && m.column == n.column

/-- A place as a reader sees it, counting from one. -/
def text (m : Mark) : String :=
  " at line " ++ toString (m.line + 1) ++ " column " ++ toString (m.column + 1)

/-- The place, unless it is the first. -/
def suffix (m : Mark) : String := if m.isFirst then "" else m.text

end Mark

/-- What is wrong with the form of a text. -/
inductive Problem where
  | controlCharacter
  | noColon
  | noToken
  | noEntryHere
  | noKeyHere
  | noValueHere
  | unknownDirective
  | noDirectiveName
  | directiveName
  | directiveEnd
  | noVersionDot
  | noVersionDigits
  | longVersion
  | noBang
  | noBlank
  | noBlankOrBreak
  | noName
  | noTagEnd
  | noTagText
  | noOctet
  | firstOctet
  | laterOctet
  | zeroIndent
  | blockHeaderEnd
  | tabIndent
  | documentMarker
  | endOfText
  | unknownEscape
  | noHexDigits
  | invalidCode
  | misplacedColon
  | misplacedTab
  | noDocumentStart
  | secondVersion
  | otherVersion
  | secondTagDirective
  | undefinedHandle
  | noContent
  | noDash
  | noKey
  | noSequenceEnd
  | noMappingEnd
  deriving DecidableEq, Repr

/-- The wording of a problem. -/
def Problem.text : Problem → String
  | controlCharacter => "control characters are not allowed"
  | noColon => "could not find expected ':'"
  | noToken => "found character that cannot start any token"
  | noEntryHere => "block sequence entries are not allowed in this context"
  | noKeyHere => "mapping keys are not allowed in this context"
  | noValueHere => "mapping values are not allowed in this context"
  | unknownDirective => "found unknown directive name"
  | noDirectiveName => "could not find expected directive name"
  | directiveName => "found unexpected non-alphabetical character"
  | directiveEnd => "did not find expected comment or line break"
  | noVersionDot => "did not find expected digit or '.' character"
  | noVersionDigits => "did not find expected version number"
  | longVersion => "found extremely long version number"
  | noBang => "did not find expected '!'"
  | noBlank => "did not find expected whitespace"
  | noBlankOrBreak => "did not find expected whitespace or line break"
  | noName => "did not find expected alphabetic or numeric character"
  | noTagEnd => "did not find the expected '>'"
  | noTagText => "did not find expected tag URI"
  | noOctet => "did not find URI escaped octet"
  | firstOctet => "found an incorrect leading UTF-8 octet"
  | laterOctet => "found an incorrect trailing UTF-8 octet"
  | zeroIndent => "found an indentation indicator equal to 0"
  | blockHeaderEnd => "did not find expected comment or line break"
  | tabIndent => "found a tab character where an indentation space is expected"
  | documentMarker => "found unexpected document indicator"
  | endOfText => "found unexpected end of stream"
  | unknownEscape => "found unknown escape character"
  | noHexDigits => "did not find expected hexdecimal number"
  | invalidCode => "found invalid Unicode character escape code"
  | misplacedColon => "found unexpected ':'"
  | misplacedTab => "found a tab character that violates indentation"
  | noDocumentStart => "did not find expected <document start>"
  | secondVersion => "found duplicate %YAML directive"
  | otherVersion => "found incompatible YAML document"
  | secondTagDirective => "found duplicate %TAG directive"
  | undefinedHandle => "found undefined tag handle"
  | noContent => "did not find expected node content"
  | noDash => "did not find expected '-' indicator"
  | noKey => "did not find expected key"
  | noSequenceEnd => "did not find expected ',' or ']'"
  | noMappingEnd => "did not find expected ',' or '\x7d'"

/-- What was being read when a problem was noticed. -/
inductive Activity where
  | simpleKey
  | nextToken
  | directive
  | versionDirective
  | tagDirective
  | tagDirectiveText
  | handleDirective
  | handleDirectiveText
  | anchor
  | reference
  | tag
  | tagText
  | blockScalar
  | quotedScalar
  | quotedText
  | plainScalar
  | node
  | blockNode
  | flowNode
  | blockCollection
  | blockMapping
  | flowSequence
  | flowMapping
  deriving DecidableEq, Repr

/-- The wording of an activity. -/
def Activity.text : Activity → String
  | simpleKey => "while scanning a simple key"
  | nextToken => "while scanning for the next token"
  | directive => "while scanning a directive"
  | versionDirective => "while scanning a %YAML directive"
  | tagDirective => "while scanning a %TAG directive"
  | tagDirectiveText => "while parsing a %TAG directive"
  | handleDirective => "while scanning a tag directive"
  | handleDirectiveText => "while parsing a tag directive"
  | anchor => "while scanning an anchor"
  | reference => "while scanning an alias"
  | tag => "while scanning a tag"
  | tagText => "while parsing a tag"
  | blockScalar => "while scanning a block scalar"
  | quotedScalar => "while scanning a quoted scalar"
  | quotedText => "while parsing a quoted scalar"
  | plainScalar => "while scanning a plain scalar"
  | node => "while parsing a node"
  | blockNode => "while parsing a block node"
  | flowNode => "while parsing a flow node"
  | blockCollection => "while parsing a block collection"
  | blockMapping => "while parsing a block mapping"
  | flowSequence => "while parsing a flow sequence"
  | flowMapping => "while parsing a flow mapping"

/-- A problem with its place, and what was being read since which place. -/
structure Fault where
  problem : Problem
  mark : Mark
  during : Option (Activity × Mark) := none
  deriving Repr

namespace Fault

/-- The place of a problem. Where lines mean nothing to it, a place is the offset in bytes. -/
def place (f : Fault) : String :=
  if !f.mark.isFirst then f.mark.text
  else if f.problem = .controlCharacter ∧ f.mark.offset ≠ 0 then
    " at position " ++ toString f.mark.offset
  else ""

/-- What was being read; its place is left out where it is that of the problem. -/
def occasion (f : Fault) : String :=
  match f.during with
  | none => ""
  | some (activity, since) =>
    ", " ++ activity.text ++ (if since.same f.mark then "" else since.suffix)

/-- The wording of a fault. -/
def message (f : Fault) : String := f.problem.text ++ f.place ++ f.occasion

end Fault

end HandlerChain.Yaml
