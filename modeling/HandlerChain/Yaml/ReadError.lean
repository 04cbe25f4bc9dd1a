import HandlerChain.Yaml.Fault

/-!
# Errors of reading YAML

A text cannot be read because its form is wrong, because of its aliases, because it holds more than one
document, or because its data does not fit. Only the last kind names where in the data it stands.

## Main Definitions

* `Yaml.Path` is the way from the root of a document to a value.
* `Yaml.ReadError` is an error, and `Yaml.ReadError.message` its wording.
-/

namespace HandlerChain.Yaml

/-- One step from a collection to a value in it. A key that is no scalar has no name. -/
inductive PathStep where
  | item (index : Nat)
  | entry (key : String)
  | unnamed
  deriving Repr

/-- The way from the root to a value, from its last step to its first. -/
abbrev Path := List PathStep

namespace Path

/-- The text of a way; the root is a point. -/
def text : Path → String
  | [] => "."
  | .item n :: rest => text rest ++ "[" ++ toString n ++ "]"
  | .entry key :: rest => owner rest ++ key
  | .unnamed :: rest => owner rest ++ "?"
where
  /-- A way in front of a key. -/
  owner : Path → String
    | [] => ""
    | p => text p ++ "."

end Path

/-- Why a text cannot be read. -/
inductive ReadError where
  | fault (f : Fault)
  | unknownAnchor (mark : Mark)
  | tooDeep (mark : Mark)
  | tooManyAliases
  | noDocument
  | moreDocuments
  | data (message : String) (path : Path) (mark : Mark)
  deriving Repr

/-- The wording of an error. -/
def ReadError.message : ReadError → String
  | fault f => f.message
  | unknownAnchor m => "unknown anchor" ++ m.suffix
  | tooDeep m => "recursion limit exceeded" ++ m.suffix
  | tooManyAliases => "repetition limit exceeded"
  | noDocument => "EOF while parsing a value"
  | moreDocuments => "deserializing from YAML containing more than one document is not supported"
  | data message path m =>
    (if path.isEmpty then "" else path.text ++ ": ") ++ message ++ m.suffix

end HandlerChain.Yaml
