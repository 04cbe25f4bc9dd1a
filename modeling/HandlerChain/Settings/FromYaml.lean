import HandlerChain.Settings.Setting
import HandlerChain.Yaml.Atom

/-!
# Settings from YAML

A settings file is a mapping whose keys are scalars. The last of several entries with one key counts, and
values have no tags of their own.

## Main Definitions

* `Setting.ofYaml` reads the text of a settings file.
-/

namespace HandlerChain.Setting

open Yaml (Node ReadError Path Mark Atom dataError)

/-- What a setting is expected to be. -/
def expected : String := "any valid figment value"

/-- The setting of a scalar. -/
def ofAtom (l : Layer) : Atom → Setting
  | .null => unit l
  | .bool b => bool l b
  | .integer negative n => number l (if negative then .signed (-n) else .unsigned n)
  | .float x => number l (.float x)
  | .text s => text l s

/-- Refuses a value with an own tag. -/
def untagged (path : Path) (m : Mark) (tag : Option String) : Except ReadError Unit :=
  match Node.ownTag? tag with
  | some _ => dataError path m (.custom ("invalid type: enum, expected " ++ expected))
  | none => .ok ()

/-- The text of a key. -/
def keyOf (path : Path) : Node → Except ReadError String
  | .scalar _ _ _ s => .ok s
  | .sequence m _ _ => dataError path m (.wrongType .sequence "a string")
  | .mapping m _ _ => dataError path m (.wrongType .map "a string")
  | .reference _ target => keyOf path target
  | .broken e => .error e
  | .absent => .error .noDocument

mutual

/-- Reads a node. -/
def ofNode (l : Layer) (path : Path) : Node → Except ReadError Setting
  | .absent => .ok (unit l)
  | .scalar m tag style s =>
    match untagged path m tag with
    | .error e => .error e
    | .ok () =>
      match Atom.ofScalar tag style s with
      | .error e => dataError path m e
      | .ok a => .ok (ofAtom l a)
  | .sequence m tag items =>
    match untagged path m tag with
    | .error e => .error e
    | .ok () => (ofItems l path 0 items).map (sequence l)
  | .mapping m tag entries =>
    match untagged path m tag with
    | .error e => .error e
    | .ok () => (ofEntries l path [] entries).map (table l)
  | .reference _ target => ofNode l path target
  | .broken e => .error e

/-- Reads the items of a sequence. -/
def ofItems (l : Layer) (path : Path) (index : Nat) : List Node → Except ReadError (List Setting)
  | [] => .ok []
  | n :: rest =>
    match ofNode l (.item index :: path) n with
    | .error e => .error e
    | .ok s => (ofItems l path (index + 1) rest).map (s :: ·)

/-- Reads the entries of a mapping behind others. -/
def ofEntries (l : Layer) (path : Path) (before : List (String × Setting)) :
    List (Node × Node) → Except ReadError (List (String × Setting))
  | [] => .ok before
  | (k, n) :: rest =>
    match keyOf path k with
    | .error e => .error e
    | .ok key =>
      match ofNode l (k.step :: path) n with
      | .error e => .error e
      | .ok s => ofEntries l path (put key s before) rest

end

/-- Reads the root of a settings file, which is a mapping or nothing at all. -/
def ofRoot (l : Layer) : Node → Except ReadError (List (String × Setting))
  | .absent => .ok []
  | .scalar m tag style s =>
    if style = .plain ∧ s.isEmpty then .ok []
    else
      match Atom.ofScalar tag style s with
      | .error e => dataError [] m e
      | .ok a => dataError [] m (a.wrongType "a map")
  | .sequence m _ _ => dataError [] m (.wrongType .sequence "a map")
  | .mapping _ _ entries => ofEntries l [] [] entries
  | .reference _ _ => .error .noDocument
  | .broken e => .error e

/-- Reads the text of a settings file. -/
def ofYaml (path : String) (s : String) : Except ReadError Setting :=
  let l := Layer.file path
  ((Yaml.Parsed.ofString s).read (ofRoot l)).map (table l)

end HandlerChain.Setting
