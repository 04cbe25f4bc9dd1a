import HandlerChain.Json.Basic
import HandlerChain.Yaml.Atom

/-!
# Values of YAML

The data of a document as such: keys are any values, no key stands twice, and a value with an own tag
keeps it.

## Main Definitions

* `Yaml.Value` is a value, `Yaml.Value.ofNode` reads one, `Yaml.Value.parse` reads a text.
* `Yaml.Value.toJson` is the JSON value with the same data, if there is one.
-/

namespace HandlerChain.Yaml

/-- A value. An own tag is kept without its exclamation mark. -/
inductive Value where
  | null
  | bool (b : Bool)
  | integer (n : Int)
  | float (x : Binary .double)
  | text (s : String)
  | sequence (items : List Value)
  | mapping (entries : List (Value × Value))
  | tagged (tag : String) (value : Value)
  deriving Inhabited

namespace Value

/-! ### Equality of keys -/

/-- Whether two floating point numbers are one key; all that are no numbers are. -/
def sameFloat : Binary .double → Binary .double → Bool
  | .finite s m e, .finite t n f => (m == 0 && n == 0) || (s == t && m == n && e == f)
  | x, y => x == y

mutual

/-- Whether two values are one key. Entries of mappings are taken in any order. -/
def same : Value → Value → Bool
  | null, null => true
  | bool a, bool b => a == b
  | integer a, integer b => a == b
  | float a, float b => sameFloat a b
  | text a, text b => a == b
  | sequence xs, sequence ys => sameItems xs ys
  | mapping xs, mapping ys => xs.length == ys.length && allIn xs ys
  | tagged s x, tagged t y => s == t && same x y
  | _, _ => false

/-- Whether two lists have the same items. -/
def sameItems : List Value → List Value → Bool
  | [], [] => true
  | x :: xs, y :: ys => same x y && sameItems xs ys
  | _, _ => false

/-- Whether all entries are among others. -/
def allIn : List (Value × Value) → List (Value × Value) → Bool
  | [], _ => true
  | (k, v) :: rest, ys => ys.any (fun e => same k e.1 && same v e.2) && allIn rest ys

end

/-- The text of a floating point number. -/
def floatText : Binary .double → String
  | .nan => ".nan"
  | .infinite false => ".inf"
  | .infinite true => "-.inf"
  | x => FloatLayout.yaml.render x

/-- What is said of a key that stands twice. -/
def duplicate : Value → String
  | null => "duplicate entry with null key"
  | bool b => "duplicate entry with key `" ++ toString b ++ "`"
  | integer n => "duplicate entry with key " ++ toString n
  | float x => "duplicate entry with key " ++ floatText x
  | text s => "duplicate entry with key " ++ Text.quoted s
  | _ => "duplicate entry in YAML map"

/-! ### Reading -/

/-- What a value is expected to be. -/
def expected : String := "any YAML value"

/-- The value of a scalar. -/
def ofAtom : Atom → Except Decode.Mismatch Value
  | .null => .ok null
  | .bool b => .ok (bool b)
  | .integer negative n =>
    let a := Atom.integer negative n
    if a.isWide then .error (a.wrongType expected) else .ok (integer (Atom.signed negative n))
  | .float x => .ok (float x)
  | .text s => .ok (text s)

/-- The value of a scalar in a document. -/
def ofScalar (path : Path) (m : Mark) (a : Except Decode.Mismatch Atom) : Except ReadError Value :=
  match a.bind ofAtom with
  | .ok v => .ok v
  | .error e => dataError path m e

/-- A value with the own tag of its node. -/
def withTag (tag : Option String) (v : Value) : Value :=
  match Node.ownTag? tag with
  | some name => tagged name v
  | none => v

mutual

/-- Reads a node. -/
def ofNode (path : Path) : Node → Except ReadError Value
  | .absent => .ok null
  | .scalar m tag style s =>
    match Node.ownTag? tag with
    | some name => (ofScalar path m (.ok (Atom.ofStyled style s))).map (tagged name)
    | none => ofScalar path m (Atom.ofScalar tag style s)
  | .sequence _ tag items => (ofItems path 0 items).map fun vs => withTag tag (sequence vs)
  | .mapping m tag entries => (ofEntries path m [] entries).map fun es => withTag tag (mapping es)
  | .reference _ target => ofNode path target
  | .broken e => .error e

/-- Reads the items of a sequence. -/
def ofItems (path : Path) (index : Nat) : List Node → Except ReadError (List Value)
  | [] => .ok []
  | n :: rest =>
    match ofNode (.item index :: path) n with
    | .error e => .error e
    | .ok v => (ofItems path (index + 1) rest).map (v :: ·)

/-- Reads the entries of a mapping behind others. -/
def ofEntries (path : Path) (m : Mark) (before : List (Value × Value)) :
    List (Node × Node) → Except ReadError (List (Value × Value))
  | [] => .ok before
  | (k, n) :: rest =>
    match ofNode path k with
    | .error e => .error e
    | .ok key =>
      if before.any fun e => same e.1 key then dataError path m (.custom (duplicate key))
      else
        match ofNode (k.step :: path) n with
        | .error e => .error e
        | .ok v => ofEntries path m (before ++ [(key, v)]) rest

end

/-- Reads the value of a text. -/
def parse (s : String) : Except ReadError Value := (Parsed.ofString s).read (ofNode [])

/-! ### JSON -/

/-- Why a value has no JSON value. -/
inductive KeyError where
  | notText
  | notFinite
  deriving DecidableEq, Repr

/-- The wording of an error. -/
def KeyError.message : KeyError → String
  | notText => "key must be a string"
  | notFinite => "float key must be finite"

/-- The text of a key in an object. -/
def keyText : Value → Except KeyError String
  | text s => .ok s
  | bool b => .ok (toString b)
  | integer n => .ok (toString n)
  | float (.finite s m e) => .ok (FloatLayout.json.render (.finite s m e : Binary .double))
  | float _ => .error .notFinite
  | _ => .error .notText

mutual

/-- The JSON value with the same data. A tag becomes an object with one member, and the last of several
keys with one text wins. -/
def toJson : Value → Except KeyError Json
  | null => .ok .null
  | bool b => .ok (.bool b)
  | integer n => .ok (.int n)
  | float x => .ok (.float x)
  | text s => .ok (.text s)
  | sequence items => (toItems items).map .array
  | mapping entries => (toMembers [] entries).map .object
  | tagged tag v => (toJson v).map fun j => .object [("!" ++ tag, j)]

/-- The items of an array. -/
def toItems : List Value → Except KeyError (List Json)
  | [] => .ok []
  | v :: rest =>
    match toJson v with
    | .error e => .error e
    | .ok j => (toItems rest).map (j :: ·)

/-- The members of an object with others in front of them. -/
def toMembers (before : List (String × Json)) :
    List (Value × Value) → Except KeyError (List (String × Json))
  | [] => .ok before
  | (k, v) :: rest =>
    match keyText k with
    | .error e => .error e
    | .ok key =>
      match toJson v with
      | .error e => .error e
      | .ok j => toMembers (Json.insert key j before) rest

end

end Value

end HandlerChain.Yaml
