import HandlerChain.Decode.Mismatch
import HandlerChain.Json.Basic
import HandlerChain.Text.LowerCase

/-!
# Layered settings

Settings as they stand in a layer: the defaults, a file, or environment variables. Every part knows its
layer, so that an error can name where a setting comes from. A later layer is laid over an earlier one
table by table; all else it replaces.

## Main Definitions

* `Setting` is a setting with its `Setting.Layer`.
* `Setting.overlay` lays one setting over another.
* `Setting.Error` is a setting that does not fit, and `Setting.Error.message` its wording.
-/

namespace HandlerChain

/-- Where settings come from. -/
inductive Setting.Layer where
  | defaults
  | file (path : String)
  | environment (start : String)
  deriving DecidableEq, Repr, Inhabited

/-- A number in settings. -/
inductive Setting.Number where
  | unsigned (n : Nat)
  | signed (n : Int)
  | float (x : Binary .double)
  deriving DecidableEq, Repr

/-- A setting. The keys of a table are sorted. -/
inductive Setting where
  | unit (layer : Setting.Layer)
  | bool (layer : Setting.Layer) (b : Bool)
  | number (layer : Setting.Layer) (n : Setting.Number)
  | text (layer : Setting.Layer) (s : String)
  | sequence (layer : Setting.Layer) (items : List Setting)
  | table (layer : Setting.Layer) (entries : List (String × Setting))
  deriving Inhabited, Repr

namespace Setting

/-- The layer of a setting. -/
def layer : Setting → Layer
  | unit l => l
  | bool l _ => l
  | number l _ => l
  | text l _ => l
  | sequence l _ => l
  | table l _ => l

/-! ### Tables -/

/-- A table with one more entry; one with the same key is replaced. -/
def put (key : String) (value : Setting) : List (String × Setting) → List (String × Setting)
  | [] => [(key, value)]
  | (k, v) :: rest =>
    if key = k then (key, value) :: rest
    else if key < k then (key, value) :: (k, v) :: rest
    else (k, v) :: put key value rest

/-- The setting at the end of a way through tables. -/
def at? : List String → Setting → Option Setting
  | [], s => some s
  | key :: rest, table _ entries => (entries.lookup key).bind (at? rest)
  | _ :: _, _ => none

mutual

/-- Lays a setting over an earlier one. Two tables become one, which belongs to the later layer. -/
def overlay (old : Setting) : Setting → Setting
  | table l entries =>
    match old with
    | table _ before => table l (overlayEntries before entries)
    | _ => table l entries
  | s => s

/-- Lays the entries of a table over those of an earlier one. -/
def overlayEntries (before : List (String × Setting)) :
    List (String × Setting) → List (String × Setting)
  | [] => before
  | (key, s) :: rest =>
    let new := match before.lookup key with
      | some old => overlay old s
      | none => s
    overlayEntries (put key new before) rest

end

/-- A setting at the end of a way, as nested tables. -/
def nest (l : Layer) (s : Setting) : List String → Setting
  | [] => s
  | key :: rest => table l [(key, nest l s rest)]

/-! ### Errors -/

/-- Why a setting does not fit. -/
inductive Reason where
  | wrongType (found : Setting) (expected : String)
  | wrongValue (found : Setting) (expected : String)
  | wrongLength (length : Nat) (expected : String)
  | unknownField (name : String) (known : List String)
  | missingField (name : String)
  | outOfRange
  | unreadable (message : String)
  deriving Repr

/-- How an error names a number; an integer of more than 64 bits is named with its kind. -/
def Number.describe : Number → String
  | unsigned n =>
    if n < Nat.pow 2 64 then "unsigned int " ++ Decode.tick (toString n)
    else "integer " ++ Decode.tick (toString n) ++ " as u128"
  | signed n =>
    if -(Nat.pow 2 63) ≤ n then "signed int " ++ Decode.tick (toString n)
    else "integer " ++ Decode.tick (toString n) ++ " as i128"
  | float x => "float " ++ Decode.tick (FloatLayout.plain.render x)

/-- How an error names a setting. -/
def describe : Setting → String
  | unit _ => "unit"
  | bool _ b => "bool " ++ toString b
  | number _ n => n.describe
  | text _ s => "string " ++ Text.quoted s
  | sequence _ _ => "sequence"
  | table _ _ => "map"

/-- The names of which one was expected, between grave accents each. -/
def oneOf : List String → String
  | [] => "there are no fields"
  | [a] => Decode.tick a
  | [a, b] => Decode.tick a ++ " or " ++ Decode.tick b
  | names => "one of " ++ ", ".intercalate (names.map Decode.tick)

/-- The wording of a reason. -/
def Reason.text : Reason → String
  | wrongType found expected => "invalid type: found " ++ found.describe ++ ", expected " ++ expected
  | wrongValue found expected => "invalid value " ++ found.describe ++ ", expected " ++ expected
  | wrongLength n expected => "invalid length " ++ toString n ++ ", expected " ++ expected
  | unknownField name known =>
    "unknown field: found " ++ Decode.tick name ++ ", expected " ++ Decode.tick (oneOf known)
  | missingField name => "missing field " ++ Decode.tick name
  | outOfRange => "JSON number out of range"
  | unreadable message => message

/-- A setting that does not fit: the reason, the way to the setting, and its layer once it is known. -/
structure Error where
  reason : Reason
  path : List String := []
  layer : Option Layer := none
  deriving Repr

namespace Error

/-- An error inside the entry with a key. -/
def inside (key : String) (l : Layer) (e : Error) : Error :=
  { e with path := key :: e.path, layer := e.layer.or l }

/-- An error in a setting of a layer. -/
def within (l : Layer) (e : Error) : Error := { e with layer := e.layer.or l }

/-- The key of a setting as its layer writes it. -/
def key (l : Layer) (path : List String) : String :=
  match l with
  | .environment _ => ".".intercalate (path.map Text.upperAscii)
  | _ => ".".intercalate ("default" :: path)

/-- The name of a layer. -/
def source : Layer → String
  | .defaults => "defaults"
  | .file path => path ++ " YAML file"
  | .environment start => Decode.tick start ++ " environment variable(s)"

/-- The wording of an error. -/
def message (e : Error) : String :=
  match e.layer with
  | none => e.reason.text
  | some l =>
    e.reason.text ++ (if e.path.isEmpty then "" else " for key " ++ Text.quoted (key l e.path)) ++
      " in " ++ source l

end Error

/-! ### Reading -/

/-- A reader of settings. -/
abbrev Reads (α : Type) := Setting → Except Error α

/-- Fails with a reason in a setting. -/
def refuse {α : Type} (s : Setting) (r : Reason) : Except Error α := .error ⟨r, [], some s.layer⟩

/-- Reads a text. -/
def readText : Reads String
  | text _ s => .ok s
  | s => s.refuse (.wrongType s "a string")

/-- Reads an unsigned integer of a number of bits. -/
def readNat (name : String) (bits : Nat) : Reads Nat
  | number l (.unsigned n) =>
    if n < Nat.pow 2 bits then .ok n
    else
      let s := number l (.unsigned n)
      s.refuse (if n < Nat.pow 2 64 then .wrongValue s name else .wrongType s name)
  | number l (.signed n) =>
    if 0 ≤ n ∧ n < Nat.pow 2 bits then .ok n.toNat
    else
      let s := number l (.signed n)
      s.refuse (if -(Nat.pow 2 63) ≤ n then .wrongValue s name else .wrongType s name)
  | s => s.refuse (.wrongType s name)

/-- Reads a setting that can be left out. -/
def readOption {α : Type} (read : Reads α) : Reads (Option α)
  | unit _ => .ok none
  | s => (read s).map some

/-- Reads a table with any keys. -/
def readTable {α : Type} (read : Reads α) : Reads (List (String × α))
  | table l entries =>
    let entry (e : String × Setting) : Except Error (String × α) :=
      ((read e.2).map fun a => (e.1, a)).mapError (Error.inside e.1 e.2.layer)
    (entries.mapM entry).mapError (Error.within l)
  | s => s.refuse (.wrongType s "a map")

/-- Sets fields of a record in order. -/
def setFields {α : Type} (known : List String) (isStrict : Bool)
    (set : String → Setting → α → Except Error α) (a : α) : List (String × Setting) → Except Error α
  | [] => .ok a
  | (key, s) :: rest =>
    if !known.contains key then
      if isStrict then .error (Error.inside key s.layer ⟨.unknownField key known, [], none⟩)
      else setFields known isStrict set a rest
    else
      match set key s a with
      | .error e => .error (e.inside key s.layer)
      | .ok a => setFields known isStrict set a rest

/-- Sets fields of a record by position; the first `required` cannot be left out. -/
def setItems {α : Type} (name : String) (required size index : Nat)
    (set : String → Setting → α → Except Error α) (a : α) :
    List String → List Setting → Except Error α
  | [], _ => .ok a
  | _ :: _, [] =>
    if index < required then
      .error ⟨.wrongLength index ("struct " ++ name ++ " with " ++ toString size ++ " elements"), [], none⟩
    else .ok a
  | key :: keys, s :: rest =>
    match set key s a with
    | .error e => .error (e.inside (toString index) s.layer)
    | .ok a => setItems name required size (index + 1) set a keys rest

/-- Reads a record: a table with known fields, or a sequence of them in order. The first fields, as many
as `required`, cannot be left out; a record that is not strict ignores unknown fields. -/
def readRecord {α : Type} (name : String) (known : List String) (required : Nat) (isStrict : Bool)
    (set : String → Setting → α → Except Error α) (a : α) : Reads α
  | table l entries =>
    (match setFields known isStrict set a entries with
      | .error e => .error e
      | .ok a =>
        match (known.take required).find? fun key => (entries.lookup key).isNone with
        | some key => .error ⟨.missingField key, [], none⟩
        | none => .ok a : Except Error α).mapError (Error.within l)
  | sequence l items =>
    (setItems name required known.length 0 set a known items).mapError (Error.within l)
  | s => s.refuse (.wrongType s ("struct " ++ name))

mutual

/-- Reads a setting as JSON. -/
def readJson : Setting → Except Error Json
  | unit _ => .ok .null
  | bool _ b => .ok (.bool b)
  | number l (.unsigned n) => if n < Nat.pow 2 64 then .ok (.nat n) else .error ⟨.outOfRange, [], some l⟩
  | number l (.signed n) => if -(Nat.pow 2 63) ≤ n then .ok (.int n) else .error ⟨.outOfRange, [], some l⟩
  | number _ (.float x) => .ok (.float x)
  | text _ s => .ok (.text s)
  | sequence l items => ((readItems 0 items).map .array).mapError (Error.within l)
  | table l entries => ((readMembers entries).map .object).mapError (Error.within l)

/-- Reads the items of a sequence as JSON. -/
def readItems (index : Nat) : List Setting → Except Error (List Json)
  | [] => .ok []
  | s :: rest =>
    match readJson s with
    | .error e => .error (e.inside (toString index) s.layer)
    | .ok j => (readItems (index + 1) rest).map (j :: ·)

/-- Reads the entries of a table as JSON. -/
def readMembers : List (String × Setting) → Except Error (List (String × Json))
  | [] => .ok []
  | (key, s) :: rest =>
    match readJson s with
    | .error e => .error (e.inside key s.layer)
    | .ok j => (readMembers rest).map ((key, j) :: ·)

end

end Setting

end HandlerChain
