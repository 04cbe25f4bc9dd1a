import HandlerChain.Value.Ty

/-!
# Values with their types

## Main Definitions

* `Dyn` is a value together with its type; `Dyn.as?` gives the value back at a type.
* `ValueType` describes a type and says whether its values are encoded.
* `ValueType.encode` encodes a value; `EncodeError` says why it cannot.
* `TypedValue` is a value under a description.
-/

namespace HandlerChain

/-- A value of any type. -/
structure Dyn where
  ty : Ty
  val : ty.Denote

namespace Dyn

/-- The value, if it is of the given type. -/
def as? (t : Ty) (v : Dyn) : Option t.Denote :=
  if h : v.ty = t then some (h ▸ v.val) else none

/-- Whether the value is of a type. -/
def is (t : Ty) (v : Dyn) : Bool := v.ty == t

/-- The empty value. -/
def unit : Dyn := ⟨.unit, ()⟩

instance : Inhabited Dyn := ⟨unit⟩

@[simp] theorem as?_self (v : Dyn) : v.as? v.ty = some v.val := by simp [as?]

end Dyn

/-- Why a value has no JSON encoding. -/
inductive EncodeError where
  | notSerializable (type : String)
  | typeMismatch (expected : String)
  | refused (reason : String)
  deriving DecidableEq, Repr

/-- The wording of an error. -/
def EncodeError.message : EncodeError → String
  | notSerializable type => "values of type '" ++ type ++ "' cannot be encoded"
  | typeMismatch expected => "value is not a '" ++ expected ++ "'"
  | refused reason => reason

namespace Ty

/-- The text of a value as the key of a member. -/
def keyText : (t : Ty) → t.Denote → Except String String
  | int _, n => .ok (toString n.val)
  | bool, b => .ok (boolText b)
  | char, c => .ok (String.singleton c)
  | text, s => .ok s
  | staticText, s => .ok s
  | choice _ _ _, s => .ok s
  | uuid, u => .ok u.render
  | single, x => floatKey x.convert
  | double, x => floatKey x
  | _, _ => .error "key must be a string"
where
  /-- The text of a truth value. -/
  boolText (b : Bool) : String := if b then "true" else "false"
  /-- The text of a floating point number as a key. -/
  floatKey (x : Binary .double) : Except String String :=
    match x with
    | .finite s m e => .ok (FloatLayout.json.render (.finite s m e : Binary .double))
    | _ => .error "float key must be finite (got NaN or +/-inf)"

/-- An integer as a JSON number, if it fits 64 bits. -/
def encodeInt (n : Int) : Except String Json :=
  if -(Nat.pow 2 63 : Nat) ≤ n ∧ n < (Nat.pow 2 64 : Nat) then .ok (.int n) else .error "number out of range"

/-- The values that all have one, in order. -/
def collect {α β : Type} (f : α → Except String β) : List α → Except String (List β)
  | [] => .ok []
  | a :: rest =>
    match f a with
    | .error e => .error e
    | .ok b =>
      match collect f rest with
      | .error e => .error e
      | .ok bs => .ok (b :: bs)

mutual

/-- The JSON form of a value. -/
def encode : (t : Ty) → t.Denote → Except String Json
  | int _, n => encodeInt n.val
  | single, x => .ok (.float x.convert)
  | double, x => .ok (.float x)
  | bool, b => .ok (.bool b)
  | char, c => .ok (.text (String.singleton c))
  | text, s => .ok (.text s)
  | staticText, s => .ok (.text s)
  | choice _ _ _, s => .ok (.text s)
  | uuid, u => .ok (.text u.render)
  | unit, () => .ok .null
  | json, j => .ok j
  | list t, vs => (collect (encode t) vs).map .array
  | option _, none => .ok .null
  | option t, some v => encode t v
  | pair a b, (x, y) =>
    match encode a x, encode b y with
    | .ok x, .ok y => .ok (.array [x, y])
    | .error e, _ => .error e
    | _, .error e => .error e
  | map k v, kvs =>
    (collect (fun (key, value) =>
      match keyText k key with
      | .error e => .error e
      | .ok key => (encode v value).map fun value => (key, value)) kvs).map .sorted
  | record _ fs, vs => (encodeFields fs vs).map .sorted
  | refusing _ reason, _ => .error reason
  | service n, _ => .error n
  | ambient k, _ => .error k.typeName

/-- The members of a record. -/
def encodeFields : (fs : Fields) → fs.Denote → Except String (List (String × Json))
  | .nil, _ => .ok []
  | .cons label t rest, (v, vs) =>
    match encode t v with
    | .error e => .error e
    | .ok j => (encodeFields rest vs).map ((label, j) :: ·)
  | .blank label rest, (v, vs) => (encodeFields rest vs).map ((label, .text v) :: ·)

end

/-- Whether the values of a type have an encoding at all. -/
def isData : Ty → Bool
  | service _ => false
  | ambient _ => false
  | _ => true

end Ty

/-- The description of a type: the type, and whether its values are encoded. -/
structure ValueType where
  ty : Ty
  encodable : Bool
  deriving DecidableEq, Repr

namespace ValueType

/-- The description of a type whose values are not encoded. -/
def plain (t : Ty) : ValueType := ⟨t, false⟩

/-- The description of a type whose values are encoded if they are data. -/
def encoded (t : Ty) : ValueType := ⟨t, t.isData⟩

/-- The name of the type. -/
def name (t : ValueType) : String := t.ty.name

/-- The last part of the name of the type. -/
def shortName (t : ValueType) : String := t.ty.shortName

/-- Descriptions are the same if their types are. -/
def same (a b : ValueType) : Bool := a.ty == b.ty

/-- The JSON form of a value under a description. -/
def encode (t : ValueType) (v : Dyn) : Except EncodeError Json :=
  if !t.encodable then .error (.notSerializable t.name)
  else match v.as? t.ty with
    | none => .error (.typeMismatch t.name)
    | some x => (t.ty.encode x).mapError .refused

end ValueType

/-- A value under the description of a type, which need not be its own. -/
structure TypedValue where
  type : ValueType
  value : Dyn

namespace TypedValue

/-- The JSON form of the value. -/
def encode (v : TypedValue) : Except EncodeError Json := v.type.encode v.value

/-- The text of a value that is one. -/
def text? (v : TypedValue) : Option String := v.value.as? .text

/-- Whether the value is of the described type. -/
def isWellTyped (v : TypedValue) : Bool := v.value.is v.type.ty

end TypedValue

end HandlerChain
