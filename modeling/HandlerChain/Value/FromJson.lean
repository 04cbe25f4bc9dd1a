import HandlerChain.Json.Reader
import HandlerChain.Value.FromText

/-!
# Values from JSON text

The reading of a value of a known type from JSON text. A record is read from an object, whose unknown
members are skipped, or from a list of its fields in order. In a map the last of two equal keys wins.

## Main Definitions

* `Ty.expectation` is how an error names what a type expects.
* `Ty.read` reads a value, and `Ty.ofJson` one that is the whole text.
-/

namespace HandlerChain

open Json (Reader)
open Json.Reader
open Decode (Found Mismatch)

namespace Fields

/-- The number of fields. -/
def size : Fields → Nat
  | nil => 0
  | cons _ _ rest => rest.size + 1
  | blank _ rest => rest.size + 1

/-- The value of the fields from values by label; an optional field may be absent. -/
def assemble : (fs : Fields) → List (String × Dyn) → Except Mismatch fs.Denote
  | nil, _ => .ok ()
  | cons label t rest, got =>
    let here : Except Mismatch t.Denote :=
      match got.lookup label with
      | some v =>
        match v.as? t with
        | some x => .ok x
        | none => .error (.missingField label)
      | none =>
        match t with
        | .option _ => .ok none
        | _ => .error (.missingField label)
    match here with
    | .error e => .error e
    | .ok x => (rest.assemble got).map fun xs => (x, xs)
  | blank label rest, got =>
    (rest.assemble got).map fun xs => (((got.lookup label).bind (Dyn.as? .text)).getD "", xs)

end Fields

namespace Ty

/-- How an error names what a type expects. -/
def expectation : Ty → String
  | int k => k.name
  | single => "f32"
  | double => "f64"
  | bool => "a boolean"
  | char => "a character"
  | text | staticText | choice _ _ _ => "a string"
  | uuid => "a UUID string"
  | unit => "unit"
  | json => "any valid JSON value"
  | list _ => "a sequence"
  | option _ => "option"
  | pair _ _ => "a tuple of size 2"
  | map _ _ => "a map"
  | record n _ => "struct " ++ shorten n
  | refusing n _ => "struct " ++ shorten n
  | service n => n
  | ambient k => k.typeName

/-- How an error names the list of the fields of a record. -/
def recordAsList (name : String) (size : Nat) : String :=
  "struct " ++ shorten name ++ " with " ++ toString size ++ (if size = 1 then " element" else " elements")

/-- The integer of a kind that a JSON number is. -/
def intOfNumber (k : IntKind) : Json.Number → Reader k.Number
  | .integer n =>
    match k.ofInt? n with
    | some x => pure x
    | none => mismatch (.wrongValue (.integer n) k.name)
  | .float x => mismatch (.wrongType (.float x) k.name)

/-- Reads a number if one stands at the cursor. -/
def readNumber {α : Type} (expected : String) (f : Json.Number → Reader α) : Reader α := do
  let b ← startOfValue
  if b = 45 then do
    skip
    let n ← number true
    f n
  else if isDigit b then do
    let n ← number false
    f n
  else unexpected expected

/-- Reads an integer of 128 bits. -/
def readWide (k : IntKind) : Reader k.Number := do
  let b ← startOfValue
  if b = 45 then
    if k.signed then do
      skip
      let n ← digits128
      finish (-(n : Int))
    else failAhead .numberOutOfRange
  else do
    let n ← digits128
    finish n
where
  /-- The number, if it is one of the kind. -/
  finish (n : Int) : Reader k.Number :=
    match k.ofInt? n with
    | some x => pure x
    | none => failHere .numberOutOfRange

/-- Reads a string and makes a value of it. -/
def readString {α : Type} (expected : String) (f : String → Reader α) : Reader α := do
  let b ← startOfValue
  if b = 34 then do
    skip
    let s ← string
    f s
  else unexpected expected

/-- Reads a truth value. -/
def readBool : Reader Bool := do
  let b ← startOfValue
  if b = 116 then do skip; word (ascii "rue"); pure true
  else if b = 102 then do skip; word (ascii "alse"); pure false
  else unexpected "a boolean"

/-- Reads an empty value. -/
def readUnit : Reader Unit := do
  let b ← startOfValue
  if b = 110 then do skip; word (ascii "ull")
  else unexpected "unit"

/-- The character of a text of one. -/
def charOf (s : String) : Reader Char :=
  match s.toList with
  | [c] => pure c
  | _ => mismatch (.wrongValue (.text s) "a character")

/-- The identifier that a text is. -/
def uuidOf (s : String) : Reader Uuid :=
  match Uuid.parse s with
  | .ok u => pure u
  | .error e => mismatch (.custom ("UUID parsing failed: " ++ e.message))

/-- Reads a key that is a number in quotes. -/
def readNumericKey {α : Type} (value : Reader α) : Reader α := do
  skip
  match ← peek with
  | some b => if isDigit b || b = 45 then pure () else failHere .keyNotNumeric
  | none => failHere .keyNotNumeric
  let n ← value
  match ← peek with
  | some 34 => skip
  | _ => failAhead .expectedQuote
  pure n

/-- Reads a list with `inside`. -/
def readList {α : Type} (expected : String) (inside : Reader α) : Reader α := do
  let b ← startOfValue
  if b = 91 then do
    skip
    closedBy inside endList
  else unexpected expected

/-- Reads an object with `inside`. -/
def readObject {α : Type} (expected : String) (inside : Reader α) : Reader α := do
  let b ← startOfValue
  if b = 123 then do
    skip
    closedBy inside endObject
  else unexpected expected

/-- Reads the next item of a list, or fails because the list is too short. -/
def readItem {α : Type} (index : Nat) (expected : String) (item : Reader α) : Reader α := do
  if ← nextItem (index == 0) then item
  else mismatch (.wrongLength index expected)

/-- Reads the members of a record; `field` reads the value of a known field. -/
def readMembers (field : String → Option (Reader Dyn)) :
    Nat → Bool → List (String × Dyn) → Reader (List (String × Dyn))
  | 0, _, got => pure got
  | fuel + 1, first, got => do
    if ← nextKey first then
      let key ← textKey
      match field key with
      | none =>
        colon
        ignore
        readMembers field fuel false got
      | some value =>
        if (got.lookup key).isSome then mismatch (.duplicateField key)
        else
          colon
          let v ← value
          readMembers field fuel false ((key, v) :: got)
    else pure got

mutual

/-- Reads a value of a type. -/
def read : (t : Ty) → Reader t.Denote
  | int k => if k.isWide then readWide k else settle (readNumber k.name (intOfNumber k))
  | single => settle (readNumber "f32" fun
    | .integer n => pure (Binary.ofInt n : Binary .single)
    | .float x => pure (x.convert : Binary .single))
  | double => settle (readNumber "f64" fun
    | .integer n => pure (Binary.ofInt n : Binary .double)
    | .float x => pure x)
  | bool => settle readBool
  | char => settle (readString "a character" charOf)
  | text => settle (readString "a string" pure)
  | staticText => settle (readString "a string" pure)
  | choice _ _ _ => settle (readString "a string" pure)
  | uuid => settle (readString "a UUID string" uuidOf)
  | unit => settle readUnit
  | json => value maxDepth
  | list t => settle (readList "a sequence" (items (read t)))
  | option t => do
    match ← peekToken with
    | some 110 => skip; word (ascii "ull"); pure none
    | _ => some <$> read t
  | pair a b => settle (readList "a tuple of size 2" do
      let x ← readItem 0 "a tuple of size 2" (read a)
      let y ← readItem 1 "a tuple of size 2" (read b)
      pure (x, y))
  | map k v => settle (readObject "a map" (members (readKey k) (read v)))
  | record n fs => settle do
    let b ← startOfValue
    if b = 91 then
      skip
      closedBy (readFields fs 0 (recordAsList n fs.size)) endList
    else if b = 123 then
      skip
      closedBy (do
        let got ← fun c => readMembers (fieldReader fs) (c.rest.length + 1) true [] c
        match fs.assemble got with
        | .ok vs => pure vs
        | .error m => mismatch m) endObject
    else unexpected ("struct " ++ shorten n)
  | refusing n _ => unexpected ("struct " ++ shorten n)
  | service n => unexpected n
  | ambient k => unexpected k.typeName

/-- Reads a value as the key of a member. -/
def readKey : (t : Ty) → Reader t.Denote
  | text => textKey
  | choice _ _ _ => textKey
  | int k => readNumericKey (read (int k))
  | _ => failHere .keyNotString

/-- Reads the fields of a record from a list, from the field with the given index on. -/
def readFields : (fs : Fields) → Nat → String → Reader fs.Denote
  | .nil, _, _ => pure ()
  | .cons _ t rest, index, expected => do
    let x ← readItem index expected (read t)
    let xs ← readFields rest (index + 1) expected
    pure (x, xs)
  | .blank _ rest, index, expected => do
    let x ← if ← nextItem (index == 0) then settle (readString "a string" pure) else pure ""
    let xs ← readFields rest (index + 1) expected
    pure (x, xs)

/-- The reader of the value of a field. -/
def fieldReader : Fields → String → Option (Reader Dyn)
  | .nil, _ => none
  | .cons label t rest, key =>
    if key = label then some ((⟨t, ·⟩) <$> read t) else fieldReader rest key
  | .blank label rest, key =>
    if key = label then some ((⟨.text, ·⟩) <$> settle (readString "a string" pure))
    else fieldReader rest key

end

/-- The value of a type that the bytes are the text of. -/
def ofJson (t : Ty) (bytes : List UInt8) : Except String t.Denote :=
  (whole (read t) bytes).mapError Json.ReadError.message

end Ty

end HandlerChain
