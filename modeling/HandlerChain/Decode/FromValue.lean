import HandlerChain.Decode.Mismatch
import HandlerChain.Json.Basic

/-!
# Values from JSON values

The reading of simple values and of records from JSON values that are already in memory. A record is
read from an object, whose members are taken in order and have to be known, or from a list of its
fields. Fields that are absent keep what they are.

## Main Definitions

* `Json.found` is how an error names a value.
* `Json.readBool`, `Json.readText` and `Json.readSize` read simple values.
* `Json.readRecord` reads a record.
-/

namespace HandlerChain.Json

open Decode (Found Mismatch)

/-- How an error names a value. -/
def found : Json → Found
  | null => .unit
  | bool b => .bool b
  | number (.integer n) => .integer n
  | number (.float x) => .float x
  | text s => .text s
  | array _ => .sequence
  | object _ => .map

/-- Reads a truth value. -/
def readBool : Json → Except Mismatch Bool
  | bool b => .ok b
  | v => .error (.wrongType v.found "a boolean")

/-- Reads a text. -/
def readText : Json → Except Mismatch String
  | text s => .ok s
  | v => .error (.wrongType v.found "a string")

/-- Reads an unsigned integer of a number of bits. -/
def readNat (name : String) (bits : Nat) : Json → Except Mismatch Nat
  | number (.integer n) =>
    if 0 ≤ n ∧ n < Nat.pow 2 bits then .ok n.toNat else .error (.wrongValue (.integer n) name)
  | v => .error (.wrongType v.found name)

/-- Reads a size. -/
def readSize : Json → Except Mismatch Nat := readNat "usize" 64

/-- Reads a value that can be left out. -/
def readOption {α : Type} (read : Json → Except Mismatch α) : Json → Except Mismatch (Option α)
  | null => .ok none
  | v => (read v).map some

/-- Sets fields in order, up to the first that cannot be set. -/
def setFields {α : Type} (known : List String) (isStrict : Bool)
    (set : String → Json → α → Except Mismatch α) (a : α) : List (String × Json) → Except Mismatch α
  | [] => .ok a
  | (key, value) :: rest =>
    if !known.contains key then
      if isStrict then .error (.unknownField key known) else setFields known isStrict set a rest
    else match set key value a with
      | .error e => .error e
      | .ok a => setFields known isStrict set a rest

/-- Reads a record with known fields; `a` is the record without any. The first fields, as many as
`required`, cannot be left out; a record that is not strict ignores unknown fields. -/
def readRecord {α : Type} (name : String) (known : List String) (required : Nat) (isStrict : Bool)
    (set : String → Json → α → Except Mismatch α) (a : α) : Json → Except Mismatch α
  | array items =>
    match setFields known isStrict set a (known.zip items) with
    | .error e => .error e
    | .ok a =>
      if items.length < required then
        .error (.wrongLength items.length
          ("struct " ++ name ++ " with " ++ toString known.length ++ " elements"))
      else if known.length < items.length then
        .error (.wrongLength items.length "fewer elements in array")
      else .ok a
  | object members =>
    match setFields known isStrict set a members with
    | .error e => .error e
    | .ok a =>
      match (known.take required).find? fun key => (members.lookup key).isNone with
      | some key => .error (.missingField key)
      | none => .ok a
  | v => .error (.wrongType v.found ("struct " ++ name))

end HandlerChain.Json
