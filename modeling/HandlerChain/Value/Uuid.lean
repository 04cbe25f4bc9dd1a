import HandlerChain.Http.Percent

/-!
# Universally unique identifiers

## Main Definitions

* `Uuid` is an identifier of 128 bits, `Uuid.render` its text in five groups.
* `Uuid.parse` reads the text, with or without hyphens, braces or the prefix of a URN.
-/

namespace HandlerChain

/-- An identifier of 128 bits. -/
structure Uuid where
  bits : BitVec 128
  deriving DecidableEq, Repr, Inhabited

namespace Uuid

/-- The lengths of the groups of the text. -/
def groups : List Nat := [8, 4, 4, 4, 12]

/-- The digits in groups, separated by hyphens. -/
def grouped : List Nat → List Char → List Char
  | [], _ => []
  | [_], cs => cs
  | n :: rest, cs => cs.take n ++ '-' :: grouped rest (cs.drop n)

/-- The text of an identifier: lower case digits in five groups. -/
def render (u : Uuid) : String :=
  let digits := Nat.toDigits 16 u.bits.toNat
  String.ofList (grouped groups (List.replicate (32 - digits.length) '0' ++ digits))

/-- Why a text is no identifier. -/
inductive ParseError where
  | char (c : Char) (index : Nat)
  | simpleLength (length : Nat)
  | groupCount (count : Nat)
  | groupLength (group : Nat) (length : Nat)
  deriving DecidableEq, Repr

/-- The wording of an error. -/
def ParseError.message : ParseError → String
  | char c index =>
    "invalid character: expected an optional prefix of `urn:uuid:` followed by [0-9a-fA-F-], found `"
      ++ String.singleton c ++ "` at " ++ toString index
  | simpleLength n => "invalid length: expected length 32 for simple format, found " ++ toString n
  | groupCount n => "invalid group count: expected 5, found " ++ toString n
  | groupLength group n =>
    "invalid group length in group " ++ toString group ++ ": expected "
      ++ toString (groups.getD group 0) ++ ", found " ++ toString n

/-- Whether a character is a hexadecimal digit. -/
def isHex (c : Char) : Bool := c.toNat < 128 && (Http.hexValue? c.toNat.toUInt8).isSome

/-- The identifier of 32 digits. -/
def ofDigits (cs : List Char) : Uuid :=
  ⟨BitVec.ofNat 128 (cs.foldl (fun acc c => acc * 16 + (Http.hexValue? c.toNat.toUInt8).getD 0) 0)⟩

/-- The lengths of the pieces between hyphens. -/
def pieceLengths (cs : List Char) : List Nat :=
  (Http.Form.split 45 (cs.map fun c => c.toNat.toUInt8)).map List.length

/-- The first group whose length is wrong, counted from `i`. -/
def wrongGroup (i : Nat) : List Nat → List Nat → Option (Nat × Nat)
  | n :: rest, m :: expected => if n = m then wrongGroup (i + 1) rest expected else some (i, n)
  | _, _ => none

/-- The byte offset and the character of the first one that is neither a digit nor a hyphen. -/
def strayChar (offset : Nat) : List Char → Option (Char × Nat)
  | [] => none
  | c :: rest => if isHex c || c = '-' then strayChar (offset + c.utf8Size) rest else some (c, offset)

/-- The part of a text that holds the digits, the number of characters before it, and whether the text
may do without hyphens. -/
def unwrap (cs : List Char) : List Char × Nat × Bool :=
  match cs with
  | '{' :: rest => if rest.getLast? = some '}' then (rest.dropLast, 1, false) else (cs, 0, true)
  | _ => if "urn:uuid:".toList.isPrefixOf cs then (cs.drop 9, 9, false) else (cs, 0, true)

/-- Reads an identifier. -/
def parse (s : String) : Except ParseError Uuid :=
  let (inner, offset, simple) := unwrap s.toList
  match strayChar 0 inner with
  | some (c, i) => .error (.char c (i + offset + 1))
  | none =>
    let lengths := pieceLengths inner
    if lengths.length = 1 ∧ simple then
      if inner.length = 32 then .ok (ofDigits inner) else .error (.simpleLength inner.length)
    else if lengths.length ≠ 5 then .error (.groupCount lengths.length)
    else match wrongGroup 0 lengths groups with
      | some (group, n) =>
        .error (.groupLength group (if group = 4 then s.utf8ByteSize - 24 else n))
      | none => .ok (ofDigits (inner.filter (· ≠ '-')))

end Uuid

end HandlerChain
