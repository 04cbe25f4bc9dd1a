import HandlerChain.Text.Utf8

/-!
# Percent encoding and form data

## Main Definitions

* `Percent.decode` replaces each percent sign with two hexadecimal digits by the byte that they name;
  any other percent sign stays.
* `Form.parse` is the list of pairs of a text in the form encoding, in order.
-/

namespace HandlerChain.Http

/-- The value of a hexadecimal digit. -/
def hexValue? (b : UInt8) : Option Nat :=
  if 48 ≤ b ∧ b ≤ 57 then some (b.toNat - 48)
  else if 97 ≤ b ∧ b ≤ 102 then some (b.toNat - 87)
  else if 65 ≤ b ∧ b ≤ 70 then some (b.toNat - 55)
  else none

/-- The bytes that percent-encoded bytes stand for. -/
def Percent.decode : List UInt8 → List UInt8
  | 37 :: a :: b :: rest =>
    match hexValue? a, hexValue? b with
    | some x, some y => (x * 16 + y).toUInt8 :: decode rest
    | _, _ => 37 :: decode (a :: b :: rest)
  | b :: rest => b :: decode rest
  | [] => []

namespace Form

/-- The pieces of a list between separators. -/
def split (sep : UInt8) : List UInt8 → List (List UInt8)
  | [] => [[]]
  | b :: rest =>
    if b = sep then [] :: split sep rest
    else match split sep rest with
      | [] => [[b]]
      | piece :: pieces => (b :: piece) :: pieces

/-- The text of one encoded name or value; a plus sign is a space. -/
def decodeText (bytes : List UInt8) : String :=
  Text.Utf8.decodeLossy (Percent.decode (bytes.map fun b => if b = 43 then 32 else b))

/-- The pair of a piece; without an equals sign its value is empty. -/
def pair (piece : List UInt8) : String × String :=
  (decodeText (piece.takeWhile (· ≠ 61)), decodeText ((piece.dropWhile (· ≠ 61)).drop 1))

/-- The pairs of a text in the form encoding; empty pieces count for nothing. -/
def parse (bytes : List UInt8) : List (String × String) :=
  ((split 38 bytes).filter (fun p => !p.isEmpty)).map pair

end Form

end HandlerChain.Http
