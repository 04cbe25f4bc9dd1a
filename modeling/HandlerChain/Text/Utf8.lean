/-!
# UTF-8

Decoding of bytes, strictly and with replacement. An ill-formed sequence is cut at the longest
beginning of some well-formed one, and such a piece counts as one replacement character.

## Main Definitions

* `Utf8.next` reads the first character or says how many bytes are ill-formed.
* `Utf8.decode` is the strict reading, `Utf8.decodeLossy` the one with replacement.
* `Utf8.encode` is the inverse of reading.
-/

namespace HandlerChain.Text.Utf8

/-- The first item of a byte sequence. -/
inductive Item where
  | char (c : Char) (size : Nat)
  | malformed (size : Nat)

/-- Whether a byte continues a sequence. -/
def isContinuation (b : UInt8) : Bool := 0x80 ≤ b && b ≤ 0xBF

/-- The low six bits of a continuation byte. -/
def low (b : UInt8) : Nat := b.toNat % 64

/-- The bounds of the second byte after a given first byte of a sequence of three or four. -/
def secondBounds (b : UInt8) : UInt8 × UInt8 :=
  if b = 0xE0 then (0xA0, 0xBF)
  else if b = 0xED then (0x80, 0x9F)
  else if b = 0xF0 then (0x90, 0xBF)
  else if b = 0xF4 then (0x80, 0x8F)
  else (0x80, 0xBF)

/-- The item that begins with the byte `b`, before the bytes `rest`. -/
def next (b : UInt8) (rest : List UInt8) : Item :=
  if b < 0x80 then .char (Char.ofNat b.toNat) 1
  else if b < 0xC2 || 0xF4 < b then .malformed 1
  else match rest with
    | [] => .malformed 1
    | b₂ :: rest =>
      let (lo, hi) := secondBounds b
      if b₂ < lo || hi < b₂ then .malformed 1
      else if b < 0xE0 then .char (Char.ofNat ((b.toNat - 0xC0) * 64 + low b₂)) 2
      else match rest with
        | [] => .malformed 2
        | b₃ :: rest =>
          if !isContinuation b₃ then .malformed 2
          else if b < 0xF0 then
            .char (Char.ofNat (((b.toNat - 0xE0) * 64 + low b₂) * 64 + low b₃)) 3
          else match rest with
            | [] => .malformed 3
            | b₄ :: _ =>
              if !isContinuation b₄ then .malformed 3
              else .char (Char.ofNat ((((b.toNat - 0xF0) * 64 + low b₂) * 64 + low b₃) * 64 + low b₄)) 4

/-- The characters of the bytes, `skip` bytes of which belong to the character before. -/
def decodeFrom : Nat → List UInt8 → Option (List Char)
  | _, [] => some []
  | skip + 1, _ :: rest => decodeFrom skip rest
  | 0, b :: rest =>
    match next b rest with
    | .char c size => (decodeFrom (size - 1) rest).map (c :: ·)
    | .malformed _ => none

/-- The characters of well-formed bytes. -/
def decode (bytes : List UInt8) : Option (List Char) := decodeFrom 0 bytes

/-- The number of bytes before the first ill-formed one, if there is one. -/
def firstMalformed (at_ : Nat) : Nat → List UInt8 → Option Nat
  | _, [] => none
  | skip + 1, _ :: rest => firstMalformed (at_ + 1) skip rest
  | 0, b :: rest =>
    match next b rest with
    | .char _ size => firstMalformed (at_ + 1) (size - 1) rest
    | .malformed _ => some at_

/-- The characters of the bytes, with a replacement character for each ill-formed piece. -/
def decodeLossyFrom : Nat → List UInt8 → List Char
  | _, [] => []
  | skip + 1, _ :: rest => decodeLossyFrom skip rest
  | 0, b :: rest =>
    match next b rest with
    | .char c size => c :: decodeLossyFrom (size - 1) rest
    | .malformed size => Char.ofNat 0xFFFD :: decodeLossyFrom (size - 1) rest

/-- The text of the bytes, with a replacement character for each ill-formed piece. -/
def decodeLossy (bytes : List UInt8) : String := String.ofList (decodeLossyFrom 0 bytes)

/-- The bytes of a text. -/
def encode (s : String) : List UInt8 := s.toUTF8.toList

end HandlerChain.Text.Utf8
