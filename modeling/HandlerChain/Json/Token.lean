import HandlerChain.Json.Cursor
import HandlerChain.Json.Basic

/-!
# Tokens of JSON text

Readers for words, numbers and strings.

A number without fraction and exponent that fits 64 bits is an integer. Any other number is a
floating point number: its leading digits as far as they fit 64 bits, times or over one rounded power
of ten, so that long numbers may differ from the nearest one in the last place.

## Main Definitions

* `Json.Reader.word` reads the rest of a literal name.
* `Json.Reader.number` reads a number, `Json.Reader.digits128` the digits of a wide integer.
* `Json.Reader.string` reads a string behind its opening quote.
-/

namespace HandlerChain.Json.Reader

/-- Reads the given bytes. -/
def word : List UInt8 → Reader Unit
  | [] => pure ()
  | b :: rest => do
    match ← next with
    | none => failHere .endInValue
    | some c => if c = b then word rest else failHere .expectedIdent

/-- The bytes of an ASCII word. -/
def ascii (s : String) : List UInt8 := s.toList.map fun c => c.toNat.toUInt8

/-- Whether a byte is a decimal digit. -/
def isDigit (b : UInt8) : Bool := 48 ≤ b && b ≤ 57

/-- The value of a decimal digit. -/
def digitValue (b : UInt8) : Nat := b.toNat - 48

/-- The digits before the first other byte. -/
def leadingDigits (c : Cursor) : List UInt8 := c.rest.takeWhile isDigit

/-- Skips `n` bytes. -/
def skipBy (n : Nat) : Reader Unit := fun c => .ok ((), c.advanceBy n)

/-- The largest significand. -/
def maxSignificand : Nat := Nat.pow 2 64 - 1

/-- Takes digits into the significand as long as it fits; returns it with the number of digits taken
and whether all were. -/
def accumulate (significand taken : Nat) : List UInt8 → Nat × Nat × Bool
  | [] => (significand, taken, true)
  | d :: rest =>
    let s := significand * 10 + digitValue d
    if maxSignificand < s then (significand, taken, false) else accumulate s (taken + 1) rest

/-- Ten to a power, rounded. -/
def powerOfTen (n : Nat) : Binary .double := Binary.ofDecimal false 1 n

/-- The scaled significand, or nothing if it is too large; `fuel` bounds the divisions by 1e308. -/
def scale : Nat → Binary .double → Int → Option (Binary .double)
  | 0, f, _ => some f
  | fuel + 1, f, exponent =>
    if exponent.natAbs ≤ 308 then
      if 0 ≤ exponent then
        let f := f.mul (powerOfTen exponent.natAbs)
        if f.isInfinite then none else some f
      else some (f.div (powerOfTen exponent.natAbs))
    else if f.isZero then some f
    else if 0 ≤ exponent then none
    else scale fuel (f.div (powerOfTen 308)) (exponent + 308)

/-- The floating point number of a significand and an exponent. -/
def fromParts (negative : Bool) (significand : Nat) (exponent : Int) : Reader (Binary .double) :=
  match scale 4 (Binary.ofInt significand) exponent with
  | none => failHere .numberOutOfRange
  | some f => pure (if negative then f.neg else f)

/-- An exponent beyond these bounds is cut off at them. -/
def clampExponent (e : Int) : Int := max (-2147483648) (min 2147483647 e)

/-- Reads an exponent from its letter on, and returns the number. -/
def exponent (negative : Bool) (significand : Nat) (start : Int) : Reader (Binary .double) := do
  skip
  let minus ← do
    match ← peek with
    | some 43 => skip; pure false
    | some 45 => skip; pure true
    | _ => pure false
  match ← next with
  | none => failHere .endInValue
  | some d =>
    if !isDigit d then failHere .invalidNumber
    else fun c =>
      let ds := leadingDigits c
      let value := ds.foldl (fun acc b => acc * 10 + digitValue b) (digitValue d)
      if 2147483647 < value then
        if significand ≠ 0 ∧ !minus then
          failHere .numberOutOfRange (c.advanceBy (overflowAt (digitValue d) 0 ds))
        else .ok (Binary.zero negative, c.advanceBy ds.length)
      else
        fromParts negative significand (clampExponent (if minus then start - value else start + value))
          (c.advanceBy ds.length)
where
  /-- The number of digits up to and including the one that makes the exponent too large. -/
  overflowAt (value count : Nat) : List UInt8 → Nat
    | [] => count
    | d :: rest =>
      let v := value * 10 + digitValue d
      if 2147483647 < v then count + 1 else overflowAt v (count + 1) rest

/-- Whether a byte begins an exponent. -/
def isExponentMark (b : Option UInt8) : Bool := b == some 101 || b == some 69

/-- Reads a fraction from its point on, and returns the number. -/
def fraction (negative : Bool) (significand : Nat) (before : Int) : Reader (Binary .double) := do
  skip
  let ds ← fun c => .ok (leadingDigits c, c)
  if ds.isEmpty then
    match ← peek with
    | some _ => failAhead .invalidNumber
    | none => failAhead .endInValue
  else
    let (s, taken, _) := accumulate significand 0 ds
    skipBy ds.length
    let e := before - taken
    if isExponentMark (← peek) then exponent negative s e else fromParts negative s e

/-- Reads what follows the digits of a whole number. -/
def afterDigits (negative : Bool) (significand : Nat) : Reader Number := do
  let b ← peek
  if b == some 46 then .float <$> fraction negative significand 0
  else if isExponentMark b then .float <$> exponent negative significand 0
  else if !negative then pure (.integer significand)
  else if significand = 0 ∨ Nat.pow 2 63 < significand then
    pure (.float (Binary.ofInt significand : Binary .double).neg)
  else pure (.integer (-(significand : Int)))

/-- Reads a number behind its sign. -/
def number (negative : Bool) : Reader Number := do
  match ← next with
  | none => failHere .endInValue
  | some 48 =>
    match ← peek with
    | some d => if isDigit d then failAhead .invalidNumber else afterDigits negative 0
    | none => afterDigits negative 0
  | some d =>
    if !isDigit d then failHere .invalidNumber
    else
      let ds ← fun c => .ok (leadingDigits c, c)
      let (s, taken, complete) := accumulate (digitValue d) 0 ds
      if complete then
        skipBy ds.length
        afterDigits negative s
      else
        skipBy ds.length
        let e : Int := ds.length - taken
        let b ← peek
        if b == some 46 then .float <$> fraction negative s e
        else if isExponentMark b then .float <$> exponent negative s e
        else .float <$> fromParts negative s e

/-- Reads the digits of an integer of any width. -/
def digits128 : Reader Nat := do
  match ← next with
  | some 48 =>
    match ← peek with
    | some d => if isDigit d then failAhead .invalidNumber else pure 0
    | none => pure 0
  | some d =>
    if !isDigit d then failHere .invalidNumber
    else
      let ds ← fun c => .ok (leadingDigits c, c)
      skipBy ds.length
      pure (ds.foldl (fun acc b => acc * 10 + digitValue b) (digitValue d))
  | none => failHere .invalidNumber

/-- The value of a hexadecimal digit. -/
def hexValue? (b : UInt8) : Option Nat :=
  if isDigit b then some (digitValue b)
  else if 97 ≤ b ∧ b ≤ 102 then some (b.toNat - 87)
  else if 65 ≤ b ∧ b ≤ 70 then some (b.toNat - 55)
  else none

/-- Reads four hexadecimal digits. -/
def hex4 : Reader Nat := fun c =>
  match c.rest with
  | a :: b :: d :: e :: _ =>
    let c := c.advanceBy 4
    match hexValue? a, hexValue? b, hexValue? d, hexValue? e with
    | some a, some b, some d, some e => .ok (((a * 16 + b) * 16 + d) * 16 + e, c)
    | _, _, _, _ => failHere .invalidEscape c
  | _ => failHere .endInString (c.advanceBy c.rest.length)

/-- Reads the escape of a code point behind its letter; a pair of surrogates is one character. -/
def unicodeEscape : Reader Char := do
  let n ← hex4
  if 0xDC00 ≤ n ∧ n ≤ 0xDFFF then failHere .loneSurrogate
  else if n < 0xD800 ∨ 0xDBFF < n then pure (Char.ofNat n)
  else
    match ← peek with
    | none => failHere .endInString
    | some b =>
      skip
      if b ≠ 92 then failHere .unfinishedSurrogate
      else match ← peek with
        | none => failHere .endInString
        | some b =>
          skip
          if b ≠ 117 then failHere .unfinishedSurrogate
          else
            let n₂ ← hex4
            if n₂ < 0xDC00 ∨ 0xDFFF < n₂ then failHere .loneSurrogate
            else pure (Char.ofNat ((n - 0xD800) * 0x400 + (n₂ - 0xDC00) + 0x10000))

/-- Reads an escape behind its backslash. -/
def escape : Reader Char := do
  match ← next with
  | none => failHere .endInString
  | some 34 => pure '"'
  | some 92 => pure '\\'
  | some 47 => pure '/'
  | some 98 => pure (Char.ofNat 8)
  | some 102 => pure (Char.ofNat 12)
  | some 110 => pure '\n'
  | some 114 => pure '\r'
  | some 116 => pure '\t'
  | some 117 => unicodeEscape
  | some _ => failHere .invalidEscape

/-- Whether a byte stands for itself in a string. -/
def isPlain (b : UInt8) : Bool := b ≠ 34 && b ≠ 92 && 0x20 ≤ b

/-- Reads a string behind its opening quote; each round reads one run of plain bytes. The text is kept
in reverse, and `bad` is the place of the first byte that is not well-formed. -/
def stringFrom : Nat → List Char → Option (Nat × Nat) → Reader String
  | 0, _, _ => failHere .endInString
  | fuel + 1, acc, bad => do
    let run ← fun c => .ok (c.rest.takeWhile isPlain, c)
    let bad ← fun c =>
      .ok (bad <|> (Text.Utf8.firstMalformed 0 0 run).map (fun i => (c.advanceBy (i + 1)).here), c)
    let acc := (Text.Utf8.decodeLossyFrom 0 run).reverse ++ acc
    skipBy run.length
    match ← peek with
    | none => failHere .endInString
    | some 34 =>
      skip
      match bad with
      | some place => fun c => .error ⟨.invalidCodePoint, some place, c⟩
      | none => pure (String.ofList acc.reverse)
    | some 92 =>
      skip
      let c ← escape
      stringFrom fuel (c :: acc) bad
    | some _ =>
      skip
      failHere .controlCharacter

/-- Reads a string behind its opening quote. -/
def string : Reader String := fun c => stringFrom (c.rest.length + 1) [] none c

/-- Skips a string behind its opening quote without looking at its characters. -/
def skipStringFrom : Nat → Reader Unit
  | 0 => failHere .endInString
  | fuel + 1 => do
    let run ← fun c => .ok (c.rest.takeWhile isPlain, c)
    skipBy run.length
    match ← peek with
    | none => failHere .endInString
    | some 34 => skip
    | some 92 =>
      skip
      match ← next with
      | none => failHere .endInString
      | some 117 =>
        let _ ← hex4
        skipStringFrom fuel
      | some b =>
        if b = 34 ∨ b = 92 ∨ b = 47 ∨ b = 98 ∨ b = 102 ∨ b = 110 ∨ b = 114 ∨ b = 116 then
          skipStringFrom fuel
        else failHere .invalidEscape
    | some _ => failHere .controlCharacter

/-- Skips a string behind its opening quote. -/
def skipString : Reader Unit := fun c => skipStringFrom (c.rest.length + 1) c

/-- Skips an exponent from its letter on. -/
def skipExponent : Reader Unit := do
  skip
  match ← peek with
  | some 43 => skip
  | some 45 => skip
  | _ => pure ()
  match ← next with
  | some d =>
    if isDigit d then fun c => .ok ((), c.advanceBy (leadingDigits c).length)
    else failHere .invalidNumber
  | none => failHere .invalidNumber

/-- Skips a number behind its sign. -/
def skipNumber : Reader Unit := do
  match ← next with
  | some 48 =>
    match ← peek with
    | some d => if isDigit d then failAhead .invalidNumber else pure ()
    | none => pure ()
  | some d =>
    if isDigit d then fun c => .ok ((), c.advanceBy (leadingDigits c).length)
    else failHere .invalidNumber
  | none => failHere .invalidNumber
  let b ← peek
  if b == some 46 then
    skip
    let ds ← fun c => .ok (leadingDigits c, c)
    if ds.isEmpty then failAhead .invalidNumber
    else
      skipBy ds.length
      if isExponentMark (← peek) then skipExponent else pure ()
  else if isExponentMark b then skipExponent
  else pure ()

end HandlerChain.Json.Reader
