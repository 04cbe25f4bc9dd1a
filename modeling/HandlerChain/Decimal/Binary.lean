/-!
# Binary floating point numbers

Numbers of a binary format as exact values, with correct rounding of a ratio of natural numbers.
All arithmetic goes through `Binary.ofRatio`, so each result is the nearest number of the format, a
tie going to the even mantissa.

## Main Definitions

* `BinaryFormat` is a precision with a range of exponents; `BinaryFormat.double` and
  `BinaryFormat.single` are the two common ones.
* `Binary` is a number of a format.
* `Binary.ofRatio` rounds a ratio, and `Binary.ofDecimal` a decimal number.
* `Binary.mul` and `Binary.div` are the rounded product and quotient.
-/

namespace HandlerChain

/-- A binary format: the number of bits of a mantissa, and the exponents of the last bit. -/
structure BinaryFormat where
  precision : Nat
  minExponent : Int
  maxExponent : Int

namespace BinaryFormat

/-- The 64 bit format. -/
def double : BinaryFormat := ⟨53, -1074, 971⟩

/-- The 32 bit format. -/
def single : BinaryFormat := ⟨24, -149, 104⟩

end BinaryFormat

/-- A number of a binary format; a finite one is its mantissa times two to its exponent. -/
inductive Binary (f : BinaryFormat) where
  | nan
  | infinite (negative : Bool)
  | finite (negative : Bool) (mantissa : Nat) (exponent : Int)
  deriving DecidableEq, Repr

namespace Binary

variable {f : BinaryFormat}

/-- Zero with a sign. -/
def zero (negative : Bool) : Binary f := finite negative 0 f.minExponent

instance : Inhabited (Binary f) := ⟨zero false⟩

/-- Two to the power of a possibly negative exponent, as numerator and denominator. -/
def scaleTwo (num den : Nat) (e : Int) : Nat × Nat :=
  if 0 ≤ e then (num * Nat.pow 2 e.toNat, den) else (num, den * Nat.pow 2 (-e).toNat)

/-- A ratio times a power of ten. -/
def scaleTen (num den : Nat) (e : Int) : Nat × Nat :=
  if 0 ≤ e then (num * Nat.pow 10 e.toNat, den) else (num, den * Nat.pow 10 (-e).toNat)

/-- The quotient rounded to the nearest natural number, a tie to the even one. -/
def roundHalfEven (num den : Nat) : Nat :=
  let q := num / den
  let r := num % den
  if 2 * r < den then q
  else if den < 2 * r then q + 1
  else if q % 2 = 0 then q else q + 1

/-- The nearest number of the format to `num / den`, with the given sign. -/
def ofRatio (negative : Bool) (num den : Nat) : Binary f :=
  if num = 0 ∨ den = 0 then zero negative
  else
    let guess : Int := (Nat.log2 num : Int) - Nat.log2 den - f.precision
    let (n, d) := scaleTwo num den (-guess)
    let e := if n / d < Nat.pow 2 f.precision then guess else guess + 1
    let e := max e f.minExponent
    let (n, d) := scaleTwo num den (-e)
    let m := roundHalfEven n d
    let (m, e) := if m = Nat.pow 2 f.precision then (m / 2, e + 1) else (m, e)
    if f.maxExponent < e then infinite negative else finite negative m e

/-- The nearest number of the format to `digits` times ten to `exponent`. -/
def ofDecimal (negative : Bool) (digits : Nat) (exponent : Int) : Binary f :=
  if digits = 0 then zero negative
  else
    let magnitude : Int := exponent + (Nat.log2 digits * 1233 / 4096 : Nat)
    if 400 < magnitude then infinite negative
    else if magnitude < -400 then zero negative
    else
      let (n, d) := scaleTen digits 1 exponent
      ofRatio negative n d

/-- The nearest number of the format to an integer. -/
def ofInt (n : Int) : Binary f := ofRatio (n < 0) n.natAbs 1

/-- The number with the other sign. -/
def neg : Binary f → Binary f
  | nan => nan
  | infinite s => infinite (!s)
  | finite s m e => finite (!s) m e

/-- Whether the number is an infinity. -/
def isInfinite : Binary f → Bool
  | infinite _ => true
  | _ => false

/-- Whether the number is a zero of either sign. -/
def isZero : Binary f → Bool
  | finite _ 0 _ => true
  | _ => false

/-- The rounded product. -/
def mul : Binary f → Binary f → Binary f
  | nan, _ => nan
  | _, nan => nan
  | infinite s, infinite t => infinite (s != t)
  | infinite s, finite t m _ => if m = 0 then nan else infinite (s != t)
  | finite s m _, infinite t => if m = 0 then nan else infinite (s != t)
  | finite s m e, finite t n d =>
    let (a, b) := scaleTwo (m * n) 1 (e + d)
    ofRatio (s != t) a b

/-- The rounded quotient. -/
def div : Binary f → Binary f → Binary f
  | nan, _ => nan
  | _, nan => nan
  | infinite _, infinite _ => nan
  | infinite s, finite t _ _ => infinite (s != t)
  | finite s _ _, infinite t => zero (s != t)
  | finite s m e, finite t n d =>
    if n = 0 then (if m = 0 then nan else infinite (s != t))
    else
      let (a, b) := scaleTwo m n (e - d)
      ofRatio (s != t) a b

/-- The nearest number of another format. -/
def convert {g : BinaryFormat} : Binary f → Binary g
  | nan => nan
  | infinite s => infinite s
  | finite s m e =>
    let (a, b) := scaleTwo m 1 e
    ofRatio s a b

end Binary

end HandlerChain
