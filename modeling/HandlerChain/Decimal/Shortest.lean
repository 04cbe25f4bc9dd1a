import HandlerChain.Decimal.Binary

/-!
# Shortest decimal text

A finite number is written with the fewest digits that read back as the same number, and of those
digit strings the one nearest to the number.

## Main Definitions

* `Binary.shortest` is the digit string and the power of ten of its first digit.
* `FloatLayout` says how digits and exponent become text.
* `FloatLayout.render` is the text.
-/

namespace HandlerChain

namespace Binary

variable {f : BinaryFormat}

/-- The exponent of the first decimal digit of the positive ratio `num / den`. -/
def decimalExponent (num den : Nat) : Int :=
  let guess : Int := ((Nat.log2 num : Int) - Nat.log2 den) * 1233 / 4096
  let reaches (e : Int) : Bool :=
    let (n, d) := scaleTen num den (-e)
    d ≤ n
  if reaches (guess + 1) then guess + 1 else if reaches guess then guess else guess - 1

/-- The numbers that round to a given one lie between two ratios over a common denominator. -/
structure Interval where
  low : Nat
  high : Nat
  den : Nat
  closed : Bool

/-- Whether a ratio over the denominator of the interval lies in it. -/
def Interval.contains (i : Interval) (n : Nat) : Bool :=
  if i.closed then i.low ≤ n && n ≤ i.high else i.low < n && n < i.high

/-- Digits of `value / den` in units of ten to `exponent`, if such a number lies in the interval. -/
def digitsAt (value : Nat) (i : Interval) (exponent : Int) : Option Nat :=
  let (value, den) := scaleTen value i.den (-exponent)
  let factor := den / i.den
  let scale := if 0 ≤ exponent then 1 else Nat.pow 10 (-exponent).toNat
  let wide : Interval := ⟨i.low * scale, i.high * scale, den, i.closed⟩
  let below := value / den
  let above := below + 1
  let unit := i.den * factor
  let inBelow := wide.contains (below * unit)
  let inAbove := wide.contains (above * unit)
  let nearBelow := 2 * (value - below * unit) ≤ unit
  if inBelow && (nearBelow || !inAbove) then some below
  else if inAbove then some above
  else none

/-- The first grid, from `count` digits on, that has a number in the interval. -/
def shortestFrom (value : Nat) (i : Interval) (top : Int) : Nat → Nat → Nat × Int
  | 0, count =>
    let e := top - count + 1
    let (n, d) := scaleTen value i.den (-e)
    (n / d, e)
  | fuel + 1, count =>
    let e := top - count + 1
    match digitsAt value i e with
    | some n => (n, e)
    | none => shortestFrom value i top fuel (count + 1)

/-- The decimal number with the fewest digits that reads back as `mantissa * 2 ^ exponent`: its digits
as a natural number and the power of ten of the last one. -/
def shortest (f : BinaryFormat) (mantissa : Nat) (exponent : Int) : Nat × Int :=
  let narrow := mantissa = Nat.pow 2 (f.precision - 1) ∧ f.minExponent < exponent
  let (value, den) := scaleTwo (4 * mantissa) 4 exponent
  let (half, _) := scaleTwo 2 4 exponent
  let lower := if narrow then half / 2 else half
  let i : Interval := ⟨value - lower, value + half, den, mantissa % 2 = 0⟩
  shortestFrom value i (decimalExponent value den) 20 1

end Binary

/-- How a number is written: the exponents of the first digit that are written positionally, whether a
whole number keeps one zero after the point, and whether a positive exponent shows its sign. -/
structure FloatLayout where
  positionalFrom : Int
  positionalTo : Int
  keepsPoint : Bool
  plusSign : Bool

namespace FloatLayout

/-- Drops the trailing zeros of a digit string. -/
def dropTrailingZeros (digits : List Char) : List Char :=
  (digits.reverse.dropWhile (· == '0')).reverse

/-- The text of the digits with the first one at the power of ten `top`. -/
def layout (l : FloatLayout) (digits : List Char) (top : Int) : List Char :=
  let zeros (n : Nat) : List Char := List.replicate n '0'
  if l.positionalFrom ≤ top ∧ top ≤ l.positionalTo then
    if top < 0 then
      ['0', '.'] ++ zeros ((-top).toNat - 1) ++ digits
    else
      let whole := top.toNat + 1
      if digits.length ≤ whole then
        digits ++ zeros (whole - digits.length) ++ (if l.keepsPoint then ['.', '0'] else [])
      else digits.take whole ++ '.' :: digits.drop whole
  else
    let mantissa := match digits with
      | [] => ['0']
      | [d] => [d]
      | d :: rest => d :: '.' :: rest
    let sign := if top < 0 then ['-'] else if l.plusSign then ['+'] else []
    mantissa ++ 'e' :: sign ++ (toString top.natAbs).toList

/-- The text of a finite number. -/
def renderFinite (l : FloatLayout) (f : BinaryFormat) (negative : Bool) (m : Nat) (e : Int) : String :=
  let sign := if negative then ['-'] else []
  if m = 0 then
    String.ofList (sign ++ (if l.keepsPoint then ['0', '.', '0'] else ['0']))
  else
    let (n, low) := Binary.shortest f m e
    let all := (toString n).toList
    let top := low + all.length - 1
    String.ofList (sign ++ l.layout (dropTrailingZeros all) top)

/-- The text of a number, with the usual names for those that are not finite. -/
def render (l : FloatLayout) {f : BinaryFormat} : Binary f → String
  | .nan => "NaN"
  | .infinite negative => if negative then "-inf" else "inf"
  | .finite negative m e => l.renderFinite f negative m e

/-- Sixteen digits before the point and five zeros after it are the limits of positional text. -/
def json : FloatLayout := ⟨-5, 15, true, true⟩

/-- As in JSON, but a positive exponent has no sign. -/
def yaml : FloatLayout := ⟨-5, 15, true, false⟩

/-- Always positional, a whole number without a point. -/
def plain : FloatLayout := ⟨-400, 400, false, false⟩

end FloatLayout

end HandlerChain
