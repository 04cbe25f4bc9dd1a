import HandlerChain.Value.Dyn

/-!
# Values from text

The reading of single values from text, as they stand in paths, queries, headers and form fields.

## Main Definitions

* `Ty.isText` says whether values of a type are read from text.
* `Ty.ofText` reads one.
* `Binary.parse` reads a floating point number.
-/

namespace HandlerChain

namespace Binary

/-- Decimal digits, point and exponent of a number without its sign. -/
structure Decimal where
  digits : Nat
  exponent : Int

/-- The digits of an exponent behind its optional sign. -/
def parseExponent (cs : List Char) : Option Int :=
  let read (cs : List Char) : Option Nat :=
    if cs.isEmpty || !cs.all Char.isDigit then none
    else some (cs.foldl (fun acc c => acc * 10 + (c.toNat - 48)) 0)
  match cs with
  | '+' :: rest => (read rest).map fun n => (n : Int)
  | '-' :: rest => (read rest).map fun n => -(n : Int)
  | _ => (read cs).map fun n => (n : Int)

/-- Reads digits with an optional point and exponent; there is at least one digit. -/
def parseDecimal (cs : List Char) : Option Decimal :=
  let whole := cs.takeWhile Char.isDigit
  let rest := cs.dropWhile Char.isDigit
  let (fraction, rest) := match rest with
    | '.' :: r => (r.takeWhile Char.isDigit, r.dropWhile Char.isDigit)
    | _ => ([], rest)
  let digits := (whole ++ fraction).foldl (fun acc c => acc * 10 + (c.toNat - 48)) 0
  if whole.isEmpty && fraction.isEmpty then none
  else match rest with
    | [] => some ⟨digits, -(fraction.length : Int)⟩
    | c :: rest =>
      if c = 'e' ∨ c = 'E' then
        (parseExponent rest).map fun e => ⟨digits, e - fraction.length⟩
      else none

/-- Reads a number: an optional sign, then digits, or a name of infinity or of no number. -/
def parse (f : BinaryFormat) (s : String) : Except String (Binary f) :=
  match s.toList with
  | [] => .error "cannot parse float from empty string"
  | c :: rest =>
    let negative := c = '-'
    let body := if c = '-' ∨ c = '+' then rest else c :: rest
    match parseDecimal body with
    | some d => .ok (ofDecimal negative d.digits d.exponent)
    | none =>
      let word := Text.lowerAscii (String.ofList body)
      if word = "inf" ∨ word = "infinity" then .ok (.infinite negative)
      else if word = "nan" then .ok .nan
      else .error "invalid float literal"

end Binary

namespace Ty

/-- Whether values of a type are read from text. -/
def isText : Ty → Bool
  | int _ | single | double | bool | char | text | choice _ _ _ | uuid => true
  | _ => false

/-- Reads a value of a type from text; a type that is not read from text has none. -/
def ofText : (t : Ty) → String → Except String t.Denote
  | int k, s => (k.parse s).mapError IntKind.ParseError.message
  | single, s => Binary.parse .single s
  | double, s => Binary.parse .double s
  | bool, s =>
    if s = "true" then .ok true
    else if s = "false" then .ok false
    else .error "provided string was not `true` or `false`"
  | char, s =>
    match s.toList with
    | [] => .error "cannot parse char from empty string"
    | [c] => .ok c
    | _ => .error "too many characters in string"
  | text, s => .ok s
  | choice _ what words, s =>
    if words.contains s then .ok s else .error ("unknown " ++ what ++ " '" ++ s ++ "'")
  | uuid, s => (Uuid.parse s).mapError Uuid.ParseError.message
  | _, _ => .error "not a text type"

end Ty

end HandlerChain
