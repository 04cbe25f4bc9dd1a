import HandlerChain.Decode.Mismatch
import HandlerChain.Value.FromText
import HandlerChain.Yaml.Node

/-!
# What scalars mean

A plain scalar is null, a truth value, a number or a text by its form; any other scalar is a text. A tag
of the core schema asks for one of these kinds.

## Main Definitions

* `Yaml.Atom` is what a scalar means.
* `Yaml.Atom.ofPlain` reads a plain scalar, `Yaml.Atom.ofScalar` any scalar with its tag.
* `Yaml.looksSpecial` says whether a text would be read as something else if it were plain.
-/

namespace HandlerChain.Yaml

open Decode (Found Mismatch)

/-- What a scalar means. The sign of an integer is kept as it was written. -/
inductive Atom where
  | null
  | bool (b : Bool)
  | integer (negative : Bool) (magnitude : Nat)
  | float (x : Binary .double)
  | text (s : String)
  deriving Repr

/-- Whether a text is a name of null. -/
def isNull (s : String) : Bool := ["null", "Null", "NULL", "~"].contains s

/-- The truth value with a name. -/
def bool? (s : String) : Option Bool :=
  if ["true", "True", "TRUE"].contains s then some true
  else if ["false", "False", "FALSE"].contains s then some false
  else none

/-- The value of a digit of a base up to 36. -/
def digit? (base : Nat) (c : Char) : Option Nat :=
  let n :=
    if c.isDigit then some (c.toNat - 48)
    else if 'a' ≤ c ∧ c ≤ 'z' then some (c.toNat - 87)
    else if 'A' ≤ c ∧ c ≤ 'Z' then some (c.toNat - 55)
    else none
  n.filter (· < base)

/-- The number with digits of a base; there is at least one. -/
def digits? (base : Nat) (cs : List Char) : Option Nat :=
  if cs.isEmpty then none else cs.foldlM (fun acc c => (digit? base c).map (base * acc + ·)) 0

/-- The number that digits behind a mark of their base stand for, or decimal digits. -/
def magnitude? : List Char → Option Nat
  | '0' :: 'x' :: rest => digits? 16 rest
  | '0' :: 'o' :: rest => digits? 8 rest
  | '0' :: 'b' :: rest => digits? 2 rest
  | cs => digits? 10 cs

/-- A text without one sign in front of it. -/
def unsigned : List Char → List Char
  | '+' :: rest => rest
  | '-' :: rest => rest
  | cs => cs

/-- Whether a text is digits with a zero in front of them, which is no number. -/
def isPadded (s : String) : Bool :=
  match unsigned s.toList with
  | '0' :: c :: rest => (c :: rest).all Char.isDigit
  | _ => false

/-- The integer with a text, as sign and magnitude; 128 bits have to be enough. -/
def integer? (s : String) : Option (Bool × Nat) :=
  if isPadded s then none
  else
    match s.toList with
    | '-' :: rest => ((magnitude? rest).filter (· ≤ Nat.pow 2 127)).map fun n => (true, n)
    | '+' :: rest => ((magnitude? rest).filter (· < Nat.pow 2 128)).map fun n => (false, n)
    | cs => ((magnitude? cs).filter (· < Nat.pow 2 128)).map fun n => (false, n)

/-- The floating point number with a text; one that is too large has none. -/
def float? (s : String) : Option (Binary .double) :=
  if [".inf", ".Inf", ".INF", "+.inf", "+.Inf", "+.INF"].contains s then some (.infinite false)
  else if ["-.inf", "-.Inf", "-.INF"].contains s then some (.infinite true)
  else if [".nan", ".NaN", ".NAN"].contains s then some .nan
  else
    match s.toList with
    | '+' :: '+' :: _ => none
    | '+' :: '-' :: _ => none
    | _ =>
      match Binary.parse .double s with
      | .ok (.finite negative m e) => some (.finite negative m e)
      | _ => none

namespace Atom

/-- What a plain scalar means. -/
def ofPlain (s : String) : Atom :=
  if s.isEmpty || isNull s then .null
  else
    match bool? s with
    | some b => .bool b
    | none =>
      match integer? s with
      | some (negative, n) => .integer negative n
      | none =>
        match (if isPadded s then none else float? s) with
        | some x => .float x
        | none => .text s

/-- What a scalar of a style means without its tag. -/
def ofStyled (style : ScalarStyle) (s : String) : Atom :=
  if style = .plain then ofPlain s else .text s

/-- The start of the tags of the core schema. -/
def coreTag (name : String) : String := "tag:yaml.org,2002:" ++ name

/-- A value that a tag asks for, or a mismatch. -/
def orMismatch (s expected : String) : Option Atom → Except Mismatch Atom
  | some a => .ok a
  | none => .error (.wrongValue (.text s) expected)

/-- What a scalar means. A tag of the core schema decides, an own tag leaves it to the style, and any
other tag makes it a text. -/
def ofScalar (tag : Option String) (style : ScalarStyle) (s : String) : Except Mismatch Atom :=
  match tag with
  | none => .ok (ofStyled style s)
  | some tag =>
    if tag = coreTag "bool" then orMismatch s "a boolean" ((bool? s).map bool)
    else if tag = coreTag "int" then
      orMismatch s "an integer" ((integer? s).map fun (negative, n) => integer negative n)
    else if tag = coreTag "float" then orMismatch s "a float" ((float? s).map float)
    else if tag = coreTag "null" then orMismatch s "null" (if isNull s then some null else none)
    else if tag.startsWith "!" then .ok (ofStyled style s)
    else .ok (.text s)

/-- The value of an integer. -/
def signed (negative : Bool) (n : Nat) : Int := if negative then -n else n

/-- How an error names a scalar; an integer of more than 64 bits is named with its kind. -/
def wrongType (expected : String) : Atom → Mismatch
  | null => .wrongType .unit expected
  | bool b => .wrongType (.bool b) expected
  | integer negative n =>
    let value := signed negative n
    if n < (if negative then Nat.pow 2 63 + 1 else Nat.pow 2 64) then .wrongType (.integer value) expected
    else
      .custom ("invalid type: integer " ++ Decode.tick (toString value) ++ " as " ++
        (if negative then "i128" else "u128") ++ ", expected " ++ expected)
  | float x => .wrongType (.float x) expected
  | text s => .wrongType (.text s) expected

/-- Whether an integer has more than 64 bits. -/
def isWide : Atom → Bool
  | integer negative n => !decide (n < (if negative then Nat.pow 2 63 + 1 else Nat.pow 2 64))
  | _ => false

end Atom

/-- An error in the data of a node. -/
def dataError {α : Type} (path : Path) (mark : Mark) (m : Mismatch) : Except ReadError α :=
  .error (.data (m.message .usual) path mark)

/-- Whether a text would not be read as itself if it were plain. -/
def looksSpecial (s : String) : Bool :=
  isPadded s ||
    match Atom.ofPlain s with
    | .text _ => false
    | _ => true

end HandlerChain.Yaml
