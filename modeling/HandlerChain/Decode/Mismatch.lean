import HandlerChain.Decimal.Shortest
import HandlerChain.Text.Quoted

/-!
# Mismatches between data and a type

The reasons why data that is well-formed in its own format has no value in a type. The formats share
these reasons; what a format adds is a position, or another way to name what was found.

## Main Definitions

* `Decode.Found` is what stands in the data.
* `Decode.Mismatch` is a reason, and `Decode.Mismatch.message` its wording.
* `Decode.Words` is what a format calls its values.
-/

namespace HandlerChain.Decode

/-- What stands in the data where something else was expected. -/
inductive Found where
  | unit
  | bool (b : Bool)
  | integer (n : Int)
  | float (x : Binary .double)
  | text (s : String)
  | sequence
  | map
  deriving Repr

/-- Why data has no value in a type. -/
inductive Mismatch where
  | wrongType (found : Found) (expected : String)
  | wrongValue (found : Found) (expected : String)
  | wrongLength (length : Nat) (expected : String)
  | unknownField (name : String) (known : List String)
  | missingField (name : String)
  | duplicateField (name : String)
  | custom (message : String)
  deriving Repr

/-- What a format calls its empty value, and how it writes a floating point number. -/
structure Words where
  unit : String
  float : Binary .double → String

namespace Words

/-- The words of JSON. -/
def json : Words := ⟨"null", FloatLayout.json.render⟩

/-- The words of other formats, where a number is positional and always shows a point. -/
def usual : Words where
  unit := "unit value"
  float
    | .finite s m e => (FloatLayout.mk (-400) 400 true false).renderFinite .double s m e
    | x => FloatLayout.plain.render x ++ ".0"

end Words

namespace Found

/-- The name of what was found. -/
def describe (w : Words) : Found → String
  | unit => w.unit
  | bool b => "boolean `" ++ (if b then "true" else "false") ++ "`"
  | integer n => "integer `" ++ toString n ++ "`"
  | float x => "floating point `" ++ w.float x ++ "`"
  | text s => "string " ++ Text.quoted s
  | sequence => "sequence"
  | map => "map"

end Found

/-- A name between grave accents. -/
def tick (name : String) : String := "`" ++ name ++ "`"

/-- The names of which one was expected. -/
def oneOf : List String → String
  | [] => "there are no fields"
  | [a] => "expected " ++ tick a
  | [a, b] => "expected " ++ tick a ++ " or " ++ tick b
  | names => "expected one of " ++ ", ".intercalate (names.map tick)

namespace Mismatch

/-- The wording of a reason. -/
def message (w : Words) : Mismatch → String
  | wrongType found expected => "invalid type: " ++ found.describe w ++ ", expected " ++ expected
  | wrongValue found expected => "invalid value: " ++ found.describe w ++ ", expected " ++ expected
  | wrongLength n expected => "invalid length " ++ toString n ++ ", expected " ++ expected
  | unknownField name [] => "unknown field " ++ tick name ++ ", " ++ oneOf []
  | unknownField name known => "unknown field " ++ tick name ++ ", " ++ oneOf known
  | missingField name => "missing field " ++ tick name
  | duplicateField name => "duplicate field " ++ tick name
  | custom message => message

end Mismatch

end HandlerChain.Decode
