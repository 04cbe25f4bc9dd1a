import HandlerChain.Json.Basic

/-!
# Access to members

Members of objects by key, where an absent member and a null are the same, and members of another kind
than asked for count as absent.

## Main Definitions

* `Json.at?` is a member, `Json.textAt?`, `Json.flagAt`, `Json.natAt` and `Json.itemsAt` are members of
  one kind.
-/

namespace HandlerChain.Json

/-- The items of a list. -/
def items : Json → List Json
  | array xs => xs
  | _ => []

/-- The integer of a value that is one. -/
def int? : Json → Option Int
  | number (.integer n) => some n
  | _ => none

/-- The truth value of a value that is one. -/
def bool? : Json → Option Bool
  | bool b => some b
  | _ => none

/-- A member that is not null. -/
def at? (j : Json) (key : String) : Option Json :=
  match j.get? key with
  | some null => none
  | member => member

/-- A member, or null. -/
def member (j : Json) (key : String) : Json := (j.at? key).getD null

/-- A member that is a text. -/
def textAt? (j : Json) (key : String) : Option String := (j.at? key).bind text?

/-- A member that is a text, or the empty text. -/
def textAt (j : Json) (key : String) : String := (j.textAt? key).getD ""

/-- The items of a member. -/
def itemsAt (j : Json) (key : String) : List Json := (j.member key).items

/-- The texts of a member. -/
def textsAt (j : Json) (key : String) : List String := (j.itemsAt key).filterMap text?

/-- Whether a member is true. -/
def flagAt (j : Json) (key : String) : Bool := ((j.at? key).bind bool?).getD false

/-- A member that is an integer, or zero. -/
def intAt (j : Json) (key : String) : Int := ((j.at? key).bind int?).getD 0

/-- A member that is a natural number, or zero. -/
def natAt (j : Json) (key : String) : Nat := (j.intAt key).toNat

end HandlerChain.Json
