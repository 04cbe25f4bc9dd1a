import HandlerChain.Decimal.Shortest

/-!
# JSON values

Values with the members of an object in a definite order. Objects that come from data keep their
members sorted by key, and the last of two members with one key wins.

## Main Definitions

* `Json` is a value, `Json.Number` a number.
* `Json.insert` adds a member to sorted members.
* `Json.render` is the compact text.
-/

namespace HandlerChain

/-- A JSON number: an integer of 64 bits, or a floating point number. -/
inductive Json.Number where
  | integer (n : Int)
  | float (x : Binary .double)
  deriving DecidableEq, Repr

/-- A JSON value. -/
inductive Json where
  | null
  | bool (b : Bool)
  | number (n : Json.Number)
  | text (s : String)
  | array (items : List Json)
  | object (members : List (String × Json))
  deriving Inhabited, Repr, BEq

namespace Json

/-- An integer as a value. -/
def int (n : Int) : Json := number (.integer n)

/-- A natural number as a value. -/
def nat (n : Nat) : Json := int n

/-- A floating point number as a value; one that is not finite has no number and becomes null. -/
def float : Binary .double → Json
  | .finite s m e => number (.float (.finite s m e))
  | _ => null

/-- A list of texts as a value. -/
def texts (items : List String) : Json := array (items.map text)

/-- A value that may be absent. -/
def ofOption {α : Type} (f : α → Json) : Option α → Json
  | none => null
  | some a => f a

/-- Members sorted by key with one more; a member with the same key is replaced. -/
def insert (key : String) (value : Json) : List (String × Json) → List (String × Json)
  | [] => [(key, value)]
  | (k, v) :: rest =>
    if key = k then (key, value) :: rest
    else if key < k then (key, value) :: (k, v) :: rest
    else (k, v) :: insert key value rest

/-- An object whose members are sorted by key. -/
def sorted (members : List (String × Json)) : Json :=
  object (members.foldl (fun acc m => insert m.1 m.2 acc) [])

/-- The member of an object with a given key. -/
def get? (key : String) : Json → Option Json
  | object members => members.lookup key
  | _ => none

/-- The text of a value that is one. -/
def text? : Json → Option String
  | text s => some s
  | _ => none

/-- The lower case hexadecimal digit of a number below sixteen. -/
def hexDigit (n : Nat) : Char := Nat.digitChar n

/-- The form of one character inside a JSON string. -/
def escape (c : Char) : List Char :=
  if c = '"' then ['\\', '"']
  else if c = '\\' then ['\\', '\\']
  else if c.toNat = 8 then ['\\', 'b']
  else if c.toNat = 9 then ['\\', 't']
  else if c.toNat = 10 then ['\\', 'n']
  else if c.toNat = 12 then ['\\', 'f']
  else if c.toNat = 13 then ['\\', 'r']
  else if c.toNat < 0x20 then
    ['\\', 'u', '0', '0', hexDigit (c.toNat / 16), hexDigit (c.toNat % 16)]
  else [c]

/-- A JSON string. -/
def quote (s : String) : String := String.ofList ('"' :: (s.toList.flatMap escape ++ ['"']))

/-- The text of a number. -/
def Number.render : Number → String
  | .integer n => toString n
  | .float x => FloatLayout.json.render x

mutual

/-- The compact text of a value. -/
def render : Json → String
  | null => "null"
  | bool true => "true"
  | bool false => "false"
  | number n => n.render
  | text s => quote s
  | array items => "[" ++ renderItems items ++ "]"
  | object members => "\x7b" ++ renderMembers members ++ "\x7d"

/-- The texts of some values, separated by commas. -/
def renderItems : List Json → String
  | [] => ""
  | [item] => render item
  | item :: rest => render item ++ "," ++ renderItems rest

/-- The texts of some members, separated by commas. -/
def renderMembers : List (String × Json) → String
  | [] => ""
  | [(k, v)] => quote k ++ ":" ++ render v
  | (k, v) :: rest => quote k ++ ":" ++ render v ++ "," ++ renderMembers rest

end

end Json

end HandlerChain
