import HandlerChain.Json.Token

/-!
# Reading JSON values

Any value is read with a bound on how deep lists and objects nest. Of two members with one key the
last wins, and members are sorted by key.

## Main Definitions

* `Json.Reader.value` reads a value, `Json.Reader.ignore` skips one.
* `Json.Reader.nextItem` and `Json.Reader.nextKey` find the next part of a list or object.
* `Json.Reader.whole` reads a value that is the whole text.
* `Json.parse` is the value of a text.
-/

namespace HandlerChain.Json.Reader

/-- How deep lists and objects may nest. -/
def maxDepth : Nat := 127

/-- The next byte behind white space; the text may not end here. -/
def startOfValue : Reader UInt8 := do
  match ← peekToken with
  | some b => pure b
  | none => failAhead .endInValue

/-- Whether a list goes on, read up to its next item; `first` says that none was read. -/
def nextItem (first : Bool) : Reader Bool := do
  match ← peekToken with
  | none => failAhead .endInList
  | some b =>
    if b = 93 then pure false
    else if first then pure true
    else if b = 44 then
      skip
      match ← peekToken with
      | some 93 => failAhead .trailingComma
      | some _ => pure true
      | none => failAhead .endInValue
    else failAhead .expectedListCommaOrEnd

/-- Reads the end of a list. -/
def endList : Reader Unit := do
  match ← peekToken with
  | some 93 => skip
  | some 44 =>
    skip
    match ← peekToken with
    | some 93 => failAhead .trailingComma
    | _ => failAhead .trailingCharacters
  | some _ => failAhead .trailingCharacters
  | none => failAhead .endInList

/-- Whether an object goes on, read up to the quote of its next key. -/
def nextKey (first : Bool) : Reader Bool := do
  match ← peekToken with
  | none => failAhead .endInObject
  | some b =>
    if b = 125 then pure false
    else if first then
      if b = 34 then pure true else failAhead .keyNotString
    else if b = 44 then
      skip
      match ← peekToken with
      | some 34 => pure true
      | some 125 => failAhead .trailingComma
      | some _ => failAhead .keyNotString
      | none => failAhead .endInValue
    else failAhead .expectedObjectCommaOrEnd

/-- Reads the end of an object. -/
def endObject : Reader Unit := do
  match ← peekToken with
  | some 125 => skip
  | some 44 => failAhead .trailingComma
  | some _ => failAhead .trailingCharacters
  | none => failAhead .endInObject

/-- Reads the colon behind a key. -/
def colon : Reader Unit := do
  match ← peekToken with
  | some 58 => skip
  | some _ => failAhead .expectedColon
  | none => failAhead .endInObject

/-- Reads the items of a list, each with `item`; every item takes at least one byte. -/
def itemsFrom {α : Type} (item : Reader α) : Nat → List α → Reader (List α)
  | 0, acc => pure acc.reverse
  | fuel + 1, acc => do
    if ← nextItem acc.isEmpty then
      let a ← item
      itemsFrom item fuel (a :: acc)
    else pure acc.reverse

/-- Reads the items of a list up to its end. -/
def items {α : Type} (item : Reader α) : Reader (List α) := fun c =>
  itemsFrom item (c.rest.length + 1) [] c

/-- Reads the members of an object, the key with `key` and the value with `item`. -/
def membersFrom {κ α : Type} (key : Reader κ) (item : Reader α) :
    Nat → List (κ × α) → Reader (List (κ × α))
  | 0, acc => pure acc.reverse
  | fuel + 1, acc => do
    if ← nextKey acc.isEmpty then
      let k ← key
      colon
      let a ← item
      membersFrom key item fuel ((k, a) :: acc)
    else pure acc.reverse

/-- Reads the members of an object up to its end. -/
def members {κ α : Type} (key : Reader κ) (item : Reader α) : Reader (List (κ × α)) := fun c =>
  membersFrom key item (c.rest.length + 1) [] c

/-- Reads a key that is a string. -/
def textKey : Reader String := do
  skip
  string

/-- What stands at the cursor, as the reason of a mismatch; a literal, number or string is read. -/
def found : Reader Decode.Found := do
  match ← peek with
  | some 110 => skip; word (ascii "ull"); pure .unit
  | some 116 => skip; word (ascii "rue"); pure (.bool true)
  | some 102 => skip; word (ascii "alse"); pure (.bool false)
  | some 45 => skip; describe <$> number true
  | some 34 => skip; .text <$> string
  | some 91 => pure .sequence
  | some 123 => pure .map
  | some b => if isDigit b then describe <$> number false else failAhead .expectedValue
  | none => failAhead .expectedValue
where
  /-- A number as what was found. -/
  describe : Number → Decode.Found
    | .integer n => .integer n
    | .float x => .float x

/-- Fails because the value at the cursor is not of the expected kind. -/
def unexpected {α : Type} (expected : String) : Reader α := do
  let f ← found
  mismatch (.wrongType f expected)

/-- A number as a value. -/
def ofNumber : Number → Json
  | .integer n => .number (.integer n)
  | .float x => .float x

/-- Reads a value whose parts are read with `inner`; without it lists and objects nest too deep. -/
def valueWith (inner : Option (Reader Json)) : Reader Json := settle do
  let b ← startOfValue
  if b = 110 then skip; word (ascii "ull"); pure .null
  else if b = 116 then skip; word (ascii "rue"); pure (.bool true)
  else if b = 102 then skip; word (ascii "alse"); pure (.bool false)
  else if b = 45 then skip; ofNumber <$> number true
  else if isDigit b then ofNumber <$> number false
  else if b = 34 then skip; .text <$> string
  else if b = 91 then
    match inner with
    | none => failAhead .tooDeep
    | some inner =>
      skip
      .array <$> closedBy (items inner) endList
  else if b = 123 then
    match inner with
    | none => failAhead .tooDeep
    | some inner =>
      skip
      .sorted <$> closedBy (members textKey inner) endObject
  else failAhead .expectedValue

/-- Reads a value; `depth` is how deep lists and objects may nest. -/
def value : Nat → Reader Json
  | 0 => valueWith none
  | depth + 1 => valueWith (some (value depth))

/-- Where a skipped value stands: inside lists and objects, the innermost first. -/
abbrev Enclosing := List Bool

/-- Skips a value without building it, and the lists and objects around it. In `enclosing` an object
is `true`. `wantsComma` says that a part of the innermost one has just been read. -/
def ignoreFrom : Nat → Bool → Enclosing → Reader Unit
  | 0, _, _ => pure ()
  | _ + 1, true, [] => pure ()
  | fuel + 1, wantsComma, enclosing@(isObject :: outer) => do
    match ← peekToken with
    | none => failAhead (if isObject then .endInObject else .endInList)
    | some b =>
      if b = 44 ∧ wantsComma then
        skip
        part fuel isObject enclosing
      else if (b = 93 ∧ !isObject) ∨ (b = 125 ∧ isObject) then
        skip
        ignoreFrom fuel true outer
      else if wantsComma then
        failAhead (if isObject then .expectedObjectCommaOrEnd else .expectedListCommaOrEnd)
      else part fuel isObject enclosing
  | fuel + 1, false, [] => start fuel []
  termination_by fuel => 3 * fuel
  decreasing_by all_goals omega
where
  /-- Skips one part of a list or object, with what follows it. -/
  part (fuel : Nat) (isObject : Bool) (enclosing : Enclosing) : Reader Unit := do
    if isObject then
      match ← peekToken with
      | some 34 => skip
      | some _ => failAhead .keyNotString
      | none => failAhead .endInObject
      skipString
      colon
    start fuel enclosing
  termination_by 3 * fuel + 2
  decreasing_by all_goals omega
  /-- Skips a value, or the beginning of one that has parts, with what follows it. -/
  start (fuel : Nat) (enclosing : Enclosing) : Reader Unit := do
    match ← peekToken with
    | none => failAhead .endInValue
    | some b =>
      if b = 110 then do skip; word (ascii "ull"); ignoreFrom fuel true enclosing
      else if b = 116 then do skip; word (ascii "rue"); ignoreFrom fuel true enclosing
      else if b = 102 then do skip; word (ascii "alse"); ignoreFrom fuel true enclosing
      else if b = 45 then do skip; skipNumber; ignoreFrom fuel true enclosing
      else if isDigit b then do skipNumber; ignoreFrom fuel true enclosing
      else if b = 34 then do skip; skipString; ignoreFrom fuel true enclosing
      else if b = 91 then do skip; ignoreFrom fuel false (false :: enclosing)
      else if b = 123 then do skip; ignoreFrom fuel false (true :: enclosing)
      else failAhead .expectedValue
  termination_by 3 * fuel + 1
  decreasing_by all_goals omega

/-- Skips a value. -/
def ignore : Reader Unit := fun c => ignoreFrom (2 * c.rest.length + 2) false [] c

/-- Reads a value that is followed by nothing but white space. -/
def whole {α : Type} (r : Reader α) (bytes : List UInt8) : Except ReadError α :=
  match r { rest := bytes } with
  | .error e => .error e
  | .ok (a, c) =>
    match peekToken c with
    | .error e => .error e
    | .ok (none, _) => .ok a
    | .ok (some _, c) => .error ⟨.trailingCharacters, some c.ahead, c⟩

end HandlerChain.Json.Reader

namespace HandlerChain.Json

/-- The value that the bytes are the text of. -/
def parse (bytes : List UInt8) : Except ReadError Json :=
  Reader.whole (Reader.value Reader.maxDepth) bytes

end HandlerChain.Json
