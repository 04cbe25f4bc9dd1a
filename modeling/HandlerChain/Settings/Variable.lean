import HandlerChain.Settings.Setting
import HandlerChain.Text.LowerCase
import HandlerChain.Value.FromText

/-!
# Settings from environment variables

A variable whose name starts as asked for, in any case of letters, sets what the rest of its name says:
two underscores separate the keys, which are in lower case. Its value is a truth value, a number, a list
or a table in brackets, a text in quotes, or else its text as it stands.

## Main Definitions

* `Setting.parse` reads the value of a variable.
* `Setting.path?` is the way to what a variable sets.
* `Setting.ofVariables` is the table that variables set.
-/

namespace HandlerChain.Setting

/-! ### Values -/

/-- Whether a character is skipped around values. -/
def isSpace (c : Char) : Bool := c == ' ' || c == '\t' || c == '\n'

/-- Whether a character separates values. -/
def separates (c : Char) : Bool := ",\x7b\x7d[]".toList.contains c

/-- Whether a character is part of a key without quotes. -/
def isKeyChar (c : Char) : Bool := c.isAlphanum || c == '_' || c == '-'

/-- Drops skipped characters. -/
def skipSpace (cs : List Char) : List Char := cs.dropWhile isSpace

/-- The value of hexadecimal digits. -/
def hexValue? (cs : List Char) : Option Nat :=
  cs.foldlM (fun acc c =>
    let d := if c.isDigit then some (c.toNat - 48)
      else if 'a' ≤ c ∧ c ≤ 'f' then some (c.toNat - 87)
      else if 'A' ≤ c ∧ c ≤ 'F' then some (c.toNat - 55)
      else none
    d.map (16 * acc + ·)) 0

/-- The characters that text between quotes stands for. -/
def unescape : Nat → List Char → Option (List Char)
  | 0, _ => some []
  | _, [] => some []
  | fuel + 1, '\\' :: c :: rest =>
    let code (n : Nat) : Option (List Char) :=
      let digits := rest.take n
      if digits.length < n then none
      else
        match hexValue? digits with
        | some v => if v.isValidChar then (unescape fuel (rest.drop n)).map (Char.ofNat v :: ·) else none
        | none => none
    if c = '"' ∨ c = '\\' then (unescape fuel rest).map (c :: ·)
    else if c = 'b' then (unescape fuel rest).map ('\x08' :: ·)
    else if c = 'f' then (unescape fuel rest).map ('\x0c' :: ·)
    else if c = 'n' then (unescape fuel rest).map ('\n' :: ·)
    else if c = 'r' then (unescape fuel rest).map ('\r' :: ·)
    else if c = 't' then (unescape fuel rest).map ('\t' :: ·)
    else if c = 'u' then code 4
    else if c = 'U' then code 8
    else none
  | fuel + 1, c :: rest =>
    if c = '\\' then none
    else if c = '\t' ∨ (0x20 ≤ c.toNat ∧ c.toNat ≠ 0x7F) then (unescape fuel rest).map (c :: ·)
    else none

/-- The length of the text up to a quote that is not escaped. -/
def quotedLength (isEscaped : Bool) : List Char → Nat
  | [] => 0
  | c :: rest =>
    if isEscaped then quotedLength false rest + 1
    else if c = '\\' then quotedLength true rest + 1
    else if c = '"' then 0
    else quotedLength false rest + 1

/-- Reads a text in quotes. -/
def readQuoted : List Char → Option (String × List Char)
  | '"' :: rest =>
    let n := quotedLength false rest
    match rest.drop n with
    | '"' :: behind => (unescape (n + 1) (rest.take n)).map fun cs => (String.ofList cs, behind)
    | _ => none
  | _ => none

/-- Reads a key. -/
def readKey (cs : List Char) : Option (String × List Char) :=
  match cs with
  | '"' :: _ => readQuoted cs
  | _ =>
    let name := cs.takeWhile isKeyChar
    if name.isEmpty then none else some (String.ofList name, cs.drop name.length)

/-- The setting of a word. A point makes it a floating point number if it is one. -/
def ofWord (l : Layer) (word : String) : Setting :=
  let float := if word.contains '.' then (Binary.parse .double word).toOption else none
  match float with
  | some x => number l (.float x)
  | none =>
    match IntKind.parseInt .u64 word, IntKind.parseInt .i64 word with
    | .ok n, _ => number l (.unsigned n.toNat)
    | _, .ok n => number l (.signed n)
    | _, _ => text l word

mutual

/-- Reads a value with the space around it. -/
def readValue (l : Layer) : Nat → List Char → Option (Setting × List Char)
  | 0, _ => none
  | fuel + 1, cs =>
    let read := match skipSpace cs with
      | 't' :: 'r' :: 'u' :: 'e' :: rest => some (bool l true, rest)
      | 'f' :: 'a' :: 'l' :: 's' :: 'e' :: rest => some (bool l false, rest)
      | '{' :: rest => (readEntries l fuel [] rest).map fun (es, rest) => (table l es, rest)
      | '[' :: rest => (readItems' l fuel rest).map fun (ss, rest) => (sequence l ss, rest)
      | '"' :: rest => (readQuoted ('"' :: rest)).map fun (s, rest) => (text l s, rest)
      | '\'' :: c :: '\'' :: rest => some (text l (String.ofList [c]), rest)
      | '\'' :: _ => none
      | cs =>
        let word := cs.takeWhile fun c => !separates c
        some (ofWord l (Text.trim (String.ofList word)), cs.drop word.length)
    read.map fun (s, rest) => (s, skipSpace rest)

/-- Reads items up to a closing bracket; a comma may stand in front of it. -/
def readItems' (l : Layer) : Nat → List Char → Option (List Setting × List Char)
  | 0, _ => none
  | fuel + 1, cs =>
    match cs with
    | ']' :: rest => some ([], rest)
    | _ =>
      match readValue l fuel cs with
      | none => none
      | some (s, ',' :: rest) => (readItems' l fuel rest).map fun (ss, rest) => (s :: ss, rest)
      | some (s, ']' :: rest) => some ([s], rest)
      | some _ => none

/-- Reads entries up to a closing brace; a comma may stand in front of it. -/
def readEntries (l : Layer) : Nat → List (String × Setting) → List Char →
    Option (List (String × Setting) × List Char)
  | 0, _, _ => none
  | fuel + 1, before, cs =>
    match cs with
    | '}' :: rest => some (before, rest)
    | _ =>
      match (readKey (skipSpace cs)).map fun (key, rest) => (key, skipSpace rest) with
      | some (key, '=' :: rest) =>
        match readValue l fuel (skipSpace rest) with
        | none => none
        | some (s, ',' :: rest) => readEntries l fuel (put key s before) rest
        | some (s, '}' :: rest) => some (put key s before, rest)
        | some _ => none
      | _ => none

end

/-- Reads the value of a variable; a value of no other form is a text. -/
def parse (l : Layer) (value : String) : Setting :=
  match readValue l (value.length + 2) value.toList with
  | some (s, []) => s
  | _ => text l value

/-! ### Names -/

/-- The parts of a text between two underscores each. -/
def splitKeys : List Char → List (List Char)
  | [] => [[]]
  | '_' :: '_' :: rest => [] :: splitKeys rest
  | c :: rest =>
    match splitKeys rest with
    | [] => [[c]]
    | part :: parts => (c :: part) :: parts

/-- The way to what a variable sets, if its name starts as asked for and no key in it is empty. -/
def path? (start name : String) : Option (List String) :=
  let n := start.length
  let cs := (Text.trim name).toList
  if Text.eqIgnoreAsciiCase (String.ofList (cs.take n)) start then
    let keys := (splitKeys (cs.drop n)).flatMap fun part =>
      ((Text.lowerAscii (String.ofList part)).toList.splitOn '.').map String.ofList
    if keys.any String.isEmpty then none else some keys
  else none

/-- The table that one variable after the other sets. -/
def ofVariables (start : String) (environment : List (String × String)) : Setting :=
  let l := Layer.environment start
  environment.foldl
    (fun acc (name, value) =>
      match path? start name with
      | some keys => acc.overlay (nest l (parse l value) keys)
      | none => acc)
    (table l [])

end HandlerChain.Setting
