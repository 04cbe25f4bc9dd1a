import HandlerChain.Text.Utf8
import HandlerChain.Yaml.Token

/-!
# Names, tags and directives

The parts of a YAML text that are not content: names of anchors, tags, and the directives in front of a
document. A tag is a handle with a text; `!<text>` has no handle.

## Main Definitions

* `Yaml.Scan.name` reads an anchor or an alias.
* `Yaml.Scan.tag` reads a tag.
* `Yaml.Scan.directive` reads a directive with its line.
-/

namespace HandlerChain.Yaml.Scan

/-- Fails at a cursor. -/
def fail {α : Type} (activity : Activity) (since : Mark) (problem : Problem) (c : Cursor) :
    Except Fault α :=
  .error ⟨problem, c.mark, some (activity, since)⟩

/-- Reads a name behind its indicator. -/
def name (activity : Activity) : Scan String := fun c =>
  let (taken, behind) := c.skip.run isNameChar
  if taken.isEmpty || !(endsWord behind.next || "?:,]\x7d%@`".toList.contains behind.next) then
    fail activity c.mark .noName behind
  else .ok (String.ofList taken, behind)

/-! ### Texts of tags -/

/-- Whether a character can stand in the text of a tag; lists are only for tags between angle
brackets and for directives. -/
def isTagChar (lists : Bool) (c : Char) : Bool :=
  isNameChar c || ";/?:@&=+$.%!~*'()".toList.contains c || (lists && ",[]".toList.contains c)

/-- The value of a hexadecimal digit. -/
def hexValue? (c : Char) : Option Nat :=
  if c.isDigit then some (c.toNat - 48)
  else if 'a' ≤ c ∧ c ≤ 'f' then some (c.toNat - 87)
  else if 'A' ≤ c ∧ c ≤ 'F' then some (c.toNat - 55)
  else none

/-- The number of bytes of a character whose first byte is given, and zero if there is none. -/
def width (octet : Nat) : Nat :=
  if octet < 0x80 then 1
  else if octet / 32 = 6 then 2
  else if octet / 16 = 14 then 3
  else if octet / 8 = 30 then 4
  else 0

/-- Reads the escaped bytes of one character; `expected` is how many are still to come, and zero in
front of the first. -/
def octets (activity : Activity) (since : Mark) : Nat → Nat → List UInt8 → Scan (List UInt8)
  | 0, _, acc => fun c => .ok (acc, c)
  | fuel + 1, expected, acc => fun c =>
    match c.next == '%', hexValue? (c.ahead 1), hexValue? (c.ahead 2) with
    | true, some hi, some lo =>
      let octet := 16 * hi + lo
      let here := if expected = 0 then width octet else expected
      if expected = 0 ∧ here = 0 then fail activity since .firstOctet c
      else if expected ≠ 0 ∧ octet / 64 ≠ 2 then fail activity since .laterOctet c
      else
        let acc := acc ++ [octet.toUInt8]
        if here = 1 then .ok (acc, c.advance 3)
        else octets activity since fuel (here - 1) acc (c.advance 3)
    | _, _, _ => fail activity since .noOctet c

/-- Reads characters of the text of a tag. -/
def tagChars (lists : Bool) (activity : Activity) (since : Mark) :
    Nat → List UInt8 → Scan (List UInt8)
  | 0, acc => fun c => .ok (acc, c)
  | fuel + 1, acc => fun c =>
    if isTagChar lists c.next then
      if c.next == '%' then
        match octets activity since 4 0 acc c with
        | .error e => .error e
        | .ok (acc, c) => tagChars lists activity since fuel acc c
      else tagChars lists activity since fuel (acc ++ Text.Utf8.encode c.next.toString) c.skip
    else .ok (acc, c)

/-- Reads the text of a tag behind characters that were taken for a handle. -/
def tagText (lists : Bool) (activity : Activity) (head : String) (since : Mark) : Scan String :=
  fun c =>
    match tagChars lists activity since c.rest.length (Text.Utf8.encode (head.drop 1).toString) c with
    | .error e => .error e
    | .ok (bytes, behind) =>
      if head.isEmpty && behind.mark.offset == c.mark.offset then fail activity since .noTagText behind
      else .ok (Text.Utf8.decodeLossy bytes, behind)

/-- Reads a handle, or what could have become one. -/
def handle (activity : Activity) (since : Mark) : Scan String := fun c =>
  if c.next != '!' then fail activity since .noBang c
  else
    let (taken, behind) := c.skip.run isNameChar
    let text := String.ofList ('!' :: taken)
    if behind.next == '!' then .ok (text ++ "!", behind.skip) else .ok (text, behind)

/-- Whether a text is a handle with a name or the double one. -/
def isHandle (s : String) : Bool :=
  let cs := s.toList
  2 ≤ cs.length && cs.head? == some '!' && cs.getLast? == some '!'

/-- Reads handle and text of a tag. -/
def tagParts : Scan (String × String) := fun c =>
  if c.ahead 1 == '<' then
    match tagText true .tagText "" c.mark (c.advance 2) with
    | .error e => .error e
    | .ok (text, behind) =>
      if behind.next == '>' then .ok (("", text), behind.skip)
      else fail .tag c.mark .noTagEnd behind
  else
    match handle .tag c.mark c with
    | .error e => .error e
    | .ok (read, behind) =>
      if isHandle read then
        (tagText false .tagText "" c.mark behind).map fun (text, behind) => ((read, text), behind)
      else
        (tagText false .tagText read c.mark behind).map fun (text, behind) =>
          (if text.isEmpty then ("", "!") else ("!", text), behind)

/-- Reads a tag; a word has to end behind it, or a comma in a flow collection. -/
def tag (flow : Bool) : Scan (String × String) := fun c =>
  match tagParts c with
  | .error e => .error e
  | .ok (parts, behind) =>
    if (flow && behind.next == ',') || endsWord behind.next then .ok (parts, behind)
    else fail .tag c.mark .noBlankOrBreak behind

/-! ### Directives -/

/-- Reads one number of a version. -/
def versionNumber (since : Mark) : Scan Nat := fun c =>
  let (digits, behind) := c.run Char.isDigit
  if 9 < digits.length then fail .versionDirective since .longVersion (c.advance 9)
  else if digits.isEmpty then fail .versionDirective since .noVersionDigits behind
  else .ok (digits.foldl (fun acc d => acc * 10 + (d.toNat - 48)) 0, behind)

/-- Reads a version. -/
def version (since : Mark) : Scan TokenKind := fun c =>
  match versionNumber since c.skipBlanks with
  | .error e => .error e
  | .ok (major, c) =>
    if c.next != '.' then fail .versionDirective since .noVersionDot c
    else (versionNumber since c.skip).map fun (minor, c) => (.version major minor, c)

/-- Reads what a handle stands for. -/
def tagMeaning (since : Mark) : Scan TokenKind := fun c =>
  match handle .handleDirective since c.skipBlanks with
  | .error e => .error e
  | .ok (read, c) =>
    if !(read == "!" || isHandle read) then fail .handleDirectiveText since .noBang c
    else if !isBlank c.next then fail .tagDirective since .noBlank c
    else
      match tagText true .tagDirectiveText "" since c.skipBlanks with
      | .error e => .error e
      | .ok (meaning, c) =>
        if !endsWord c.next then fail .tagDirective since .noBlankOrBreak c
        else .ok (.tagDirective read meaning, c)

/-- Reads a directive up to the end of its line. -/
def directive : Scan Token := fun c =>
  let since := c.mark
  let (word, behind) := c.skip.run isNameChar
  if word.isEmpty then fail .directive since .noDirectiveName behind
  else if !endsWord behind.next then fail .directive since .directiveName behind
  else
    let read :=
      if word == "YAML".toList then version since behind
      else if word == "TAG".toList then tagMeaning since behind
      else fail .directive since .unknownDirective behind
    match read with
    | .error e => .error e
    | .ok (kind, c) =>
      let token : Token := ⟨kind, since, c.mark⟩
      let c := c.skipBlanks.skipComment
      if endsLine c.next then .ok (token, c.skipBreak)
      else fail .directive since .directiveEnd c

end HandlerChain.Yaml.Scan
