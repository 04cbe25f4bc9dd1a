import HandlerChain.Text.CharClass

/-!
# Quoted text

The form in which diagnostics show a text or a character: between double quotes, with escapes for
quotes, backslashes and everything that would not be seen.

## Main Definitions

* `Text.escape` is the form of one character.
* `Text.quoted` is the form of a text.
-/

namespace HandlerChain.Text

/-- The lower case hexadecimal digits of a number, without leading zeros. -/
def hexDigits (n : Nat) : List Char := Nat.toDigits 16 n

/-- A code point written as an escape: a backslash, the letter u and the hexadecimal digits in braces. -/
def escapeCode (c : Char) : List Char :=
  ['\\', 'u', '{'] ++ hexDigits c.toNat ++ ['}']

/-- The form of one character inside double quotes. -/
def escape (c : Char) : List Char :=
  if c = Char.ofNat 0 then ['\\', '0']
  else if c = '\t' then ['\\', 't']
  else if c = '\r' then ['\\', 'r']
  else if c = '\n' then ['\\', 'n']
  else if c = '"' then ['\\', '"']
  else if c = '\\' then ['\\', '\\']
  else if c.toNat < 0x7F then (if c.toNat < 0x20 then escapeCode c else [c])
  else if CharClass.extending.contains c || CharClass.unprintable.contains c then escapeCode c
  else [c]

/-- A text between double quotes, every character in its escaped form. -/
def quoted (s : String) : String :=
  String.ofList ('"' :: (s.toList.flatMap escape ++ ['"']))

end HandlerChain.Text
