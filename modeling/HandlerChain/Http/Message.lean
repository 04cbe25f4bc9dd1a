import HandlerChain.Http.Percent
import HandlerChain.Text.LowerCase

/-!
# Parts of an HTTP request

## Main Definitions

* `Http.Authority` is what has been seen of an authority; `Http.Authority.split` takes one off.
* `Http.Uri` is a request target with its path and query; `Http.Uri.parse` reads one.
* `Http.Headers` are header fields in the order in which they were added.
* `Http.RequestError` says why parts do not make a request.
* `Http.RequestContext` is what a handler may see of a request.
-/

namespace HandlerChain.Http

/-- A request target: the text without its fragment, the path, and the query behind the first
question mark. -/
structure Uri where
  text : String
  path : String
  query : Option String
  deriving DecidableEq, Repr, Inhabited

/-- Why a text is no request target. -/
inductive UriError where
  | invalidChar
  | invalidAuthority
  | invalidFormat
  | schemeTooLong
  | tooLong
  | empty
  deriving DecidableEq, Repr

/-- The wording of an error. -/
def UriError.message : UriError → String
  | invalidChar => "invalid uri character"
  | invalidAuthority => "invalid authority"
  | invalidFormat => "invalid format"
  | schemeTooLong => "scheme too long"
  | tooLong => "uri too long"
  | empty => "empty string"

/-- What has been seen of an authority: colons that may begin a port, brackets, and a percent sign that
may be part of a host. -/
structure Authority where
  colons : Nat := 0
  opened : Bool := false
  closed : Bool := false
  percent : Bool := false
  endsWithAt : Bool := false
  deriving DecidableEq, Repr

namespace Authority

/-- Whether a character without a meaning of its own may stand in an authority. -/
def isPlain (c : Char) : Bool := c.isAlphanum || "!$&'()*+,-.;=_~".toList.contains c

/-- Takes a character. What stands in front of an at sign, or in brackets, is no port. -/
def step (a : Authority) (c : Char) : Except UriError Authority :=
  let a := { a with endsWithAt := c = '@' }
  if c = ':' then
    if 8 ≤ a.colons then .error .invalidAuthority else .ok { a with colons := a.colons + 1 }
  else if c = '[' then
    if a.percent || a.opened then .error .invalidAuthority else .ok { a with opened := true }
  else if c = ']' then
    if !a.opened || a.closed then .error .invalidAuthority
    else .ok { a with closed := true, colons := 0, percent := false }
  else if c = '@' then .ok { a with colons := 0, percent := false }
  else if c = '%' then .ok { a with percent := true }
  else if isPlain c then .ok a
  else .error .invalidChar

/-- Whether all that has been seen makes an authority. -/
def complete (a : Authority) : Bool :=
  a.opened == a.closed && a.colons ≤ 1 && !a.endsWithAt && !a.percent

/-- Divides the characters in front of the first slash, question mark or number sign from the others, if
they make an authority. -/
def split (cs : List Char) : Except UriError (List Char × List Char) := do
  let inside (c : Char) : Bool := c ≠ '/' && c ≠ '?' && c ≠ '#'
  let a ← (cs.takeWhile inside).foldlM step {}
  if a.complete then pure (cs.takeWhile inside, cs.dropWhile inside) else .error .invalidAuthority

end Authority

namespace Uri

/-- The greatest number of bytes of a target. -/
def maxSize : Nat := 65534

/-- The greatest length of a scheme. -/
def maxScheme : Nat := 64

/-- Whether a character may stand in a path. -/
def isPathChar (c : Char) : Bool :=
  let n := c.toNat
  n == 0x21 || n == 0x22 || (0x24 ≤ n && n ≤ 0x3B) || n == 0x3D || (0x40 ≤ n && n ≤ 0x5F)
    || (0x61 ≤ n && n ≤ 0x7E) || 0x7F ≤ n

/-- Whether a character may stand in a query. -/
def isQueryChar (c : Char) : Bool :=
  let n := c.toNat
  n == 0x21 || (0x24 ≤ n && n ≤ 0x3B) || n == 0x3D || 0x3F ≤ n

/-- A target that is a path with an optional query, behind a scheme and an authority that may be empty.
Where there is a scheme, an empty path is the root. -/
def ofPath (front : String) (cs : List Char) : Except UriError Uri :=
  let whole := cs.takeWhile (· ≠ '#')
  let path := whole.takeWhile (· ≠ '?')
  let shown := if path.isEmpty then "/" else String.ofList path
  if !path.all isPathChar then .error .invalidChar
  else match whole.dropWhile (· ≠ '?') with
    | [] => .ok ⟨front ++ shown, shown, none⟩
    | _ :: query =>
      if !query.all isQueryChar then .error .invalidChar
      else
        let query := String.ofList query
        .ok ⟨front ++ shown ++ "?" ++ query, shown, some query⟩

/-- Whether a character may stand in a scheme. -/
def isSchemeChar (c : Char) : Bool := c.isAlphanum || c = '+' || c = '-' || c = '.'

/-- Divides a scheme from what follows its two slashes. -/
def splitScheme (cs : List Char) : Option (List Char × List Char) :=
  match cs.dropWhile isSchemeChar with
  | ':' :: '/' :: '/' :: rest => if cs.length ≤ 3 then none else some (cs.takeWhile isSchemeChar, rest)
  | _ => none

/-- A scheme as it is shown; the two common ones are shown in lower case. -/
def showScheme (scheme : String) : String :=
  let lower := Text.lowerAscii scheme
  if lower = "http" ∨ lower = "https" then lower else scheme

/-- A target without a leading slash: one with a scheme, or an authority on its own. -/
def ofAuthority (cs : List Char) : Except UriError Uri := do
  match splitScheme cs with
  | some (scheme, rest) =>
    if maxScheme < scheme.length then .error .schemeTooLong
    else
      let (authority, rest) ← Authority.split rest
      if authority.isEmpty then .error .invalidFormat
      else ofPath (showScheme (String.ofList scheme) ++ "://" ++ String.ofList authority) rest
  | none =>
    let (_, rest) ← Authority.split cs
    if rest.isEmpty then pure ⟨String.ofList cs, "", none⟩
    else .error (if cs.length = 1 then .invalidChar else .invalidFormat)

/-- Reads a request target. -/
def parse (s : String) : Except UriError Uri :=
  if maxSize < s.utf8ByteSize then .error .tooLong
  else match s.toList with
    | [] => .error .empty
    | ['*'] => .ok ⟨"*", "*", none⟩
    | '/' :: rest => ofPath "" ('/' :: rest)
    | cs => ofAuthority cs

/-- The pairs of the query. -/
def queryPairs (u : Uri) : List (String × String) :=
  match u.query with
  | none => []
  | some q => Form.parse (Text.Utf8.encode q)

end Uri

/-- Whether a character may stand in a token, as names of methods and headers are. -/
def isTokenChar (c : Char) : Bool :=
  c.isAlphanum || "!#$%&'*+-.^_`|~".toList.contains c

/-- Whether a text is a token. -/
def isToken (s : String) : Bool := !s.isEmpty && s.toList.all isTokenChar

/-- The greatest length of the name of a header. -/
def maxHeaderName : Nat := 65535

/-- Whether a byte may stand in the value of a header. -/
def isHeaderByte (b : UInt8) : Bool := (32 ≤ b && b ≠ 127) || b = 9

/-- Whether a byte is visible ASCII, a space or a tab. -/
def isVisible (b : UInt8) : Bool := (32 ≤ b && b < 127) || b = 9

/-- Header fields in order: names in lower case, values as bytes. -/
structure Headers where
  fields : List (String × List UInt8)
  deriving DecidableEq, Repr, Inhabited

namespace Headers

/-- The first value of a header, its name taken up to case. -/
def get? (h : Headers) (name : String) : Option (List UInt8) :=
  h.fields.lookup (Text.lowerAscii name)

/-- The number of values. -/
def size (h : Headers) : Nat := h.fields.length

/-- A value as a text, if all of it is visible ASCII. -/
def text? (value : List UInt8) : Option String :=
  if value.all isVisible then some (Text.Utf8.decodeLossy value) else none

end Headers

/-- Why there is no request of some parts. -/
inductive RequestError where
  | method
  | uri (cause : UriError)
  | headerName
  | headerValue
  deriving DecidableEq, Repr

/-- The wording of an error. -/
def RequestError.message : RequestError → String
  | method => "invalid HTTP method"
  | uri cause => cause.message
  | headerName => "invalid HTTP header name"
  | headerValue => "failed to parse header value"

namespace Headers

/-- Header fields from names and values, up to the first that is none. -/
def ofList : List (String × List UInt8) → Except RequestError Headers
  | [] => .ok ⟨[]⟩
  | (name, value) :: rest =>
    if !isToken name || maxHeaderName < name.length then .error .headerName
    else if !value.all isHeaderByte then .error .headerValue
    else (ofList rest).map fun h => ⟨(Text.lowerAscii name, value) :: h.fields⟩

end Headers

/-- What a handler may see of a request. -/
structure RequestContext where
  method : String
  uri : Uri
  headers : Headers
  routeValues : List (String × String)
  deriving DecidableEq, Repr, Inhabited

end HandlerChain.Http
