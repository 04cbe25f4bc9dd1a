/-!
# Socket addresses

A numeric address and a port, as in `127.0.0.1:80` or `[::1]:80`.

## Main Definitions

* `Address.isValid` says whether a text is a socket address.
* `Address.isForeign` says whether it surely is none of this machine.
-/

namespace HandlerChain.Address

/-- Reads a number below `bound` with one to `most` digits; a zero in front of others has to be
allowed. -/
def number? (base bound most : Nat) (padded : Bool) (cs : List Char) : Option (Nat × List Char) :=
  let value (c : Char) : Nat :=
    if c.isDigit then c.toNat - 48
    else if 'a' ≤ c ∧ c ≤ 'f' then c.toNat - 87
    else if 'A' ≤ c ∧ c ≤ 'F' then c.toNat - 55
    else base
  let digits := cs.takeWhile fun c => value c < base
  let n := digits.foldl (fun acc c => base * acc + value c) 0
  if digits.isEmpty || most < digits.length || bound ≤ n then none
  else if !padded && digits.head? == some '0' && digits.length ≠ 1 then none
  else some (n, cs.drop digits.length)

/-- Reads one part of four. -/
def octet? (cs : List Char) : Option (Nat × List Char) := number? 10 256 3 false cs

/-- Reads a character. -/
def skip? (c : Char) : List Char → Option (List Char)
  | x :: rest => if x = c then some rest else none
  | [] => none

/-- Reads an address of four parts. -/
def four? (cs : List Char) : Option (List Nat × List Char) := do
  let (a, cs) ← octet? cs
  let cs ← skip? '.' cs
  let (b, cs) ← octet? cs
  let cs ← skip? '.' cs
  let (c, cs) ← octet? cs
  let cs ← skip? '.' cs
  let (d, cs) ← octet? cs
  pure ([a, b, c, d], cs)

/-- Reads groups of an address of eight parts, `limit` at most: how many, whether the last two were
written as four decimal parts, and the rest. -/
def groups (limit : Nat) : Nat → Nat → List Char → Nat × Bool × List Char
  | 0, n, cs => (n, false, cs)
  | fuel + 1, n, cs =>
    if limit ≤ n then (n, false, cs)
    else
      let start := if n = 0 then some cs else skip? ':' cs
      match start.bind four?, start.bind (number? 16 65536 4 true) with
      | some (_, rest), group =>
        if n + 1 < limit then (n + 2, true, rest)
        else match group with
          | some (_, rest) => groups limit fuel (n + 1) rest
          | none => (n, false, cs)
      | none, some (_, rest) => groups limit fuel (n + 1) rest
      | none, none => (n, false, cs)

/-- Reads an address of eight parts. -/
def eight? (cs : List Char) : Option (List Char) :=
  match groups 8 8 0 cs with
  | (8, _, rest) => some rest
  | (_, true, _) => none
  | (n, false, rest) => do
    let rest ← skip? ':' rest
    let rest ← skip? ':' rest
    let (_, _, rest) := groups (7 - n) 8 0 rest
    pure rest

/-- Reads a port up to the end. -/
def port? (cs : List Char) : Option Unit := do
  let cs ← skip? ':' cs
  let (_, cs) ← number? 10 65536 cs.length true cs
  if cs.isEmpty then some () else none

/-- Reads an address in brackets with its port. -/
def bracketed? (cs : List Char) : Option Unit := do
  let cs ← skip? '[' cs
  let cs ← eight? cs
  let cs := match skip? '%' cs with
    | some scope => (number? 10 (Nat.pow 2 32) scope.length true scope).elim cs Prod.snd
    | none => cs
  let cs ← skip? ']' cs
  port? cs

/-- Whether a text is a socket address. -/
def isValid (s : String) : Bool :=
  ((four? s.toList).bind fun (_, cs) => port? cs).isSome || (bracketed? s.toList).isSome

/-- Whether a text is a socket address that belongs to no machine but another: an address of four parts
that is neither a loop to the machine nor the one that stands for all of its own. -/
def isForeign (s : String) : Bool :=
  match four? s.toList with
  | some (parts, _) => parts.head? != some 127 && parts != [0, 0, 0, 0]
  | none => false

end HandlerChain.Address
