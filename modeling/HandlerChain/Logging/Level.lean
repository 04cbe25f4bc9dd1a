import HandlerChain.Text.CharClass
import HandlerChain.Text.LowerCase

/-!
# Levels of logging

## Main Definitions

* `Logging.Severity` is how grave a record is.
* `Logging.Level` is a limit: it admits the records that are grave enough.
* `Logging.Level.ofName` reads a limit from settings.
-/

namespace HandlerChain.Logging

/-- How grave a record is. -/
inductive Severity where
  | error
  | warn
  | info
  | debug
  | trace
  deriving DecidableEq, Repr

/-- A limit on records; the level `off` admits none. -/
inductive Level where
  | off
  | upTo (s : Severity)
  deriving DecidableEq, Repr

namespace Severity

/-- All severities, the gravest first. -/
def all : List Severity := [error, warn, info, debug, trace]

/-- The distance from the gravest. -/
def rank : Severity → Nat
  | error => 1
  | warn => 2
  | info => 3
  | debug => 4
  | trace => 5

/-- The name in lower case. -/
def name : Severity → String
  | error => "error"
  | warn => "warn"
  | info => "info"
  | debug => "debug"
  | trace => "trace"

/-- The severity with a name, in any case of letters. -/
def ofName? (s : String) : Option Severity := all.find? fun x => x.name == Text.lowerAscii s

end Severity

namespace Level

/-- Whether a limit admits a record. -/
def admits : Level → Severity → Bool
  | off, _ => false
  | upTo limit, s => s.rank ≤ limit.rank

/-- The name in lower case. -/
def name : Level → String
  | off => "off"
  | upTo s => s.name

/-- The limit where nothing else is said. -/
def usual : Level := upTo .info

/-- The limit with a name, in any case of letters and with blanks around it; the usual one for a name that
is not known. -/
def ofName (s : String) : Level :=
  let word := Text.lowerAscii (Text.trim s)
  if word = "off" ∨ word = "none" then off
  else
    match Severity.ofName? word with
    | some s => upTo s
    | none => usual

/-- The limit with a name or with the number of its rank, if there is one. -/
def ofWord? (s : String) : Option Level :=
  let word := Text.lowerAscii s
  if word = "off" ∨ word = "0" then some off
  else (Severity.all.find? fun x => x.name == word || toString x.rank == word).map upTo

end Level

end HandlerChain.Logging
