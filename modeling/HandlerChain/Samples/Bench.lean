import HandlerChain.Handler.Logic

/-!
# The bench of the sample handlers

The state that the sample handlers share, and the types that they declare. The names of these types
begin with the name of the space that declares them.

## Main Definitions

* `Samples.Bench` is the state: a trace of what ran, greetings, and counters.
* `Samples.Space` names the declared types.
-/

namespace HandlerChain.Samples

/-- The state that the sample handlers share. Services refer to greetings and counters by number. -/
structure Bench where
  trace : List String
  greetings : List String
  counters : List (IntKind.Number .i64)
  deriving Inhabited

namespace Bench

/-- A bench on which nothing ran. -/
def empty : Bench := ⟨[], [], []⟩

/-- Adds a line to the trace. -/
def note (b : Bench) (line : String) : Bench := { b with trace := b.trace ++ [line] }

/-- Adds a greeting, with its number. -/
def addGreeting (b : Bench) (s : String) : Nat × Bench :=
  (b.greetings.length, { b with greetings := b.greetings ++ [s] })

/-- Adds a counter, with its number. -/
def addCounter (b : Bench) (n : IntKind.Number .i64) : Nat × Bench :=
  (b.counters.length, { b with counters := b.counters ++ [n] })

/-- The greeting of a number. -/
def greeting (b : Bench) (ref : Nat) : String := b.greetings[ref]?.getD ""

/-- The counter of a number. -/
def counter (b : Bench) (ref : Nat) : IntKind.Number .i64 := b.counters[ref]?.getD default

/-- Adds to a counter and gives its new value. -/
def bump (b : Bench) (ref : Nat) (amount : IntKind.Number .i64) : IntKind.Number .i64 × Bench :=
  let n := IntKind.wrap .i64 ((b.counter ref).val + amount.val)
  (n, { b with counters := b.counters.set ref n })

end Bench

/-- The name of the space that declares the types of the samples. -/
structure Space where
  name : String

namespace Space

/-- The full name of a declared type. -/
def full (s : Space) (short : String) : String := s.name ++ "::" ++ short

/-- One of three colors; any text counts as one in data. -/
def color (s : Space) : Ty := .choice (s.full "Color") "color" ["red", "green", "blue"]

/-- A user who has yet to be created. -/
def newUser (s : Space) : Ty :=
  .record (s.full "NewUser") (.cons "name" .text (.cons "age" (.int .u32) .nil))

/-- A request to log in. -/
def login (s : Space) : Ty := .record (s.full "Login") (.cons "user" .text .nil)

/-- A created thing. -/
def created (s : Space) : Ty :=
  .record (s.full "Created") (.cons "id" (.int .u64) (.cons "name" .text .nil))

/-- A type whose values refuse to be encoded. -/
def noSer (s : Space) : Ty := .refusing (s.full "NoSer") "refused"

/-- The name of the service that greets. -/
def greeterName (s : Space) : String := s.full "Greeter"

/-- The name of the service that counts. -/
def counterName (s : Space) : String := s.full "Counter"

/-- The service that greets. -/
def greeter (s : Space) : Ty := .service s.greeterName

/-- The service that counts. -/
def counter (s : Space) : Ty := .service s.counterName

/-- Pairs of texts. -/
def pairs : Ty := .list (.pair .text .text)

/-- Texts by text. -/
def textMap : Ty := .map .text .text

/-- Truth values by integer. -/
def intMap : Ty := .map (.int .i32) .bool

/-- Truth values by pair of integers, which have no text as keys. -/
def pairMap : Ty := .map (.pair (.int .i32) (.int .i32)) .bool

/-- The one value of `pairMap` that samples use. -/
def pairMapValue : pairMap.Denote := [((IntKind.wrap .i32 1, IntKind.wrap .i32 2), true)]

end Space

end HandlerChain.Samples
