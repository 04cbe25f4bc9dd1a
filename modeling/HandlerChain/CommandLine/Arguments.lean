import HandlerChain.Settings.Config
import HandlerChain.Value.IntKind

/-!
# Arguments of the program

Options come first, then at most one command. An option with a value takes the rest of its own argument
or the next one. A value is looked at when the next option or the end is reached, so that a request for
help that comes before is answered.

## Main Definitions

* `CommandLine.Arguments` is what the arguments say.
* `CommandLine.Request` is what they amount to: a run, a text to be shown, or nothing that is understood.
* `CommandLine.Request.ofList` reads arguments.
-/

namespace HandlerChain.CommandLine

/-- What the program is asked to do. -/
inductive Command where
  | run
  | check
  | routes
  deriving DecidableEq, Repr

/-- What arguments say. -/
structure Arguments where
  config : Option String := none
  port : Option Nat := none
  printConfig : Bool := false
  verbose : Nat := 0
  command : Option Command := none
  deriving DecidableEq, Repr

/-- A text about the program or one of its commands. -/
inductive Topic where
  | program
  | command (c : Command)
  | help
  deriving DecidableEq, Repr

/-- What arguments amount to. -/
inductive Request where
  | go (a : Arguments)
  | help (t : Topic)
  | version
  | misuse
  deriving DecidableEq, Repr

/-- An option with a value. -/
inductive Setter where
  | config
  | port
  deriving DecidableEq, Repr

/-- The arguments so far, and an option whose value has not been looked at. -/
structure Parser where
  arguments : Arguments := {}
  pending : Option (Setter × Option String) := none

namespace Command

/-- The command with a name. -/
def ofName? (s : String) : Option Command :=
  if s = "run" then some run
  else if s = "check" then some check
  else if s = "routes" then some routes
  else none

/-- The name of a command. -/
def name : Command → String
  | run => "run"
  | check => "check"
  | routes => "routes"

/-- What a command does. -/
def about : Command → String
  | run => "Compile every discovered action and serve it"
  | check => "Compile every discovered action and report failures"
  | routes => "Print compiled endpoints with their parameter slots"

end Command

namespace Arguments

/-- The overrides in arguments. -/
def overrides (a : Arguments) : Overrides := ⟨a.port, a.verbose⟩

/-- Sets an option that has not been set before. -/
def set (a : Arguments) (s : Setter) (value : String) : Option Arguments :=
  match s with
  | .config => if a.config.isSome || value.isEmpty then none else some { a with config := some value }
  | .port =>
    match a.port, IntKind.parseInt .i64 value with
    | none, .ok n => if 0 ≤ n ∧ n < 65536 then some { a with port := some n.toNat } else none
    | _, _ => none

end Arguments

namespace Parser

/-- Looks at the value of the option that is pending. -/
def resolve (p : Parser) : Option Parser :=
  match p.pending with
  | none => some p
  | some (s, some value) => (p.arguments.set s value).map fun a => ⟨a, none⟩
  | some (_, none) => none

/-- Sets an option whose value stands in its own argument. -/
def set (p : Parser) (s : Setter) (value : String) : Option Parser :=
  p.resolve.bind fun p => (p.arguments.set s value).map fun a => { p with arguments := a }

/-- Starts an option whose value is the next argument. -/
def start (p : Parser) (s : Setter) : Option Parser :=
  p.resolve.map fun p => { p with pending := some (s, none) }

/-- Asks for the configuration to be shown, which can be asked for once. -/
def setPrint (p : Parser) : Option Parser :=
  p.resolve.bind fun p =>
    if p.arguments.printConfig then none
    else some { p with arguments := { p.arguments with printConfig := true } }

/-- Asks for more detail. -/
def addVerbose (p : Parser) : Option Parser :=
  p.resolve.map fun p =>
    { p with arguments := { p.arguments with verbose := min 255 (p.arguments.verbose + 1) } }

/-- Answers with a text once the pending option is in order. -/
def answer (p : Parser) (r : Request) : Request := if p.resolve.isSome then r else .misuse

/-- Whether the value of an option is awaited. -/
def awaits (p : Parser) : Bool := p.pending.any fun x => x.2.isNone

/-- Takes an argument as the awaited value. -/
def take (p : Parser) (value : String) : Parser :=
  { p with pending := p.pending.map fun x => (x.1, some value) }

/-- Goes on where a step was understood. -/
def proceed (step : Option Parser) (next : Parser → Request) : Request := step.elim .misuse next

/-- Reads the letters of an argument behind one dash. -/
def letters (next : Parser → Request) : List Char → Parser → Request
  | [], p => next p
  | c :: rest, p =>
    let valued (s : Setter) : Request :=
      match rest with
      | [] => proceed (p.start s) next
      | '=' :: value => proceed (p.set s (String.ofList value)) next
      | value => proceed (p.set s (String.ofList value)) next
    if c = 'c' then valued .config
    else if c = 'p' then valued .port
    else if c = 'v' then proceed p.addVerbose (letters next rest)
    else if c = 'h' then p.answer (.help .program)
    else if c = 'V' then p.answer .version
    else .misuse

/-- Reads an argument behind two dashes. -/
def word (next : Parser → Request) (s : List Char) (p : Parser) : Request :=
  let name := String.ofList (s.takeWhile (· != '='))
  let value : Option String := match s.dropWhile (· != '=') with
    | '=' :: rest => some (String.ofList rest)
    | _ => none
  let valued (x : Setter) : Request := match value with
    | none => proceed (p.start x) next
    | some v => proceed (p.set x v) next
  let flag (r : Request) : Request := if value.isSome then .misuse else r
  if name = "config" then valued .config
  else if name = "port" then valued .port
  else if name = "print-config" then flag (proceed p.setPrint next)
  else if name = "verbose" then flag (proceed p.addVerbose next)
  else if name = "help" then flag (p.answer (.help .program))
  else if name = "version" then flag (p.answer .version)
  else .misuse

/-- What stands behind a command: nothing, or a request for help about it. -/
def behindCommand (c : Command) : List String → Option Request
  | [] => none
  | ["--"] => none
  | "--help" :: _ => some (.help (.command c))
  | a :: _ => if a.startsWith "-h" then some (.help (.command c)) else some .misuse

/-- What stands behind the word for help. -/
def behindHelp : List String → Request
  | [] => .help .program
  | ["help"] => .help .help
  | [name] => match Command.ofName? name with
    | some c => .help (.command c)
    | none => .misuse
  | _ => .misuse

/-- Reads arguments. -/
def parse : List String → Parser → Request
  | [], p => proceed p.resolve fun p => .go p.arguments
  | a :: rest, p =>
    let name := if p.awaits then none else Command.ofName? a
    match name with
    | some c =>
      match behindCommand c rest with
      | some r => r
      | none => proceed p.resolve fun p => .go { p.arguments with command := some c }
    | none =>
      if !p.awaits && a == "help" then behindHelp rest
      else
        match a.toList with
        | ['-', '-'] => if rest.isEmpty then parse rest p else .misuse
        | '-' :: '-' :: s => word (parse rest) s p
        | '-' :: c :: s => letters (parse rest) (c :: s) p
        | _ => if p.awaits then parse rest (p.take a) else .misuse

end Parser

/-- Reads the arguments of the program. -/
def Request.ofList (args : List String) : Request := Parser.parse args {}

end HandlerChain.CommandLine
