import HandlerChain.CommandLine.Address
import HandlerChain.CommandLine.Arguments
import HandlerChain.Notes.Actions
import HandlerChain.Settings.Load
import HandlerChain.Site.Router

/-!
# The program

What the program writes for its arguments and its configuration, up to the point where it would listen.

## Main Definitions

* `CommandLine.Outcome` is what the program writes and how it ends.
* `CommandLine.execute` carries out arguments with the configuration that was loaded for them.
-/

namespace HandlerChain.CommandLine

/-- The lines that the program writes, those of its error report, and the code with which it ends; with
an address it goes on to listen there. -/
structure Outcome where
  output : List String := []
  report : List String := []
  code : Nat := 0
  listens : Option String := none
  deriving Repr

namespace Outcome

/-- Ends with an error and what it was caused by. -/
def failed (output : List String) (message : String) (causes : List String) : Outcome :=
  let causes := match causes with
    | [] => []
    | [cause] => ["", "Caused by:"] ++ (cause.splitOn "\n").map ("    " ++ ·)
    | causes => "" :: "Caused by:" ::
      causes.zipIdx.map fun (cause, n) => "    " ++ toString n ++ ": " ++ cause
  { output, report := ("Error: " ++ message) :: causes, code := 1 }

/-- Ends because the arguments were not understood. -/
def misuse : Outcome := { code := 2 }

end Outcome

/-! ### Texts about the program -/

/-- The name of the program. -/
def programName : String := "actionkit-server"

/-- The version of the program. -/
def programVersion : String := "0.1.0"

/-- The list of commands. -/
def commandLines : List String :=
  let pad (s : String) : String := s ++ String.ofList (List.replicate (6 - s.length) ' ')
  "Commands:" ::
    [Command.run, .check, .routes].map (fun c => "  " ++ pad c.name ++ "  " ++ c.about) ++
    ["  " ++ pad "help" ++ "  Print this message or the help of the given subcommand(s)"]

/-- A text about the program or a command. -/
def helpLines : Topic → List String
  | .program =>
    ["ActionKit Server - fluent action endpoints served over HTTP", "",
      "Usage: " ++ programName ++ " [OPTIONS] [COMMAND]", ""] ++ commandLines ++
    ["", "Options:",
      "  -c, --config <CONFIG>  Path to configuration file",
      "  -p, --port <PORT>      Port override for HTTP server (overrides config)",
      "      --print-config     Print effective configuration (YAML) and exit",
      "  -v, --verbose...       Log verbosity level (-v debug, -vv trace)",
      "  -h, --help             Print help",
      "  -V, --version          Print version"]
  | .command c =>
    [c.about, "", "Usage: " ++ programName ++ " " ++ c.name, "", "Options:", "  -h, --help  Print help"]
  | .help =>
    ["Print this message or the help of the given subcommand(s)", "",
      "Usage: " ++ programName ++ " help [COMMAND]", ""] ++ commandLines

/-! ### Commands -/

/-- A text with spaces behind it up to a width. -/
def padded (width : Nat) (s : String) : String :=
  s ++ String.ofList (List.replicate (width - s.length) ' ')

/-- The line about a parameter. -/
def parameterLine {σ : Type} (p : Parameter σ) : String :=
  "    #" ++ padded 2 (toString p.position) ++ " " ++ padded 16 p.name ++ " " ++ p.marker.debug ++ " : " ++
    p.type.name ++ (if p.optional then " = default" else "")

/-- The lines about an endpoint. -/
def endpointLines {σ : Type} (e : Endpoint σ) : List String :=
  (padded 32 e.name ++ " " ++ e.unit.typeName ++ " (" ++ e.unit.strategy.name ++ ", " ++
    e.unit.returns.name ++ ")") :: e.unit.parameters.map parameterLine

/-- The line about an action that does not compile. -/
def failureLine (e : CompileError) : String := "FAIL " ++ e.endpoint ++ ": " ++ e.message

/-- Compiles all actions and counts. -/
def check (config : CompilerConfig) : Outcome :=
  let (report, _) := Notes.compileActions config
  let lines := report.failures.map failureLine ++
    [toString report.compiled.length ++ " compiled, " ++ toString report.failures.length ++ " failed"]
  if report.isSuccess then { output := lines } else .failed lines "action compilation failed" []

/-- Compiles all actions and lists their endpoints. -/
def routes (config : CompilerConfig) : Outcome :=
  let (report, _) := Notes.compileActions config
  { output := report.compiled.flatMap endpointLines }

/-- Compiles all actions and serves them at an address. -/
def run (server : ServerConfig) (config : ActionsConfig) : Outcome :=
  let (report, _) := Notes.compileActions config.compiler
  if !report.isSuccess then
    .failed [] (toString report.failures.length ++ " action(s) failed to compile; run `" ++ programName ++
      " check` for details") []
  else
    match (Notes.site config.site).addAll report.compiled with
    | (_, some e) => .failed [] e.message []
    | (site, none) =>
      match site.router? with
      | .error _ => { code := 101 }
      | .ok _ =>
        let address := server.host ++ ":" ++ toString server.port
        if !Address.isValid address then
          .failed [] ("Invalid bind address '" ++ address ++ "': invalid socket address syntax") []
        else if Address.isForeign address then
          .failed [] "Cannot assign requested address (os error 99)" []
        else { listens := some address }

/-- The name of the module with the settings of actions. -/
def actionsModule : String := "actions"

/-- Carries out arguments with a configuration that already has the overrides. -/
def carryOut (a : Arguments) (config : AppConfig) : Outcome :=
  if a.printConfig then { output := (config.toYaml.splitOn "\n") }
  else
    match config.moduleConfig actionsModule ActionsConfig.ofJson {} with
    | .error m =>
      .failed [] ("Invalid configuration for module '" ++ actionsModule ++ "'") [m.message .json]
    | .ok actions =>
      match a.command.getD .run with
      | .run => run config.server actions
      | .check => check actions.compiler
      | .routes => routes actions.compiler

/-- Carries out arguments. `load` loads the configuration at a path. -/
def execute (args : List String) (load : String → Except LoadError AppConfig) : Outcome :=
  match Request.ofList args with
  | .misuse => .misuse
  | .help t => { output := helpLines t }
  | .version => { output := [programName ++ " " ++ programVersion] }
  | .go a =>
    match (match a.config with
      | none => .ok AppConfig.usual
      | some path => load path : Except LoadError AppConfig) with
    | .error e => .failed [] e.message e.causes
    | .ok config => carryOut a (config.override a.overrides)

end HandlerChain.CommandLine
