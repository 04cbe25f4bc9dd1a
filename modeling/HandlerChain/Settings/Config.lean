import HandlerChain.Logging.Section
import HandlerChain.Settings.Actions
import HandlerChain.Yaml.Printer

/-!
# Configuration of an application

## Main Definitions

* `AppConfig` is a configuration, `AppConfig.usual` the one where nothing is said.
* `AppConfig.ofSetting` reads a configuration from layered settings.
* `AppConfig.toJson` and `AppConfig.toYaml` write one.
* `AppConfig.moduleConfig` is the part of a configuration for one module.
* `Overrides` is what the command line says, and `AppConfig.override` a configuration with it.
-/

namespace HandlerChain

/-- The settings of the server. -/
structure ServerConfig where
  host : String := "127.0.0.1"
  port : Nat := 8080
  logDir : String := ""
  shutdownTimeoutSec : Nat := 0
  deriving DecidableEq, Repr

namespace ServerConfig

/-- The names of the settings, in order; only host and port cannot be left out. -/
def keys : List String := ["host", "port", "log_dir", "shutdown_timeout_sec"]

/-- Sets one setting. -/
def set (key : String) (value : Setting) (c : ServerConfig) : Except Setting.Error ServerConfig :=
  if key = "host" then value.readText.map fun x => { c with host := x }
  else if key = "port" then (Setting.readNat "u16" 16 value).map fun x => { c with port := x }
  else if key = "log_dir" then value.readText.map fun x => { c with logDir := x }
  else (Setting.readNat "u64" 64 value).map fun x => { c with shutdownTimeoutSec := x }

/-- Reads settings. -/
def ofSetting : Setting.Reads ServerConfig := Setting.readRecord "ServerConfig" keys 2 true set {}

/-- Writes settings. -/
def toJson (c : ServerConfig) : Json :=
  .object
    [("host", .text c.host), ("port", .nat c.port), ("log_dir", .text c.logDir),
      ("shutdown_timeout_sec", .nat c.shutdownTimeoutSec)]

end ServerConfig

/-- A configuration: the server, the sections of logging if there are any, the folder with files for
modules, and what is said for each module. -/
structure AppConfig where
  server : ServerConfig := {}
  logging : Option Logging.Config := none
  modulesDir : Option String := none
  modules : List (String × Json) := []

/-- What the command line says: a port, and how often more detail was asked for. -/
structure Overrides where
  port : Option Nat := none
  verbose : Nat := 0
  deriving DecidableEq, Repr

namespace AppConfig

/-- The configuration where nothing is said. -/
def usual : AppConfig := { logging := some Logging.Config.usual }

/-- The names of the parts, in order. -/
def keys : List String := ["server", "logging", "modules_dir", "modules"]

/-- Sets one part. -/
def set (key : String) (value : Setting) (c : AppConfig) : Except Setting.Error AppConfig :=
  if key = "server" then (ServerConfig.ofSetting value).map fun x => { c with server := x }
  else if key = "logging" then
    (value.readOption Logging.Config.ofSetting).map fun x => { c with logging := x }
  else if key = "modules_dir" then
    (value.readOption Setting.readText).map fun x => { c with modulesDir := x }
  else (Setting.readTable Setting.readJson value).map fun x => { c with modules := x }

/-- Reads a configuration. -/
def ofSetting : Setting.Reads AppConfig := Setting.readRecord "AppConfig" keys 1 true set {}

/-- The lowest layer of settings, which says all that has to be said. -/
def defaults : Setting :=
  let l := Setting.Layer.defaults
  let server : ServerConfig := {}
  .table l
    [("logging", .unit l), ("modules", .table l []), ("modules_dir", .unit l),
      ("server", .table l
        [("host", .text l server.host), ("log_dir", .text l server.logDir),
          ("port", .number l (.unsigned server.port)),
          ("shutdown_timeout_sec", .number l (.unsigned server.shutdownTimeoutSec))])]

/-- Writes a configuration. -/
def toJson (c : AppConfig) : Json :=
  .object
    [("server", c.server.toJson), ("logging", Json.ofOption Logging.Config.toJson c.logging),
      ("modules_dir", Json.ofOption Json.text c.modulesDir), ("modules", .object c.modules)]

/-- Writes a configuration as YAML. -/
def toYaml (c : AppConfig) : String := Yaml.render c.toJson

/-- What is said for a module, read as settings of a type; without it `fallback`. -/
def moduleConfig {α : Type} (c : AppConfig) (name : String)
    (read : Json → Except Decode.Mismatch α) (fallback : α) : Except Decode.Mismatch α :=
  match c.modules.lookup name with
  | some j => read j
  | none => .ok fallback

/-- The folder of log files; the current one if none is said. -/
def logBaseDir (c : AppConfig) : String :=
  if Text.isBlankText c.server.logDir then "." else c.server.logDir

/-- The limit of the console where more detail was asked for. -/
def verboseLevel : Nat → Option String
  | 0 => none
  | 1 => some "debug"
  | _ => some "trace"

/-- Sections of logging with the console limit of the default section replaced. -/
def withConsole (level : Option String) (c : Logging.Config) : Logging.Config :=
  match level with
  | none => c
  | some level =>
    c.map fun (name, s) =>
      if name = Logging.Config.defaultName then (name, { s with consoleLevel := level }) else (name, s)

/-- A configuration with what the command line says. The usual sections of logging stand in for missing
ones. -/
def override (c : AppConfig) (o : Overrides) : AppConfig :=
  { c with
    server := { c.server with port := o.port.getD c.server.port }
    logging := some (withConsole (verboseLevel o.verbose) (c.logging.getD Logging.Config.usual)) }

end AppConfig

end HandlerChain
