import HandlerChain.Decode.FromValue
import HandlerChain.Site.Basic

/-!
# Settings of actions

## Main Definitions

* `ActionsConfig` holds the settings of the compiler and of the site.
* `ActionsConfig.ofJson` reads them, `ActionsConfig.toJson` writes them.
-/

namespace HandlerChain

open Decode (Mismatch)

namespace CompilerConfig

/-- The names of the settings, in order. -/
def keys : List String := ["unit_name_prefix", "fail_fast", "log_plans"]

/-- Sets one setting. -/
def set (key : String) (value : Json) (c : CompilerConfig) : Except Mismatch CompilerConfig :=
  if key = "unit_name_prefix" then value.readText.map fun s => { c with unitName := s }
  else if key = "fail_fast" then value.readBool.map fun b => { c with failFast := b }
  else value.readBool.map fun b => { c with logPlans := b }

/-- Reads settings. -/
def ofJson : Json → Except Mismatch CompilerConfig := Json.readRecord "CompilerConfig" keys 0 true set {}

/-- Writes settings. -/
def toJson (c : CompilerConfig) : Json :=
  .object
    [("unit_name_prefix", .text c.unitName), ("fail_fast", .bool c.failFast),
      ("log_plans", .bool c.logPlans)]

end CompilerConfig

namespace SiteConfig

/-- The names of the settings, in order. -/
def keys : List String :=
  ["body_limit_bytes", "enable_openapi", "openapi_path", "openapi_title", "openapi_version"]

/-- Sets one setting. -/
def set (key : String) (value : Json) (c : SiteConfig) : Except Mismatch SiteConfig :=
  if key = "body_limit_bytes" then value.readSize.map fun n => { c with bodyLimit := n }
  else if key = "enable_openapi" then value.readBool.map fun b => { c with documented := b }
  else if key = "openapi_path" then value.readText.map fun s => { c with documentPath := s }
  else if key = "openapi_title" then value.readText.map fun s => { c with title := s }
  else value.readText.map fun s => { c with version := s }

/-- Reads settings. -/
def ofJson : Json → Except Mismatch SiteConfig := Json.readRecord "HostConfig" keys 0 true set {}

/-- Writes settings. -/
def toJson (c : SiteConfig) : Json :=
  .object
    [("body_limit_bytes", .nat c.bodyLimit), ("enable_openapi", .bool c.documented),
      ("openapi_path", .text c.documentPath), ("openapi_title", .text c.title),
      ("openapi_version", .text c.version)]

end SiteConfig

/-- Settings of the compiler and of the site. -/
structure ActionsConfig where
  compiler : CompilerConfig := {}
  site : SiteConfig := {}
  deriving DecidableEq, Repr

namespace ActionsConfig

/-- The names of the parts, in order. -/
def keys : List String := ["compiler", "host"]

/-- Sets one part. -/
def set (key : String) (value : Json) (c : ActionsConfig) : Except Mismatch ActionsConfig :=
  if key = "compiler" then (CompilerConfig.ofJson value).map fun x => { c with compiler := x }
  else (SiteConfig.ofJson value).map fun x => { c with site := x }

/-- Reads settings. -/
def ofJson : Json → Except Mismatch ActionsConfig := Json.readRecord "ActionsConfig" keys 0 true set {}

/-- Writes settings. -/
def toJson (c : ActionsConfig) : Json :=
  .object [("compiler", c.compiler.toJson), ("host", c.site.toJson)]

end ActionsConfig

end HandlerChain
