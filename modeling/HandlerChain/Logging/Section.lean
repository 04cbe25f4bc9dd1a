import HandlerChain.Decode.FromValue
import HandlerChain.Logging.Level
import HandlerChain.Settings.Setting

/-!
# Sections of logging

What a logging configuration says of the records of one target, or, under the name `default`, of all
others.

## Main Definitions

* `Logging.Section` is what is said of a target; a `Logging.Config` has a section for each name.
* `Logging.Section.ofSetting` and `Logging.Section.ofJson` read a section.
-/

namespace HandlerChain.Logging

open Decode (Mismatch)

/-- What is said of the records of a target. A blank file name means no file, and a blank limit for the
file the usual one. -/
structure Section where
  consoleLevel : String
  file : String := ""
  fileLevel : String := ""
  maxAgeDays : Option Nat := none
  maxBackups : Option Nat := none
  maxSizeMb : Option Nat := none
  deriving DecidableEq, Repr

/-- Sections by the name of their target. -/
abbrev Config := List (String × Section)

namespace Section

/-- The names of the fields, in order; only the first cannot be left out. -/
def keys : List String :=
  ["console_level", "file", "file_level", "max_age_days", "max_backups", "max_size_mb"]

/-- A section before its fields are set. -/
def blank : Section := { consoleLevel := "" }

/-- Whether records go to a file. -/
def hasFile (s : Section) : Bool := !Text.isBlankText s.file

/-- The limit of the console. -/
def console (s : Section) : Level := Level.ofName s.consoleLevel

/-- The limit of the file. -/
def limit (s : Section) : Level :=
  if Text.isBlankText s.fileLevel then Level.usual else Level.ofName s.fileLevel

/-- Sets one field from a layered setting. -/
def set (key : String) (value : Setting) (s : Section) : Except Setting.Error Section :=
  if key = "console_level" then value.readText.map fun x => { s with consoleLevel := x }
  else if key = "file" then value.readText.map fun x => { s with file := x }
  else if key = "file_level" then value.readText.map fun x => { s with fileLevel := x }
  else if key = "max_age_days" then
    (value.readOption (Setting.readNat "u32" 32)).map fun x => { s with maxAgeDays := x }
  else if key = "max_backups" then
    (value.readOption (Setting.readNat "usize" 64)).map fun x => { s with maxBackups := x }
  else (value.readOption (Setting.readNat "u64" 64)).map fun x => { s with maxSizeMb := x }

/-- Reads a section from a layered setting. Unknown fields are ignored. -/
def ofSetting : Setting.Reads Section := Setting.readRecord "Section" keys 1 false set blank

/-- Sets one field from JSON. -/
def setJson (key : String) (value : Json) (s : Section) : Except Mismatch Section :=
  if key = "console_level" then value.readText.map fun x => { s with consoleLevel := x }
  else if key = "file" then value.readText.map fun x => { s with file := x }
  else if key = "file_level" then value.readText.map fun x => { s with fileLevel := x }
  else if key = "max_age_days" then
    (value.readOption (Json.readNat "u32" 32)).map fun x => { s with maxAgeDays := x }
  else if key = "max_backups" then
    (value.readOption (Json.readNat "usize" 64)).map fun x => { s with maxBackups := x }
  else (value.readOption (Json.readNat "u64" 64)).map fun x => { s with maxSizeMb := x }

/-- Reads a section from JSON. Unknown fields are ignored. -/
def ofJson : Json → Except Mismatch Section := Json.readRecord "Section" keys 1 false setJson blank

/-- Writes a section. -/
def toJson (s : Section) : Json :=
  let number (n : Option Nat) : Json := Json.ofOption Json.nat n
  .object
    [("console_level", .text s.consoleLevel), ("file", .text s.file), ("file_level", .text s.fileLevel),
      ("max_age_days", number s.maxAgeDays), ("max_backups", number s.maxBackups),
      ("max_size_mb", number s.maxSizeMb)]

end Section

namespace Config

/-- The name of the section for all targets without one of their own. -/
def defaultName : String := "default"

/-- The section for all other targets. -/
def default? (c : Config) : Option Section := c.lookup defaultName

/-- The sections for targets. -/
def named (c : Config) : Config := c.filter fun s => s.1 != defaultName

/-- Reads sections from a layered setting. -/
def ofSetting : Setting.Reads Config := Setting.readTable Section.ofSetting

/-- Reads sections from JSON. -/
def ofJson : Json → Except Mismatch Config
  | .object members => members.mapM fun (name, j) => (Section.ofJson j).map fun s => (name, s)
  | j => .error (.wrongType j.found "a map")

/-- Writes sections. -/
def toJson (c : Config) : Json := .object (c.map fun (name, s) => (name, s.toJson))

/-- The configuration where nothing is said: one file for all targets. -/
def usual : Config :=
  [(defaultName,
    { consoleLevel := "info", file := "logs/actionkit.log", fileLevel := "debug", maxAgeDays := some 7,
      maxBackups := some 3, maxSizeMb := some 100 })]

end Config

end HandlerChain.Logging
