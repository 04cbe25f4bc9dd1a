import HandlerChain.Logging.Filter

/-!
# Files of records

A record goes to the file of the section whose name is its target or the longest module path that leads
to it, and to the file of the default section if there is none.

## Main Definitions

* `Logging.under` says whether a target is in a module.
* `Logging.Sink` is a file of records, with what is kept of it when it is full.
* `Logging.Router` has the files of a configuration, and `Logging.Router.resolve` the file of a target.
* `Logging.Sinks` is a configuration in effect, and `Logging.Sinks.file?` the file of a record.
-/

namespace HandlerChain.Logging

/-- What is behind a start, if some characters start so. -/
def behind? : List Char → List Char → Option (List Char)
  | [], cs => some cs
  | _ :: _, [] => none
  | a :: start, c :: cs => if a = c then behind? start cs else none

/-- Whether a target is a module or inside of it. -/
def under (target module : String) : Bool :=
  match behind? module.toList target.toList with
  | some rest => rest.isEmpty || [':', ':'].isPrefixOf rest
  | none => false

/-- A file name relative to a folder; an absolute one stays. -/
def resolvePath (file base : String) : String :=
  if file.startsWith "/" then file
  else if base.isEmpty || base.endsWith "/" then base ++ file
  else base ++ "/" ++ file

/-- Which of the full files are kept: so many, or those of so many days. -/
inductive Kept where
  | files (n : Nat)
  | days (n : Nat)
  deriving DecidableEq, Repr

/-- A file of records. When there are more than `maxBytes` in it, it is put aside and a new one begun. -/
structure Sink where
  path : String
  kept : Kept
  maxBytes : Nat
  deriving DecidableEq, Repr

/-- The size of a file for which nothing is said, in units of 1024 times 1024 bytes. -/
def usualSizeMb : Nat := 100

/-- The file of a section. A number of files to keep goes before an age, and a size wraps around at 64 bits. -/
def Section.sink (s : Section) (base : String) : Sink where
  path := resolvePath s.file base
  kept := s.maxBackups.elim (Kept.days (s.maxAgeDays.getD 1)) Kept.files
  maxBytes := s.maxSizeMb.getD usualSizeMb * 1024 * 1024 % Nat.pow 2 64

/-- The files of sections: the one of the default section, and those of modules, the longest name first. -/
structure Router where
  fallback : Option Sink := none
  byTarget : List (String × Sink) := []
  deriving DecidableEq, Repr

namespace Router

/-- Whether an entry stands in front of another: longer names first, names of one length in order. -/
def before {α : Type} (a b : String × α) : Bool :=
  b.1.utf8ByteSize < a.1.utf8ByteSize || (a.1.utf8ByteSize == b.1.utf8ByteSize && a.1 ≤ b.1)

/-- The files of a configuration that can be opened. -/
def ofConfig (c : Config) (base : String) (opens : String → Bool) : Router :=
  let sink (s : Section) : Option Sink :=
    if s.hasFile then (some (s.sink base)).filter fun sink => opens sink.path else none
  { fallback := c.default?.bind sink
    byTarget := (c.named.filterMap fun (name, s) => (sink s).map fun sink => (name, sink)).mergeSort before }

/-- The file of a target. -/
def resolve (r : Router) (target : String) : Option Sink :=
  match r.byTarget.find? fun e => under target e.1 with
  | some e => some e.2
  | none => r.fallback

/-- Whether there is no file. -/
def isEmpty (r : Router) : Bool := r.fallback.isNone && r.byTarget.isEmpty

/-- All files. -/
def sinks (r : Router) : List Sink := r.fallback.toList ++ r.byTarget.map Prod.snd

end Router

/-- A record. -/
structure Record where
  target : String
  severity : Severity
  message : String
  deriving DecidableEq, Repr

/-- A configuration in effect: its files, the filters of console and files, and what caps both. -/
structure Sinks where
  router : Router := {}
  console : Filter := {}
  files : Filter := {}
  cap : Option Filter := none

namespace Sinks

/-- Puts a configuration into effect. One without any section has no files. -/
def ofConfig (c : Config) (base : String) (opens : String → Bool) (cap : Option Filter) : Sinks :=
  let router := Router.ofConfig c base opens
  { router, console := Filter.console c, files := Filter.files c router.fallback.isSome, cap }

/-- Whether a record passes the cap. -/
def passesCap (s : Sinks) (target : String) (x : Severity) : Bool :=
  s.cap.elim true fun f => f.admits target x

/-- The file that a record is written to. -/
def file? (s : Sinks) (target : String) (x : Severity) : Option Sink :=
  if s.passesCap target x && s.files.admits target x then s.router.resolve target else none

end Sinks

/-- A record as a line of a file, without its time. -/
def Record.toJson (r : Record) (fields : List (String × Json)) : Json :=
  .object
    [("level", .text (Text.upperAscii r.severity.name)),
      ("fields", .object (("message", .text r.message) :: fields)), ("target", .text r.target)]

end HandlerChain.Logging
