import HandlerChain.Logging.Section

/-!
# Filters of records

A filter limits records by target: the longest of its names that a target starts with decides, and its
default where there is none. Names are compared as texts, without regard to the parts of a target.

## Main Definitions

* `Logging.Filter` is a filter, and `Logging.Filter.admits` what it lets through.
* `Logging.Filter.console` and `Logging.Filter.files` are those of a configuration.
* `Logging.Filter.parse?` reads a filter from its one-line form.
-/

namespace HandlerChain.Logging

/-- Limits by the start of the target, and the limit where none applies; without that, nothing passes. -/
structure Filter where
  fallback : Option Level := none
  limits : List (String × Level) := []
  deriving DecidableEq, Repr

namespace Filter

/-- Whether a target starts with a name. -/
def covers (name target : String) : Bool := name.toList.isPrefixOf target.toList

/-- The entry with the longest name that a target starts with; of two with one name, the later one. -/
def longest? (target : String) (limits : List (String × Level)) : Option (String × Level) :=
  limits.foldl
    (fun best e =>
      if covers e.1 target then
        match best with
        | some b => if b.1.utf8ByteSize ≤ e.1.utf8ByteSize then some e else best
        | none => some e
      else best)
    none

/-- The limit for a target. -/
def limit? (f : Filter) (target : String) : Option Level :=
  match longest? target f.limits with
  | some e => some e.2
  | none => f.fallback

/-- Whether a record of a target passes. -/
def admits (f : Filter) (target : String) (s : Severity) : Bool := (f.limit? target).any (·.admits s)

/-- The filter of the console. -/
def console (c : Config) : Filter where
  fallback := some (c.default?.elim Level.usual Section.console)
  limits := c.named.map fun (name, s) => (name, s.console)

/-- The filter of the files, given whether there is one for all other targets. -/
def files (c : Config) (hasDefault : Bool) : Filter where
  fallback := some (if hasDefault then c.default?.elim Level.usual Section.limit else .off)
  limits := (c.named.filter fun s => s.2.hasFile).map fun (name, s) => (name, s.limit)

/-! ### The one-line form -/

/-- Whether a character is part of the name of a target. -/
def isTargetChar (c : Char) : Bool :=
  c.isAlphanum || c == '_' || c == ':' || c == '-' || (128 ≤ c.toNat && !Text.isBlank c)

/-- What one directive says: a limit for all targets, a limit for a target, or something about spans,
which never lets a record through. -/
inductive Directive where
  | general (l : Level)
  | target (name : String) (l : Level)
  | span
  deriving DecidableEq, Repr

/-- The parts in front of the limit of a directive, two at most: names, and texts in brackets. -/
def parts : Nat → List Char → List (String ⊕ String) × List Char
  | 0, cs => ([], cs)
  | fuel + 1, '[' :: rest =>
    let inner := rest.takeWhile (· != ']')
    match rest.drop inner.length with
    | ']' :: behind =>
      let (ps, behind) := parts fuel behind
      (.inr (String.ofList inner) :: ps, behind)
    | _ => ([], '[' :: rest)
  | fuel + 1, cs =>
    let name := cs.takeWhile isTargetChar
    if name.isEmpty then ([], cs)
    else
      let (ps, behind) := parts fuel (cs.drop name.length)
      (.inl (String.ofList name) :: ps, behind)

/-- Reads a directive. One without a limit lets everything through, and the name of a limit is no target. -/
def Directive.parse? (s : String) : Option Directive :=
  match Level.ofWord? s with
  | some l => some (.general l)
  | none =>
    let (ps, rest) := parts 2 s.toList
    let level : Option Level := match rest with
      | [] => some (.upTo .trace)
      | ['='] => some (.upTo .trace)
      | '=' :: word => Level.ofWord? (String.ofList word)
      | _ => none
    let names := ps.filterMap fun p => p.getLeft?
    let spans := ps.filterMap fun p => p.getRight?
    match ps, level with
    | [], _ => none
    | _, none => none
    | _, some l =>
      if spans.any (!·.isEmpty) then some .span
      else
        match names.getLast? with
        | some name => if (Level.ofWord? name).isSome then some (.general l) else some (.target name l)
        | none => some (.general l)

/-- Adds a directive to a filter. -/
def add (f : Filter) : Directive → Filter
  | .general l => { f with fallback := some l }
  | .target name l => { f with limits := f.limits.filter (fun e => e.1 != name) ++ [(name, l)] }
  | .span => f

/-- Reads a filter: directives behind commas. Without any directive only errors pass, and a directive
that cannot be read spoils them all. -/
def parse? (s : String) : Option Filter :=
  let words := (s.splitOn ",").filter (!·.isEmpty)
  if words.isEmpty then some { fallback := some (.upTo .error) }
  else (words.mapM Directive.parse?).map fun ds => ds.foldl add {}

end Filter

end HandlerChain.Logging
