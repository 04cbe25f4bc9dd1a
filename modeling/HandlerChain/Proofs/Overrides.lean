import HandlerChain.Logging.Router
import HandlerChain.Proofs.Environment
import Mathlib.Data.List.Forall2

/-!
# What the command line overrides

The command line names a port, and how much more detail the console should show.  A configuration should be changed
in nothing else: without a port the server stays as it is, without a wish for detail so does all of logging, and
with one only the limit of the console of the default section is another.

This is what happens to a configuration with sections of logging.  One without any, of which only the console is
served, gets the usual sections whatever was asked for, and these have a file for all targets.

## Main Definitions

* `AppConfig.OnlyConsole` relates sections that differ in the limit of the console of the default one.
* `Overrides.Confined` says that a configuration was changed in nothing but what the command line names.
* `AppConfig.usualSink` is the file of the usual sections.

## Main Results

* `AppConfig.withConsole_withConsole`: replacing the limit of the console twice is replacing it once.
* `Overrides.confined_iff`: overrides are confined, but for a configuration without sections and no wish for detail.
* `AppConfig.override_touches` says all that overrides do.
* `AppConfig.override_adds_file`: the usual sections come where nobody asked for anything.
-/

namespace HandlerChain

namespace AppConfig

open Logging (Section)

/-- Entries of one name and with one section, but for the limit of the console where it is the default section. -/
def OnlyConsole (e e' : String × Section) : Prop :=
  e'.1 = e.1 ∧ (e.1 ≠ Logging.Config.defaultName → e'.2 = e.2) ∧
    e'.2 = { e.2 with consoleLevel := e'.2.consoleLevel }

/-- Replacing the limit of the console changes nothing else. -/
theorem onlyConsole_withConsole (level : Option String) (sections : Logging.Config) :
    List.Forall₂ OnlyConsole sections (withConsole level sections) := by
  cases level with
  | none => exact List.forall₂_same.mpr fun e _ => ⟨rfl, fun _ => rfl, rfl⟩
  | some level =>
      rw [withConsole, List.forall₂_map_right_iff, List.forall₂_same]
      intro e _
      by_cases default : e.1 = Logging.Config.defaultName
      · simp [OnlyConsole, default]
      · simp [OnlyConsole, default]

/-- The default section gets the limit. -/
theorem default?_withConsole (level : Option String) (sections : Logging.Config) :
    (withConsole level sections).default? =
      sections.default?.map fun s => { s with consoleLevel := level.getD s.consoleLevel } := by
  cases level with
  | none => simp [withConsole]
  | some level =>
      rw [Logging.Config.default?, Logging.Config.default?, withConsole]
      induction sections with
      | nil => rfl
      | cons e rest ih =>
          rw [List.map_cons, List.lookup_cons, List.lookup_cons]
          by_cases default : e.1 = Logging.Config.defaultName
          · simp [default]
          · have other : (Logging.Config.defaultName == e.1) = false := beq_false_of_ne (Ne.symm default)
            simp only [default, ↓reduceIte, other]
            exact ih

/-- Replacing the limit of the console twice is replacing it once. -/
theorem withConsole_withConsole (level : Option String) (sections : Logging.Config) :
    withConsole level (withConsole level sections) = withConsole level sections := by
  cases level with
  | none => rfl
  | some level =>
      rw [withConsole, withConsole, List.map_map]
      refine List.map_congr_left fun e _ => ?_
      by_cases default : e.1 = Logging.Config.defaultName
      · simp [default]
      · simp [default]

theorem override_override (c : AppConfig) (o : Overrides) : (c.override o).override o = c.override o := by
  cases port : o.port <;> simp [override, port, withConsole_withConsole]

end AppConfig

/-- A configuration was changed at most in what the command line names: the port if there is one, and the limit of
the console of the default section if more detail was asked for. -/
structure Overrides.Confined (o : Overrides) (c c' : AppConfig) : Prop where
  modules : c'.modules = c.modules
  modulesDir : c'.modulesDir = c.modulesDir
  server : c'.server = { c.server with port := c'.server.port }
  port : o.port = none → c'.server.port = c.server.port
  quiet : o.verbose = 0 → c'.logging = c.logging
  sections {sections : Logging.Config} : c.logging = some sections →
    ∃ sections', c'.logging = some sections' ∧ List.Forall₂ AppConfig.OnlyConsole sections sections'

/-- **Overrides are confined**, but for a configuration without sections of logging where no more detail was asked
for. -/
theorem Overrides.confined_iff (c : AppConfig) (o : Overrides) :
    o.Confined c (c.override o) ↔ (c.logging = none → o.verbose ≠ 0) := by
  constructor
  · intro confined absent silent
    have same := confined.quiet silent
    rw [absent] at same
    cases same
  · intro asked
    refine ⟨rfl, rfl, rfl, fun unnamed => ?_, fun silent => ?_, fun {sections} said => ?_⟩
    · rw [AppConfig.override, unnamed, Option.getD_none]
    · cases said : c.logging with
      | none => exact absurd silent (asked said)
      | some sections => rw [AppConfig.override, silent, said, Option.getD_some]; rfl
    · refine ⟨_, rfl, ?_⟩
      rw [said, Option.getD_some]
      exact AppConfig.onlyConsole_withConsole _ sections

namespace AppConfig

open Logging (Section Router Sink)

/-- Where there is no section but the default one, all targets have its file. -/
theorem resolve_of_named_eq_nil {sections : Logging.Config} (alone : sections.named = []) (base : String)
    (opens : String → Bool) (target : String) :
    (Router.ofConfig sections base opens).resolve target = (Router.ofConfig sections base opens).fallback := by
  have bare : (Router.ofConfig sections base opens).byTarget = [] := by
    rw [Router.ofConfig, alone, List.filterMap_nil, List.mergeSort_nil]
  rw [Router.resolve, bare, List.find?_nil]

/-- The file of the usual sections. -/
def usualSink (base : String) : Sink :=
  ⟨Logging.resolvePath "logs/actionkit.log" base, .files 3, 100 * 1024 * 1024⟩

/-- The usual sections have one file, for all targets. -/
theorem resolve_withConsole_usual (level : Option String) (base : String) (opens : String → Bool) (target : String) :
    (Router.ofConfig (withConsole level Logging.Config.usual) base opens).resolve target =
      (some (usualSink base)).filter fun sink => opens sink.path := by
  have alone : (withConsole level Logging.Config.usual).named = [] := by cases level <;> rfl
  obtain ⟨s, said, file, sink⟩ : ∃ s, Logging.Config.usual.default? = some s ∧ s.file = "logs/actionkit.log" ∧
      s.sink base = usualSink base := ⟨_, rfl, rfl, rfl⟩
  -- Only the console of the section is another one, so it has the same file.
  have filed : Section.hasFile { s with consoleLevel := level.getD s.consoleLevel } = true := by
    rw [Section.hasFile, file]
    decide +kernel
  have same : Section.sink { s with consoleLevel := level.getD s.consoleLevel } base = usualSink base := sink
  rw [resolve_of_named_eq_nil alone, Router.ofConfig, default?_withConsole, said, Option.map_some, Option.bind_some]
  simp only [filed, ↓reduceIte, same]

/-- **What overrides do.**  They set the port if one is named, and the limit of the console of the default section if
more detail was asked for; doing so twice is doing so once.  They are confined to that exactly if the configuration
has sections of logging, or more detail was asked for.  A configuration without any sections, which has no files,
gets the usual ones, and with them a file for all targets; nothing else is changed then. -/
theorem override_touches (c : AppConfig) (o : Overrides) :
    let c' := c.override o
    (o.Confined c c' ↔ (c.logging = none → o.verbose ≠ 0)) ∧
      c' = { c with server := { c.server with port := o.port.getD c.server.port }, logging := c'.logging } ∧
      (∀ level, verboseLevel o.verbose = some level → ∀ sections, c'.logging = some sections →
        ∀ s, sections.default? = some s → s.consoleLevel = level) ∧
      c'.override o = c' ∧
      (c.logging = none → ∃ sections, c'.logging = some sections ∧
        List.Forall₂ OnlyConsole Logging.Config.usual sections ∧ ∀ base opens target,
          (Router.ofConfig [] base opens).resolve target = none ∧
            (Router.ofConfig sections base opens).resolve target =
              (some (usualSink base)).filter fun sink => opens sink.path) := by
  intro c'
  refine ⟨o.confined_iff c, rfl, fun level asked sections said s found => ?_, override_override c o,
    fun absent => ?_⟩
  · obtain rfl := Option.some.inj said
    rw [asked, default?_withConsole] at found
    obtain ⟨before, -, rfl⟩ := Option.map_eq_some_iff.mp found
    rfl
  · refine ⟨_, rfl, ?_, fun base opens target => ⟨resolve_of_named_eq_nil rfl base opens target, ?_⟩⟩
    · rw [absent, Option.getD_none]
      exact onlyConsole_withConsole _ _
    · rw [absent, Option.getD_none]
      exact resolve_withConsole_usual _ base opens target

/-- Without a settings file there are no sections of logging and no files.  A command line that names nothing adds
the usual sections, and the records of all targets go to a file. -/
theorem override_adds_file :
    ∃ c, load "app.yaml" none [] (fun _ => .missing) = .ok c ∧ c.logging = none ∧
      ¬({} : Overrides).Confined c (c.override {}) ∧
        (Router.ofConfig (c.logging.getD []) "." fun _ => true).resolve "notes" = none ∧
          ((Router.ofConfig ((c.override {}).logging.getD []) "." fun _ => true).resolve "notes").map Sink.path =
            some "./logs/actionkit.log" := by
  have silent : ((load "app.yaml" none [] fun _ => .missing).toOption.map fun c => c.logging.isNone) = some true := by
    decide +kernel
  obtain ⟨c, loaded, silent⟩ := Option.map_eq_some_iff.mp silent
  have absent : c.logging = none := Option.isNone_iff_eq_none.mp silent
  have loaded := except_toOption_eq_some_iff.mp loaded
  have path : (usualSink ".").path = "./logs/actionkit.log" := by decide +kernel
  refine ⟨c, loaded, absent, fun confined => (Overrides.confined_iff c {}).mp confined absent rfl, ?_, ?_⟩
  · rw [absent, Option.getD_none, resolve_of_named_eq_nil rfl]
    rfl
  · rw [override, absent, Option.getD_some, Option.getD_none, resolve_withConsole_usual,
      Option.filter_some, if_pos rfl, Option.map_some, path]

end AppConfig

end HandlerChain
