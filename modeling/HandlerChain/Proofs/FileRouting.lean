import HandlerChain.Proofs.FileLimits

/-!
# Which section takes a target

The sections of a configuration come out of a map in no definite order, and the files of some of them cannot be
opened.  Of those whose files are open, the one with the innermost module around a target takes its records, and
the default section if there is none.  The router sorts the sections by the size of their names and takes the first
one that matches.  This is the longest name that matches, and no two names of one size match the same target, so
neither the order in which the sections came nor the one among names of a size has a say.

What cannot be opened might as well not be there, so all of this follows from what the router does with sections
whose files are open.

## Main Definitions

* `Logging.Inside` says that a target is a module or inside of it.
* `Logging.Config.opened` are the sections whose files are open.
* `Logging.Config.Takes` says which of them takes the records of a target.

## Main Results

* `Logging.Router.ofConfig_opened`: a section whose file is not open leaves no trace.
* `Logging.Config.takes_owner?` and `Logging.Config.Takes.unique`: there is one answer to who takes a target.
* `Logging.Router.ofConfig_perm`: the router does not depend on the order of the sections.
* `Logging.Router.resolve_longest`: the router finds the file of the section that takes the target.
-/

namespace HandlerChain.Logging

/-! ### Names and targets -/

/-- A target is a module, or goes on behind its name with a separator. -/
def Inside (target module : String) : Prop := target = module ∨ ∃ rest, target = module ++ "::" ++ rest

theorem under_iff {target module : String} : under target module = true ↔ Inside target module := by
  constructor
  · intro inside
    rw [under] at inside
    split at inside
    · next rest found =>
        have parts := behind?_eq_some_iff.mp found
        rcases Bool.or_eq_true_iff.mp inside with nothing | separated
        · refine .inl (String.toList_inj.mp ?_)
          rw [parts, List.isEmpty_iff.mp nothing, List.append_nil]
        · obtain ⟨rest, rfl⟩ := List.isPrefixOf_iff_prefix.mp separated
          refine .inr ⟨String.ofList rest, String.toList_inj.mp ?_⟩
          have separator : "::".toList = [':', ':'] := rfl
          rw [parts, String.toList_append, String.toList_append, separator, String.toList_ofList,
            List.append_assoc]
    · cases inside
  · rintro (rfl | ⟨rest, rfl⟩)
    · rw [under, behind?_eq_some_iff.mpr (List.append_nil _).symm]
      rfl
    · have parts : (module ++ "::" ++ rest).toList = module.toList ++ (':' :: ':' :: rest.toList) := by
        rw [String.toList_append, String.toList_append, List.append_assoc]
        rfl
      rw [under, behind?_eq_some_iff.mpr parts]
      rfl

theorem Inside.covers {target module : String} (inside : Inside target module) :
    Filter.covers module target = true :=
  covers_of_under (under_iff.mpr inside)

/-- Of two starts of one target, the one with fewer bytes has fewer characters. -/
theorem length_le_of_covers {a b target : String} (first : Filter.covers a target = true)
    (second : Filter.covers b target = true) (size : a.utf8ByteSize ≤ b.utf8ByteSize) : a.length ≤ b.length := by
  rcases List.prefix_or_prefix_of_prefix (covers_iff.mp first) (covers_iff.mp second) with start | start
  · obtain ⟨rest, rfl⟩ := exists_append_of_start start
    rw [String.length_append]
    exact Nat.le_add_right _ _
  · obtain ⟨rest, rfl⟩ := exists_append_of_start start
    rw [String.utf8ByteSize_append] at size
    rw [String.utf8ByteSize_eq_zero_iff.mp (by omega : rest.utf8ByteSize = 0), String.append_empty]

theorem eq_of_covers_of_length {a b target : String} (first : Filter.covers a target = true)
    (second : Filter.covers b target = true) (length : a.length = b.length) : a = b := by
  rcases List.prefix_or_prefix_of_prefix (covers_iff.mp first) (covers_iff.mp second) with start | start
  · exact String.toList_inj.mp (start.eq_of_length length)
  · exact (String.toList_inj.mp (start.eq_of_length length.symm)).symm

/-! ### Sections whose files are open -/

namespace Config

/-- The sections whose files are open. -/
def opened (c : Config) (base : String) (opens : String → Bool) : Config :=
  c.filter fun e => e.2.hasFile && opens (e.2.sink base).path

/-- Which section takes the records of a target, if any does: the one with the longest name of the modules that
the target is inside of, or the default section where there is no such module.  Only sections whose files are
open count. -/
inductive Takes (c : Config) (base : String) (opens : String → Bool) (target : String) :
    Option (String × Section) → Prop where
  | module {e : String × Section} (member : e ∈ c.opened base opens) (named : e.1 ≠ defaultName)
      (inside : Inside target e.1)
      (longest : ∀ e' ∈ c.opened base opens, e'.1 ≠ defaultName → Inside target e'.1 → e'.1.length ≤ e.1.length) :
      Takes c base opens target (some e)
  | fallback {s : Section} (member : (defaultName, s) ∈ c.opened base opens)
      (outside : ∀ e ∈ c.opened base opens, e.1 ≠ defaultName → ¬Inside target e.1) :
      Takes c base opens target (some (defaultName, s))
  | nothing (absent : ∀ s, (defaultName, s) ∉ c.opened base opens)
      (outside : ∀ e ∈ c.opened base opens, e.1 ≠ defaultName → ¬Inside target e.1) :
      Takes c base opens target none

variable {c c' : Config} {base : String} {opens : String → Bool} {target : String} {e : String × Section}

theorem mem_opened_iff :
    e ∈ c.opened base opens ↔ e ∈ c ∧ e.2.hasFile = true ∧ opens (e.2.sink base).path = true := by
  rw [opened, List.mem_filter, Bool.and_eq_true]

theorem opened_distinct (distinct : (c.map Prod.fst).Nodup) : ((c.opened base opens).map Prod.fst).Nodup :=
  distinct.sublist (List.filter_sublist.map Prod.fst)

/-- All sections whose files are open have files. -/
theorem mem_filed_opened_iff : e ∈ (c.opened base opens).filed ↔ e ∈ c.opened base opens ∧ e.1 ≠ defaultName := by
  rw [filed, List.mem_filter, named, List.mem_filter, bne_iff_ne]
  exact and_iff_left_of_imp fun both => (mem_opened_iff.mp both.1).2.1

/-- **Some section takes a target, or none does**, and it is the owner among those whose files are open. -/
theorem takes_owner? (distinct : (c.map Prod.fst).Nodup) (base : String) (opens : String → Bool) (target : String) :
    c.Takes base opens target ((c.opened base opens).owner? target) := by
  rw [owner?, pick?]
  cases found : longestNamed (under target) (c.opened base opens).filed with
  | some e =>
      obtain ⟨member, inside, longest⟩ := longestNamed_spec found
      obtain ⟨member, named⟩ := mem_filed_opened_iff.mp member
      refine .module member named (under_iff.mp inside) fun e' member' named' inside' => ?_
      exact length_le_of_covers inside'.covers (covers_of_under inside)
        (longest e' (mem_filed_opened_iff.mpr ⟨member', named'⟩) (under_iff.mpr inside'))
  | none =>
      have outside : ∀ e ∈ c.opened base opens, e.1 ≠ defaultName → ¬Inside target e.1 :=
        fun e member named inside => by
          simpa [under_iff.mpr inside] using
            longestNamed_eq_none_iff.mp found e (mem_filed_opened_iff.mpr ⟨member, named⟩)
      rw [Option.none_or]
      cases said : (c.opened base opens).default? with
      | none =>
          refine .nothing (fun s member => ?_) outside
          have found := (lookup_eq_some_iff_mem (opened_distinct distinct)).mpr member
          rw [default?, found] at said
          cases said
      | some s =>
          have member : (defaultName, s) ∈ c.opened base opens := mem_of_lookup said
          rw [Option.filter_some, if_pos (mem_opened_iff.mp member).2.1, Option.map_some]
          exact .fallback member outside

/-- **No two sections take a target.** -/
theorem Takes.unique (distinct : (c.map Prod.fst).Nodup) {taker other : Option (String × Section)}
    (takes : c.Takes base opens target taker) (takes' : c.Takes base opens target other) : other = taker := by
  have eq_of_name {e e' : String × Section} (member : e ∈ c.opened base opens)
      (member' : e' ∈ c.opened base opens) (name : e'.1 = e.1) : e' = e :=
    List.inj_on_of_nodup_map (opened_distinct distinct) member' member name
  cases takes with
  | module member named inside longest =>
      cases takes' with
      | module member' named' inside' longest' =>
          have length := Nat.le_antisymm (longest _ member' named' inside') (longest' _ member named inside)
          rw [eq_of_name member member' (eq_of_covers_of_length inside'.covers inside.covers length)]
      | fallback _ outside => exact absurd inside (outside _ member named)
      | nothing _ outside => exact absurd inside (outside _ member named)
  | fallback member outside =>
      cases takes' with
      | module member' named' inside' => exact absurd inside' (outside _ member' named')
      | fallback member' => rw [eq_of_name member member' rfl]
      | nothing absent => exact absurd member (absent _)
  | nothing absent outside =>
      cases takes' with
      | module member' named' inside' => exact absurd inside' (outside _ member' named')
      | fallback member' => exact absurd member' (absent _)
      | nothing => rfl

end Config

/-! ### The router -/

namespace Router

variable {c c' : Config} {base : String} {opens : String → Bool}

/-- **A section whose file is not open leaves no trace** in the router. -/
theorem ofConfig_opened (distinct : (c.map Prod.fst).Nodup) :
    ofConfig c base opens = ofConfig (c.opened base opens) base fun _ => true := by
  have default : (c.opened base opens).default? =
      c.default?.filter fun s => s.hasFile && opens (s.sink base).path :=
    lookup_filter distinct _ Config.defaultName
  have named : (c.opened base opens).named =
      c.named.filter fun e => e.2.hasFile && opens (e.2.sink base).path :=
    List.filter_comm _ _ c
  rw [ofConfig, ofConfig, default, named, List.filterMap_filter]
  congr 1
  · cases c.default? with
    | none => rfl
    | some s =>
        cases file : s.hasFile <;> cases opening : opens (s.sink base).path <;>
          simp [Option.filter, file, opening]
  · refine congrArg (List.mergeSort · before) (List.filterMap_congr fun e _ => ?_)
    obtain ⟨name, s⟩ := e
    cases file : s.hasFile <;> cases opening : opens (s.sink base).path <;>
      simp [Option.filter, file, opening]

/-- Two entries of one size and name stand in front of each other. -/
theorem eq_of_before {α : Type} {a b : String × α} (first : before a b = true) (second : before b a = true) :
    a.1 = b.1 := by
  simp only [before, Bool.or_eq_true, Bool.and_eq_true, decide_eq_true_eq, beq_iff_eq] at first second
  rcases first with longer | ⟨size, order⟩ <;> rcases second with longer' | ⟨size', order'⟩
  · omega
  · omega
  · omega
  · exact String.le_antisymm order order'

/-- **The router does not depend on the order of the sections.** -/
theorem ofConfig_perm (distinct : (c.map Prod.fst).Nodup) (perm : c'.Perm c) :
    ofConfig c' base opens = ofConfig c base opens := by
  have distinct' : (c'.map Prod.fst).Nodup := (perm.map Prod.fst).nodup_iff.mpr distinct
  have default : c'.default? = c.default? := lookup_perm distinct perm Config.defaultName
  have fallback : (ofConfig c' base opens).fallback = (ofConfig c base opens).fallback := by
    rw [ofConfig, default, ofConfig]
  have filed : (c'.opened base opens).filed.Perm (c.opened base opens).filed :=
    ((perm.filter _).filter _).filter _
  have byTarget : (ofConfig c' base opens).byTarget = (ofConfig c base opens).byTarget := by
    rw [ofConfig_opened distinct', ofConfig_opened distinct, ofConfig_byTarget fun _ _ _ => rfl,
      ofConfig_byTarget fun _ _ _ => rfl]
    refine mergeSort_eq_of_perm before_trans before_total (fun _ _ => eq_of_before) ?_ (filed.map _)
    rw [names_map]
    exact Config.filed_distinct (Config.opened_distinct distinct)
  exact congrArg₂ Router.mk fallback byTarget

/-- **The router finds the file of the one section that takes a target**, where the names of sections differ: that
of the module with the longest name that the target is inside of, of those whose files are open, and that of the
default section where there is no such module.  A target that no section takes has no file.  The order in which the
sections come, out of a map, does not matter. -/
theorem resolve_longest {c : Config} (distinct : (c.map Prod.fst).Nodup) (base : String) (opens : String → Bool)
    (target : String) :
    ∃ taker, c.Takes base opens target taker ∧ (∀ other, c.Takes base opens target other → other = taker) ∧
      (ofConfig c base opens).resolve target = taker.map (fun e => e.2.sink base) ∧
      ∀ c' : Config, c'.Perm c → ofConfig c' base opens = ofConfig c base opens := by
  have takes := Config.takes_owner? distinct base opens target
  refine ⟨_, takes, fun other takes' => takes.unique distinct takes', ?_, fun c' perm => ofConfig_perm distinct perm⟩
  rw [ofConfig_opened distinct]
  exact resolve_ofConfig (Config.opened_distinct distinct) (fun _ _ _ => rfl) target

/-- Of the sections around `kit::host::binder` the one with the longest name has no open file, so the next one takes
the target; `kit_x` is in none of the modules.  The sections may come in either order. -/
theorem binder_resolve_longest :
    let writes (file : String) : Section := { consoleLevel := "info", file := file }
    let c : Config := [("kit", writes "kit.log"), ("kit::host", writes "host.log"),
      (Config.defaultName, writes "all.log"), ("kit::host::binder", writes "/dev/null/binder.log"),
      ("quiet", writes "")]
    let opens (path : String) : Bool := path != "/dev/null/binder.log"
    (c.map Prod.fst).Nodup ∧
      ((ofConfig c "logs" opens).resolve "kit::host::binder").map Sink.path = some "logs/host.log" ∧
      ((ofConfig c.reverse "logs" opens).resolve "kit::host::binder").map Sink.path = some "logs/host.log" ∧
      ((ofConfig c "logs" opens).resolve "kit_x").map Sink.path = some "logs/all.log" := by
  intro writes c opens
  have distinct : (c.map Prod.fst).Nodup := by decide
  have inner : (c.opened "logs" opens).owner? "kit::host::binder" = some ("kit::host", writes "host.log") := by
    decide +kernel
  have outer : (c.opened "logs" opens).owner? "kit_x" = some (Config.defaultName, writes "all.log") := by
    decide +kernel
  have host : ((writes "host.log").sink "logs").path = "logs/host.log" := by decide +kernel
  have all : ((writes "all.log").sink "logs").path = "logs/all.log" := by decide +kernel
  obtain ⟨taker, -, unique, resolved, order⟩ := resolve_longest distinct "logs" opens "kit::host::binder"
  obtain ⟨taker', -, unique', resolved', -⟩ := resolve_longest distinct "logs" opens "kit_x"
  obtain rfl := unique _ (Config.takes_owner? distinct "logs" opens _)
  obtain rfl := unique' _ (Config.takes_owner? distinct "logs" opens _)
  rw [inner, Option.map_some] at resolved
  rw [outer, Option.map_some] at resolved'
  refine ⟨distinct, ?_, ?_, ?_⟩
  · rw [resolved, Option.map_some, host]
  · rw [order c.reverse (List.reverse_perm c), resolved, Option.map_some, host]
  · rw [resolved', Option.map_some, all]

end Router

end HandlerChain.Logging
