import HandlerChain.Logging.Router
import HandlerChain.Proofs.Entries
import Mathlib.Data.List.MinMax
import Mathlib.Data.List.Nodup

/-!
# Limits of the files of records

A record goes to the file of one section, its owner, and should be limited by what that section says.  The
router and the filter both take the section with the longest matching name, and that of the default section
where no name matches, but they match in different ways.  For the router a name is a module path: it has to end
where a part of the target ends.  For the filter it is a text: any start of the target matches.  So another
section may decide whether a record is let through to the file of its owner.

Both choices are compared with one that is made from the sections themselves, for any way of matching.

## Main Definitions

* `Logging.longestNamed` is the entry with the longest name of those that match.
* `Logging.Config.owner?` is the section whose file a target has, and `Logging.Config.governor?` the one whose
  limit it has.

## Main Results

* `Logging.Router.resolve_ofConfig`: the router finds the file of the owner.
* `Logging.Sinks.file?_ofConfig`: a record is written there if the governor lets it through.
* `Logging.Sinks.file?_owner` says when this is the limit of the owner.
* `Logging.app_x_suppressed`: the section for `app` silences the target `app_x`.
-/

namespace HandlerChain.Logging

/-! ### Names and targets -/

theorem behind?_eq_some_iff {start cs rest : List Char} :
    behind? start cs = some rest ↔ cs = start ++ rest := by
  induction start generalizing cs with
  | nil => simp [behind?]
  | cons a start ih =>
      cases cs with
      | nil => simp [behind?]
      | cons c cs =>
          rw [behind?]
          split
          · next same => simp [ih, same]
          · next other => simp [Ne.symm other]

theorem covers_iff {name target : String} :
    Filter.covers name target = true ↔ name.toList <+: target.toList :=
  List.isPrefixOf_iff_prefix

/-- A target starts with the modules it is in. -/
theorem covers_of_under {target name : String} (inside : under target name = true) :
    Filter.covers name target = true := by
  rw [under] at inside
  split at inside
  · next rest found => exact covers_iff.mpr ⟨rest, (behind?_eq_some_iff.mp found).symm⟩
  · cases inside

/-- A text that starts with another one is that and a rest. -/
theorem exists_append_of_start {a b : String} (start : a.toList <+: b.toList) : ∃ rest, b = a ++ rest := by
  obtain ⟨rest, parts⟩ := start
  exact ⟨String.ofList rest, by rw [← String.toList_inj, String.toList_append, String.toList_ofList, parts]⟩

/-- A target has one start of each size. -/
theorem eq_of_covers {a b target : String} (first : Filter.covers a target = true)
    (second : Filter.covers b target = true) (size : a.utf8ByteSize = b.utf8ByteSize) : a = b := by
  have longer : ∀ {a b : String}, a.toList <+: b.toList → a.utf8ByteSize = b.utf8ByteSize → a = b := by
    intro a b start size
    obtain ⟨rest, rfl⟩ := exists_append_of_start start
    rw [String.utf8ByteSize_append] at size
    have nothing : rest = "" := String.utf8ByteSize_eq_zero_iff.mp (by omega)
    rw [nothing, String.append_empty]
  rcases List.prefix_or_prefix_of_prefix (covers_iff.mp first) (covers_iff.mp second) with start | start
  · exact longer start size
  · exact (longer start size.symm).symm

/-! ### The longest name -/

/-- The entry with the longest name of those whose name matches. -/
def longestNamed {α : Type} (fits : String → Bool) (entries : List (String × α)) : Option (String × α) :=
  (entries.filter fun e => fits e.1).argmax fun e => e.1.utf8ByteSize

section LongestNamed

variable {α : Type} {target : String} {fits : String → Bool} {entries : List (String × α)} {e : String × α}

theorem longestNamed_eq_none_iff :
    longestNamed fits entries = none ↔ ∀ e ∈ entries, fits e.1 = false := by
  rw [longestNamed, List.argmax_eq_none, List.filter_eq_nil_iff]
  simp only [Bool.not_eq_true]

theorem longestNamed_spec (longest : longestNamed fits entries = some e) :
    e ∈ entries ∧ fits e.1 = true ∧
      ∀ e' ∈ entries, fits e'.1 = true → e'.1.utf8ByteSize ≤ e.1.utf8ByteSize := by
  obtain ⟨member, fit⟩ := List.mem_filter.mp (List.argmax_mem longest)
  refine ⟨member, fit, fun e' member' fit' => ?_⟩
  have kept : e' ∈ entries.filter fun e => fits e.1 := List.mem_filter.mpr ⟨member', fit'⟩
  exact List.le_of_mem_argmax (f := fun e => e.1.utf8ByteSize) kept longest

/-- Where the names differ and all that match are starts of one target, the longest is the only one of its
size. -/
theorem longestNamed_eq_some (distinct : (entries.map Prod.fst).Nodup)
    (starts : ∀ name, fits name = true → Filter.covers name target = true) (member : e ∈ entries)
    (fit : fits e.1 = true)
    (longest : ∀ e' ∈ entries, fits e'.1 = true → e'.1.utf8ByteSize ≤ e.1.utf8ByteSize) :
    longestNamed fits entries = some e := by
  cases found : longestNamed fits entries with
  | none => exact absurd fit (by simp [longestNamed_eq_none_iff.mp found e member])
  | some e' =>
      obtain ⟨member', fit', longest'⟩ := longestNamed_spec found
      have size := Nat.le_antisymm (longest e' member' fit') (longest' e member fit)
      have name : e'.1 = e.1 := eq_of_covers (starts _ fit') (starts _ fit) size
      rw [List.inj_on_of_nodup_map distinct member' member name]

/-- One more entry is compared with the longest one so far. -/
theorem longestNamed_append (distinct : ((entries ++ [e]).map Prod.fst).Nodup)
    (starts : ∀ name, fits name = true → Filter.covers name target = true) :
    longestNamed fits (entries ++ [e]) =
      if fits e.1 then
        match longestNamed fits entries with
        | some b => if b.1.utf8ByteSize ≤ e.1.utf8ByteSize then some e else some b
        | none => some e
      else longestNamed fits entries := by
  have last : e ∈ entries ++ [e] := List.mem_append_right entries List.mem_cons_self
  have bounded {m : String × α} (new : e.1.utf8ByteSize ≤ m.1.utf8ByteSize)
      (old : ∀ e' ∈ entries, fits e'.1 = true → e'.1.utf8ByteSize ≤ m.1.utf8ByteSize) :
      ∀ e' ∈ entries ++ [e], fits e'.1 = true → e'.1.utf8ByteSize ≤ m.1.utf8ByteSize :=
    List.forall_mem_append.mpr ⟨old, List.forall_mem_singleton.mpr fun _ => new⟩
  split
  · next fit =>
      cases found : longestNamed fits entries with
      | none =>
          have others := longestNamed_eq_none_iff.mp found
          refine longestNamed_eq_some distinct starts last fit (bounded le_rfl ?_)
          exact fun e' member fit' => absurd fit' (by simp [others e' member])
      | some b =>
          obtain ⟨member, fit', longest⟩ := longestNamed_spec found
          dsimp only
          split
          · next le =>
              refine longestNamed_eq_some distinct starts last fit (bounded le_rfl ?_)
              exact fun e' member fit => (longest e' member fit).trans le
          · next gt =>
              have kept : b ∈ entries ++ [e] := List.mem_append_left [e] member
              exact longestNamed_eq_some distinct starts kept fit' (bounded (Nat.le_of_not_le gt) longest)
  · next other => simp [longestNamed, other]

theorem names_map {β : Type} (f : String × α → β) :
    (entries.map fun e => (e.1, f e)).map Prod.fst = entries.map Prod.fst := by
  rw [List.map_map, Function.comp_def]

/-- What is taken of an entry is taken of the longest one. -/
theorem longestNamed_map {β : Type} (f : String × α → β) (distinct : (entries.map Prod.fst).Nodup)
    (starts : ∀ name, fits name = true → Filter.covers name target = true) :
    longestNamed fits (entries.map fun e => (e.1, f e)) =
      (longestNamed fits entries).map fun e => (e.1, f e) := by
  cases found : longestNamed fits entries with
  | none =>
      rw [Option.map_none, longestNamed_eq_none_iff, List.forall_mem_map]
      exact longestNamed_eq_none_iff.mp found
  | some e =>
      obtain ⟨member, fit, longest⟩ := longestNamed_spec found
      refine longestNamed_eq_some ?_ starts (List.mem_map_of_mem member) fit ?_
      · rwa [names_map]
      · exact List.forall_mem_map.mpr longest

end LongestNamed

/-! ### The filter and the router as choices of the longest name -/

section Choices

variable {target : String}

theorem longest?_append (target : String) (limits : List (String × Level)) (e : String × Level) :
    Filter.longest? target (limits ++ [e]) =
      if Filter.covers e.1 target then
        match Filter.longest? target limits with
        | some b => if b.1.utf8ByteSize ≤ e.1.utf8ByteSize then some e else some b
        | none => some e
      else Filter.longest? target limits := by
  rw [Filter.longest?, List.foldl_append, ← Filter.longest?, List.foldl_cons, List.foldl_nil]
  cases Filter.longest? target limits <;> rfl

theorem longest?_eq_longestNamed {limits : List (String × Level)} (distinct : (limits.map Prod.fst).Nodup) :
    Filter.longest? target limits = longestNamed (Filter.covers · target) limits := by
  induction limits using List.reverseRecOn with
  | nil => rfl
  | append_singleton limits e ih =>
      have before : (limits.map Prod.fst).Nodup := by
        rw [List.map_append] at distinct
        exact distinct.of_append_left
      rw [longest?_append, ih before, longestNamed_append distinct fun _ => id]
      cases longestNamed (Filter.covers · target) limits <;> rfl

theorem before_trans {α : Type} (a b c : String × α) (first : Router.before a b = true)
    (second : Router.before b c = true) : Router.before a c = true := by
  simp only [Router.before, Bool.or_eq_true, Bool.and_eq_true, decide_eq_true_eq, beq_iff_eq] at *
  rcases first with longer | ⟨size, order⟩ <;> rcases second with longer' | ⟨size', order'⟩
  · exact .inl (longer'.trans longer)
  · exact .inl (size' ▸ longer)
  · exact .inl (size ▸ longer')
  · exact .inr ⟨size.trans size', String.le_trans order order'⟩

theorem before_total {α : Type} (a b : String × α) : (Router.before a b || Router.before b a) = true := by
  simp only [Router.before, Bool.or_eq_true, Bool.and_eq_true, decide_eq_true_eq, beq_iff_eq]
  rcases Nat.lt_trichotomy a.1.utf8ByteSize b.1.utf8ByteSize with less | same | more
  · exact .inr (.inl less)
  · exact (String.le_total a.1 b.1).imp (fun order => .inr ⟨same, order⟩) (fun order => .inr ⟨same.symm, order⟩)
  · exact .inl (.inl more)

/-- The first name that matches is the longest one where longer names stand in front. -/
theorem find?_mergeSort_before {α : Type} {files : List (String × α)} (distinct : (files.map Prod.fst).Nodup) :
    (files.mergeSort Router.before).find? (fun e => under target e.1) = longestNamed (under target) files := by
  have same : ∀ e, e ∈ files.mergeSort Router.before ↔ e ∈ files := fun e =>
    (List.mergeSort_perm files Router.before).mem_iff
  cases found : (files.mergeSort Router.before).find? fun e => under target e.1 with
  | none =>
      refine (longestNamed_eq_none_iff.mpr fun e member => ?_).symm
      simpa using List.find?_eq_none.mp found e ((same e).mpr member)
  | some e =>
      obtain ⟨fit, front, back, split, others⟩ := List.find?_eq_some_iff_append.mp found
      have sorted := List.pairwise_mergeSort before_trans before_total files
      refine (longestNamed_eq_some distinct (fun _ => covers_of_under) ?_ fit ?_).symm
      · exact (same e).mp (split ▸ List.mem_append_right front List.mem_cons_self)
      · intro e' member' fit'
        have later : e' ∈ e :: back := by
          rcases List.mem_append.mp (split ▸ (same e').mpr member') with early | late
          · exact absurd fit' (by simpa using others e' early)
          · exact late
        rw [split] at sorted
        rcases List.mem_cons.mp later with rfl | late
        · exact le_rfl
        · have order := List.rel_of_pairwise_cons (List.pairwise_append.mp sorted).2.1 late
          simp only [Router.before, Bool.or_eq_true, Bool.and_eq_true, decide_eq_true_eq, beq_iff_eq] at order
          omega

end Choices

/-! ### The sections of a configuration -/

namespace Config

/-- The sections for targets that have a file. -/
def filed (c : Config) : Config := c.named.filter fun e => e.2.hasFile

/-- What a way of matching picks of the sections that have a file: the one with the longest name that matches,
or the default section where no name does. -/
def pick? (c : Config) (fits : String → Bool) : Option (String × Section) :=
  (longestNamed fits c.filed).or ((c.default?.filter Section.hasFile).map fun s => (defaultName, s))

/-- The section whose file the records of a target belong into. -/
def owner? (c : Config) (target : String) : Option (String × Section) := c.pick? (under target)

/-- The section whose limit the records of a target have. -/
def governor? (c : Config) (target : String) : Option (String × Section) :=
  c.pick? (Filter.covers · target)

variable {c : Config}

theorem filed_distinct (distinct : (c.map Prod.fst).Nodup) : (c.filed.map Prod.fst).Nodup :=
  distinct.sublist ((List.filter_sublist.trans List.filter_sublist).map Prod.fst)

/-- An owner leaves a governor: it may be another section, but then one whose name the target starts with
without being in that module. -/
theorem exists_governor (distinct : (c.map Prod.fst).Nodup) {target : String} {owner : String × Section}
    (owns : c.owner? target = some owner) :
    ∃ governor, c.governor? target = some governor ∧
      (governor = owner ∨ governor ∈ c.filed ∧ Filter.covers governor.1 target = true ∧
        under target governor.1 = false) := by
  have distinct := filed_distinct distinct
  cases found : longestNamed (Filter.covers · target) c.filed with
  | none =>
      have outside := longestNamed_eq_none_iff.mp found
      have away : longestNamed (under target) c.filed = none :=
        longestNamed_eq_none_iff.mpr fun e member =>
          Bool.eq_false_iff.mpr fun inside => by simpa [outside e member] using covers_of_under inside
      refine ⟨owner, ?_, .inl rfl⟩
      rw [owner?, pick?, away] at owns
      rw [governor?, pick?, found, owns]
  | some governor =>
      obtain ⟨member, start, longest⟩ := longestNamed_spec found
      refine ⟨governor, by rw [governor?, pick?, found, Option.some_or], ?_⟩
      cases inside : under target governor.1 with
      | false => exact .inr ⟨member, start, rfl⟩
      | true =>
          have owned : longestNamed (under target) c.filed = some governor :=
            longestNamed_eq_some distinct (fun _ => covers_of_under) member inside
              fun e member' inside' => longest e member' (covers_of_under inside')
          rw [owner?, pick?, owned, Option.some_or] at owns
          exact .inl (Option.some.inj owns)

end Config

section Effect

variable {c : Config} {base : String} {opens : String → Bool}

theorem Router.ofConfig_byTarget
    (opening : ∀ e ∈ c, e.2.hasFile = true → opens (e.2.sink base).path = true) :
    (Router.ofConfig c base opens).byTarget =
      (c.filed.map fun e => (e.1, e.2.sink base)).mergeSort Router.before := by
  rw [Router.ofConfig, Config.filed, ← List.filterMap_eq_map, List.filterMap_filter]
  refine congrArg (List.mergeSort · Router.before) (List.filterMap_congr fun ⟨name, s⟩ member => ?_)
  cases file : s.hasFile with
  | false => simp [file]
  | true =>
      have opened := opening _ (List.mem_filter.mp member).1 file
      simp [file, Option.filter, opened]

theorem Router.ofConfig_fallback
    (opening : ∀ e ∈ c, e.2.hasFile = true → opens (e.2.sink base).path = true) :
    (Router.ofConfig c base opens).fallback =
      (c.default?.filter Section.hasFile).map fun s => s.sink base := by
  rw [Router.ofConfig]
  cases said : c.default? with
  | none => rfl
  | some s =>
      cases file : s.hasFile with
      | false => simp [Option.filter, file]
      | true =>
          have opened := opening _ (mem_of_lookup said) file
          simp [Option.filter, file, opened]

/-- **The router finds the file of the owner.** -/
theorem Router.resolve_ofConfig (distinct : (c.map Prod.fst).Nodup)
    (opening : ∀ e ∈ c, e.2.hasFile = true → opens (e.2.sink base).path = true) (target : String) :
    (Router.ofConfig c base opens).resolve target =
      (c.owner? target).map fun e => e.2.sink base := by
  have distinct := Config.filed_distinct distinct
  have distinct' : ((c.filed.map fun e => (e.1, e.2.sink base)).map Prod.fst).Nodup := by
    rwa [names_map]
  rw [Router.resolve, Router.ofConfig_byTarget opening, Router.ofConfig_fallback opening,
    find?_mergeSort_before distinct', longestNamed_map _ distinct fun _ => covers_of_under, Config.owner?,
    Config.pick?]
  cases longestNamed (under target) c.filed with
  | some e => rfl
  | none => rw [Option.map_none, Option.none_or, Option.map_map, Function.comp_def]

/-- The limit of a target is that of its governor. -/
theorem Filter.limit?_files (distinct : (c.map Prod.fst).Nodup)
    (opening : ∀ e ∈ c, e.2.hasFile = true → opens (e.2.sink base).path = true) (target : String) :
    (Filter.files c (Router.ofConfig c base opens).fallback.isSome).limit? target =
      some ((c.governor? target).elim .off fun e => e.2.limit) := by
  have distinct := Config.filed_distinct distinct
  have distinct' : ((c.filed.map fun e => (e.1, e.2.limit)).map Prod.fst).Nodup := by
    rwa [names_map]
  have limits : (Filter.files c (Router.ofConfig c base opens).fallback.isSome).limits =
      c.filed.map fun e => (e.1, e.2.limit) := rfl
  rw [Filter.limit?, limits, longest?_eq_longestNamed distinct', longestNamed_map _ distinct fun _ => id,
    Config.governor?, Config.pick?]
  cases longestNamed (Filter.covers · target) c.filed with
  | some e => rfl
  | none =>
      rw [Filter.files, Router.ofConfig_fallback opening]
      cases c.default? with
      | none => rfl
      | some s => cases file : s.hasFile <;> simp [Option.filter, file]

/-- **A record goes to the file of the owner if the limit of the governor admits it.** -/
theorem Sinks.file?_ofConfig (distinct : (c.map Prod.fst).Nodup)
    (opening : ∀ e ∈ c, e.2.hasFile = true → opens (e.2.sink base).path = true) (target : String)
    (x : Severity) :
    (Sinks.ofConfig c base opens none).file? target x =
      if (c.governor? target).any fun e => e.2.limit.admits x then
        (c.owner? target).map fun e => e.2.sink base
      else none := by
  have admitted : (Sinks.ofConfig c base opens none).files.admits target x =
      (c.governor? target).any fun e => e.2.limit.admits x := by
    rw [Filter.admits, Sinks.ofConfig, Filter.limit?_files distinct opening]
    cases c.governor? target <;> rfl
  have resolved : (Sinks.ofConfig c base opens none).router.resolve target =
      (c.owner? target).map fun e => e.2.sink base :=
    Router.resolve_ofConfig distinct opening target
  have capped : (Sinks.ofConfig c base opens none).passesCap target x = true := rfl
  rw [Sinks.file?, capped, Bool.true_and, admitted, resolved]

end Effect

theorem Severity.rank_injective : Function.Injective Severity.rank := by
  intro a b
  cases a <;> cases b <;> decide

/-- Limits that admit the same records are the same. -/
theorem Level.eq_of_admits {a b : Level} (same : ∀ x, a.admits x = b.admits x) : a = b := by
  cases a with
  | off =>
      cases b with
      | off => rfl
      | upTo t => simpa [admits] using same t
  | upTo s =>
      cases b with
      | off => simpa [admits] using same s
      | upTo t =>
          have below : s.rank ≤ t.rank := by simpa [admits] using same s
          have above : t.rank ≤ s.rank := by simpa [admits] using same t
          rw [Severity.rank_injective (Nat.le_antisymm below above)]

/-- **Which records the file of a target gets.**  Where the names of sections differ, all files open and nothing
caps them, the router selects the file of the owner of the target, and a record of the target goes there or
nowhere, as the limit of the governor says.  So the limit of the owner is the one that counts exactly if the
governor has the same, and the governor is the owner itself, unless it is a section whose name the target starts
with without being in that module.  A target without an owner has no file, and no section admits its records. -/
theorem Sinks.file?_owner {c : Config} (distinct : (c.map Prod.fst).Nodup) (base : String)
    (opens : String → Bool) (opening : ∀ e ∈ c, e.2.hasFile = true → opens (e.2.sink base).path = true)
    (target : String) :
    let sinks := Sinks.ofConfig c base opens none
    sinks.router.resolve target = (c.owner? target).map (fun e => e.2.sink base) ∧
      (c.owner? target = none → ∀ x, sinks.file? target x = none) ∧
      ∀ owner, c.owner? target = some owner →
        let sink := owner.2.sink base
        ∃ governor, c.governor? target = some governor ∧
          (∀ x, sinks.file? target x = if governor.2.limit.admits x then some sink else none) ∧
          ((∀ x, sinks.file? target x = some sink ↔ owner.2.limit.admits x = true) ↔
            governor.2.limit = owner.2.limit) ∧
          (governor = owner ∨ governor ∈ c.filed ∧ Filter.covers governor.1 target = true ∧
            under target governor.1 = false) := by
  intro sinks
  have written := Sinks.file?_ofConfig distinct opening target
  refine ⟨Router.resolve_ofConfig distinct opening target, ?_, ?_⟩
  · intro ownerless x
    rw [written, ownerless, Option.map_none, ite_self]
  · intro owner owns sink
    obtain ⟨governor, governs, which⟩ := Config.exists_governor distinct owns
    have limited (x : Severity) :
        sinks.file? target x = if governor.2.limit.admits x then some sink else none := by
      rw [written, governs, owns, Option.any_some, Option.map_some]
    refine ⟨governor, governs, limited, ?_, which⟩
    have iff_admits (x : Severity) : sinks.file? target x = some sink ↔ governor.2.limit.admits x = true := by
      rw [limited]
      cases governor.2.limit.admits x <;> simp
    constructor
    · exact fun counts => Level.eq_of_admits fun x => Bool.eq_iff_iff.mpr ((iff_admits x).symm.trans (counts x))
    · exact fun same x => same ▸ iff_admits x

/-- The section of `app` has the errors of `app::db` in its file, and nothing else of it. -/
theorem app_db_file?_owner :
    let all : Section := { consoleLevel := "off", file := "all.log", fileLevel := "debug" }
    let app : Section := { consoleLevel := "off", file := "app.log", fileLevel := "error" }
    let c : Config := [(Config.defaultName, all), ("app", app)]
    let sinks := Sinks.ofConfig c "" (fun _ => true) none
    (c.map Prod.fst).Nodup ∧ (sinks.router.resolve "app::db").map Sink.path = some "app.log" ∧
      (sinks.file? "app::db" .error).map Sink.path = some "app.log" ∧ sinks.file? "app::db" .info = none := by
  intro all app c sinks
  have distinct : (c.map Prod.fst).Nodup := by decide
  have owns : c.owner? "app::db" = some ("app", app) := by decide +kernel
  have governs : c.governor? "app::db" = some ("app", app) := by decide +kernel
  obtain ⟨resolved, -, files⟩ :=
    Sinks.file?_owner distinct "" (fun _ => true) (fun _ _ _ => rfl) "app::db"
  obtain ⟨governor, found, limited, -, -⟩ := files _ owns
  rw [governs, Option.some.injEq] at found
  subst found
  have path : (app.sink "").path = "app.log" := by decide +kernel
  have error : app.limit.admits .error = true := by decide +kernel
  have info : app.limit.admits .info = false := by decide +kernel
  refine ⟨distinct, ?_, ?_, ?_⟩
  · rw [resolved, owns, Option.map_some, Option.map_some, path]
  · rw [limited, error, if_pos rfl, Option.map_some, path]
  · rw [limited, info, if_neg Bool.false_ne_true]

/-- The section of `app` silences the target `app_x`, which is not in that module and whose records belong into
another file. -/
theorem app_x_suppressed :
    let all : Section := { consoleLevel := "off", file := "all.log", fileLevel := "debug" }
    let app : Section := { consoleLevel := "off", file := "app.log", fileLevel := "error" }
    let c : Config := [(Config.defaultName, all), ("app", app)]
    let sinks := Sinks.ofConfig c "" (fun _ => true) none
    c.owner? "app_x" = some (Config.defaultName, all) ∧
      (sinks.router.resolve "app_x").map Sink.path = some "all.log" ∧
      all.limit.admits .info = true ∧ sinks.file? "app_x" .info = none := by
  intro all app c sinks
  have distinct : (c.map Prod.fst).Nodup := by decide
  have owns : c.owner? "app_x" = some (Config.defaultName, all) := by decide +kernel
  have governs : c.governor? "app_x" = some ("app", app) := by decide +kernel
  have resolved : sinks.router.resolve "app_x" = (c.owner? "app_x").map fun e => e.2.sink "" :=
    Router.resolve_ofConfig distinct (fun _ _ _ => rfl) "app_x"
  have written : sinks.file? "app_x" .info =
      if (c.governor? "app_x").any fun e => e.2.limit.admits .info then
        (c.owner? "app_x").map fun e => e.2.sink ""
      else none :=
    Sinks.file?_ofConfig distinct (fun _ _ _ => rfl) "app_x" .info
  have path : (all.sink "").path = "all.log" := by decide +kernel
  have info : app.limit.admits .info = false := by decide +kernel
  refine ⟨owns, ?_, by decide +kernel, ?_⟩
  · rw [resolved, owns, Option.map_some, Option.map_some, path]
  · rw [written, governs, Option.any_some, info, if_neg Bool.false_ne_true]

end HandlerChain.Logging
