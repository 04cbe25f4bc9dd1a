import HandlerChain.Proofs.Entries
import HandlerChain.Settings.FromYaml
import HandlerChain.Settings.Variable
import Mathlib.Data.List.Pairwise

/-!
# Layers of settings

A layer is laid over another one entry by entry, and this is right only where the keys of a table are distinct:
of two entries with one key the later one would be laid over the earlier.  Every reader of settings keeps the
keys sorted, so a leaf of the later layer stands in the result, and a way that parts from the one of a variable
leads where it led before.

## Main Definitions

* `Setting.Sorted` says that the keys of all tables ascend.

## Main Results

* `Setting.at?_overlay`: a leaf of the later layer stands.
* `Setting.at?_overlay_nest`: a way that is not the way of a variable, nor a part of it, leads to the same.
* `Setting.at?_ofVariables`: among variables, a leaf of the last one that addresses it stands.
* `Setting.sorted_ofYaml` and `Setting.sorted_ofVariables`: the layers are sorted.
-/

namespace HandlerChain

namespace Setting

/-- Whether a setting is a table. -/
def isTable : Setting → Bool
  | table _ _ => true
  | _ => false

/-! ### Entries -/

section

variable {key : String} {value s : Setting} {entries before : List (String × Setting)}

theorem insertion_put : Insertion put where
  nil _ _ := rfl
  cons _ _ _ _ _ := rfl

theorem mem_put {entry : String × Setting} (member : entry ∈ put key value entries) :
    entry = (key, value) ∨ entry ∈ entries := by
  induction entries with
  | nil => exact .inl (List.mem_singleton.mp member)
  | cons first rest ih =>
      rw [put] at member
      split_ifs at member with same less
      · exact (List.mem_cons.mp member).imp_right (List.mem_cons_of_mem first)
      · exact List.mem_cons.mp member
      · rcases List.mem_cons.mp member with rfl | later
        · exact .inr List.mem_cons_self
        · exact (ih later).imp_right (List.mem_cons_of_mem first)

/-- The keys of some entries ascend. -/
def Ascending (entries : List (String × Setting)) : Prop := entries.Pairwise fun a b => a.1 < b.1

theorem Ascending.put (ascending : Ascending entries) : Ascending (put key value entries) := by
  induction entries with
  | nil => exact List.pairwise_singleton _ _
  | cons first rest ih =>
      obtain ⟨least, tail⟩ := List.pairwise_cons.mp ascending
      rw [Setting.put]
      split_ifs with same less
      · exact List.pairwise_cons.mpr ⟨fun entry member => same ▸ least entry member, tail⟩
      · refine List.pairwise_cons.mpr ⟨fun entry member => ?_, ascending⟩
        rcases List.mem_cons.mp member with rfl | later
        · exact less
        · exact lt_trans less (least entry later)
      · refine List.pairwise_cons.mpr ⟨fun entry member => ?_, ih tail⟩
        rcases mem_put member with rfl | old
        · exact lt_of_le_of_ne (not_lt.mp less) (Ne.symm same)
        · exact least entry old

/-- No entry behind the first has its key. -/
theorem Ascending.lookup_tail (ascending : Ascending ((key, value) :: entries)) : entries.lookup key = none := by
  rw [List.lookup_eq_none_iff]
  intro entry member
  exact bne_iff_ne.mpr (ne_of_lt (List.rel_of_pairwise_cons ascending member))

theorem Ascending.tail {entry : String × Setting} (ascending : Ascending (entry :: entries)) :
    Ascending entries :=
  List.Pairwise.of_cons ascending

theorem Ascending.overlayEntries (ascending : Ascending before) :
    Ascending (overlayEntries before entries) := by
  induction entries generalizing before with
  | nil => simpa only [Setting.overlayEntries] using ascending
  | cons entry rest ih =>
      rw [Setting.overlayEntries]
      exact ih ascending.put

theorem lookup_overlayEntries_none (absent : entries.lookup key = none) :
    (overlayEntries before entries).lookup key = before.lookup key := by
  induction entries generalizing before with
  | nil => rw [overlayEntries]
  | cons entry rest ih =>
      obtain ⟨k, s⟩ := entry
      rw [List.lookup_cons] at absent
      split at absent
      · cases absent
      · rename_i other
        rw [overlayEntries, ih absent, insertion_put.lookup_of_ne (ne_of_beq_false other)]

/-- An entry is laid over the one that was there under its key. -/
theorem lookup_overlayEntries_some (ascending : Ascending entries) (found : entries.lookup key = some s) :
    (overlayEntries before entries).lookup key = some ((before.lookup key).elim s (overlay · s)) := by
  induction entries generalizing before with
  | nil => cases found
  | cons entry rest ih =>
      obtain ⟨k, s'⟩ := entry
      rw [overlayEntries]
      by_cases same : key = k
      · subst same
        obtain rfl : s' = s := by simpa using found
        rw [lookup_overlayEntries_none ascending.lookup_tail, insertion_put.lookup_self]
        cases before.lookup key <;> rfl
      · rw [List.lookup_cons, beq_false_of_ne same] at found
        rw [ih ascending.tail found, insertion_put.lookup_of_ne same]

end

/-! ### Overlays -/

section

variable {l l' : Layer} {old new s v : Setting} {entries : List (String × Setting)} {key : String}
  {way p : List String}

theorem at?_table (l : Layer) (entries : List (String × Setting)) (key : String) (rest : List String) :
    (table l entries).at? (key :: rest) = (entries.lookup key).bind (at? rest) := rfl

/-- What is not a table leads nowhere. -/
theorem at?_of_leaf (leaf : s.isTable = false) (key : String) (rest : List String) :
    s.at? (key :: rest) = none := by
  cases s with
  | table l entries => cases leaf
  | _ => rfl

/-- A way that leads somewhere starts in a table. -/
theorem exists_table_of_at? {rest : List String} (found : s.at? (key :: rest) = some v) :
    ∃ l entries inner, s = table l entries ∧ entries.lookup key = some inner ∧ inner.at? rest = some v := by
  cases s with
  | table l entries =>
      obtain ⟨inner, stands, reached⟩ := Option.bind_eq_some_iff.mp found
      exact ⟨l, entries, inner, rfl, stands, reached⟩
  | _ => cases found

theorem at?_append (s : Setting) (way rest : List String) :
    s.at? (way ++ rest) = (s.at? way).bind (at? rest) := by
  induction way generalizing s with
  | nil => rfl
  | cons key way ih =>
      cases s with
      | table l entries =>
          rw [List.cons_append, at?_table, at?_table, Option.bind_assoc]
          exact congrArg _ (funext ih)
      | _ => rfl

theorem exists_at?_cons {rest : List String} (found : s.at? (key :: rest) = some v) :
    ∃ inner, s.at? [key] = some inner ∧ inner.at? rest = some v :=
  Option.bind_eq_some_iff.mp ((at?_append s [key] rest).symm.trans found)

/-- The keys of all tables that can be reached ascend. -/
def Sorted (s : Setting) : Prop := ∀ way l entries, s.at? way = some (table l entries) → Ascending entries

theorem Sorted.ascending (sorted : (Setting.table l entries).Sorted) : Ascending entries :=
  sorted [] l entries rfl

theorem Sorted.entry (sorted : (Setting.table l entries).Sorted) (found : entries.lookup key = some s) :
    s.Sorted := by
  intro way l' entries' reached
  refine sorted (key :: way) l' entries' ?_
  rw [at?_table, found]
  exact reached

theorem Sorted.table (ascending : Ascending entries)
    (each : ∀ key s, entries.lookup key = some s → s.Sorted) : (Setting.table l entries).Sorted := by
  intro way l' entries' reached
  cases way with
  | nil =>
      cases reached
      exact ascending
  | cons key rest =>
      obtain ⟨inner, stands, reached⟩ := Option.bind_eq_some_iff.mp reached
      exact each key inner stands rest l' entries' reached

theorem Sorted.of_forall_mem (ascending : Ascending entries) (each : ∀ entry ∈ entries, entry.2.Sorted) :
    (Setting.table l entries).Sorted :=
  .table ascending fun key s found => each (key, s) (mem_of_lookup found)

theorem Sorted.at? (sorted : s.Sorted) (found : s.at? way = some v) : v.Sorted := by
  induction way generalizing s with
  | nil =>
      cases found
      exact sorted
  | cons key rest ih =>
      obtain ⟨l, entries, inner, rfl, stands, reached⟩ := exists_table_of_at? found
      exact ih (sorted.entry stands) reached

theorem sorted_of_leaf (leaf : s.isTable = false) : s.Sorted := by
  intro way l entries reached
  cases way with
  | nil =>
      cases reached
      cases leaf
  | cons key rest =>
      rw [at?_of_leaf leaf] at reached
      cases reached

/-- A sorted table with one more entry is sorted. -/
theorem Sorted.put (sorted : (Setting.table l entries).Sorted) (value : v.Sorted) :
    (Setting.table l (put key v entries)).Sorted := by
  refine .table sorted.ascending.put fun other s found => ?_
  by_cases same : other = key
  · subst same
    rw [insertion_put.lookup_self] at found
    cases found
    exact value
  · rw [insertion_put.lookup_of_ne same] at found
    exact sorted.entry found

theorem overlay_table (l l' : Layer) (before entries : List (String × Setting)) :
    overlay (table l' before) (table l entries) = table l (overlayEntries before entries) := by
  rw [overlay]

/-- Where one of two settings is not a table, the later one stands alone. -/
theorem overlay_of_leaf (leaf : old.isTable = false ∨ new.isTable = false) : overlay old new = new := by
  cases new with
  | table l entries =>
      cases old with
      | table l' before => simp [isTable] at leaf
      | _ => rw [overlay]; exact fun _ _ => nofun
  | _ => rw [overlay]; exact fun _ _ => nofun

/-- Two layers are tables, or the later one stands alone. -/
theorem overlay_cases (old new : Setting) :
    (∃ l' before l entries, old = table l' before ∧ new = table l entries) ∨ overlay old new = new := by
  cases new with
  | table l entries =>
      cases old with
      | table l' before => exact .inl ⟨l', before, l, entries, rfl, rfl⟩
      | _ => exact .inr (overlay_of_leaf (.inl rfl))
  | _ => exact .inr (overlay_of_leaf (.inr rfl))

theorem Sorted.overlay (sortedOld : old.Sorted) (sortedNew : new.Sorted) : (overlay old new).Sorted := by
  intro way
  induction way generalizing old new with
  | nil =>
      intro l entries reached
      rcases overlay_cases old new with ⟨l', before, l'', later, rfl, rfl⟩ | alone
      · rw [overlay_table] at reached
        cases reached
        exact sortedOld.ascending.overlayEntries
      · rw [alone] at reached
        exact sortedNew [] l entries reached
  | cons key rest ih =>
      intro l entries reached
      rcases overlay_cases old new with ⟨l', before, l'', later, rfl, rfl⟩ | alone
      · rw [overlay_table, at?_table] at reached
        -- Only where both layers have the entry, what is reached is from an overlay again.
        cases found : later.lookup key with
        | none =>
            rw [lookup_overlayEntries_none found] at reached
            exact sortedOld (key :: rest) l entries reached
        | some s =>
            rw [lookup_overlayEntries_some sortedNew.ascending found, Option.bind_some] at reached
            cases earlier : before.lookup key with
            | none =>
                rw [earlier] at reached
                exact sortedNew.entry found rest l entries reached
            | some s' =>
                rw [earlier] at reached
                exact ih (sortedOld.entry earlier) (sortedNew.entry found) l entries reached
      · rw [alone] at reached
        exact sortedNew (key :: rest) l entries reached

/-- **A leaf of the later layer stands**, whatever the earlier one says. -/
theorem at?_overlay (sorted : new.Sorted) (found : new.at? way = some s) (leaf : s.isTable = false)
    (old : Setting) : (overlay old new).at? way = some s := by
  induction way generalizing old new with
  | nil =>
      cases found
      rw [overlay_of_leaf (.inr leaf), at?]
  | cons key rest ih =>
      rcases overlay_cases old new with ⟨l', before, l, entries, rfl, rfl⟩ | alone
      · obtain ⟨inner, stands, reached⟩ := Option.bind_eq_some_iff.mp found
        rw [overlay_table, at?_table, lookup_overlayEntries_some sorted.ascending stands, Option.bind_some]
        cases before.lookup key with
        | none => exact reached
        | some earlier => exact ih (sorted.entry stands) reached earlier
      · rw [alone, found]

/-- **A way that parts from that of a later layer leads where it led before.** -/
theorem at?_overlay_nest (l : Layer) (v : Setting) (found : old.at? way = some s) (apart : ¬way <+: p)
    (apart' : ¬p <+: way) : (overlay old (nest l v p)).at? way = some s := by
  induction way generalizing old p with
  | nil => exact absurd List.nil_prefix apart
  | cons key rest ih =>
      cases p with
      | nil => exact absurd List.nil_prefix apart'
      | cons key' rest' =>
          obtain ⟨l', before, inner, rfl, stands, reached⟩ := exists_table_of_at? found
          rw [nest, overlay_table, overlayEntries, overlayEntries, at?_table]
          by_cases same : key = key'
          · subst same
            rw [insertion_put.lookup_self, stands, Option.bind_some]
            exact ih reached (fun inside => apart (List.cons_prefix_cons.mpr ⟨rfl, inside⟩))
              fun inside => apart' (List.cons_prefix_cons.mpr ⟨rfl, inside⟩)
          · rw [insertion_put.lookup_of_ne same, stands]
            exact reached

end

/-! ### Variables -/

section

variable {l : Layer} {s v : Setting} {way p : List String}

theorem of_lookup_singleton {key other : String} (found : [(key, v)].lookup other = some s) :
    other = key ∧ v = s := by
  rw [List.lookup_cons] at found
  split at found
  · rename_i same
    exact ⟨beq_iff_eq.mp same, Option.some.inj found⟩
  · cases found

theorem sorted_nest (l : Layer) (value : v.Sorted) (p : List String) : (nest l v p).Sorted := by
  induction p with
  | nil => exact value
  | cons key rest ih =>
      refine .of_forall_mem (List.pairwise_singleton _ _) fun entry member => ?_
      rw [List.mem_singleton.mp member]
      exact ih

/-- A leaf in nested tables is a leaf of what they hold. -/
theorem prefix_of_at?_nest (found : (nest l v p).at? way = some s) (leaf : s.isTable = false) : p <+: way := by
  induction p generalizing way with
  | nil => exact List.nil_prefix
  | cons key rest ih =>
      cases way with
      | nil =>
          cases found
          cases leaf
      | cons key' rest' =>
          obtain ⟨inner, stands, reached⟩ := Option.bind_eq_some_iff.mp found
          obtain ⟨rfl, rfl⟩ := of_lookup_singleton stands
          exact List.cons_prefix_cons.mpr ⟨rfl, ih reached⟩

theorem sorted_empty (l : Layer) : (table l []).Sorted :=
  .table .nil fun _ _ found => by cases found

theorem isTable_ofWord (l : Layer) (word : String) : (ofWord l word).isTable = false := by
  rw [ofWord]
  split
  · rfl
  · split <;> rfl

/-- The entries of a table are read one after the other, each into its place; no other value is a table. -/
theorem sorted_readValue (l : Layer) (fuel : Nat) :
    (∀ cs s rest, readValue l fuel cs = some (s, rest) → s.Sorted) ∧
    ∀ before cs entries rest, (table l before).Sorted → readEntries l fuel before cs = some (entries, rest) →
      (table l entries).Sorted := by
  induction fuel with
  | zero =>
      constructor
      · intro cs s rest read
        cases read
      · intro before cs entries rest sorted read
        cases read
  | succ fuel ih =>
      obtain ⟨value, more⟩ := ih
      constructor
      · intro cs s rest read
        rw [readValue] at read
        obtain ⟨⟨s, behind⟩, first, same⟩ := Option.map_eq_some_iff.mp read
        obtain ⟨rfl, -⟩ := Prod.mk.inj same
        split at first
        -- An opening brace starts the only value that is a table.
        case h_3 =>
          obtain ⟨⟨entries, rest⟩, inside, same⟩ := Option.map_eq_some_iff.mp first
          obtain ⟨rfl, -⟩ := Prod.mk.inj same
          exact more [] _ entries rest (sorted_empty l) inside
        case h_4 | h_5 =>
          obtain ⟨inside, -, same⟩ := Option.map_eq_some_iff.mp first
          obtain ⟨rfl, -⟩ := Prod.mk.inj same
          exact sorted_of_leaf rfl
        case h_7 => cases first
        case h_8 =>
          obtain ⟨rfl, -⟩ := Prod.mk.inj (Option.some.inj first)
          exact sorted_of_leaf (isTable_ofWord l _)
        all_goals
          obtain ⟨rfl, -⟩ := Prod.mk.inj (Option.some.inj first)
          exact sorted_of_leaf rfl
      · intro before cs entries rest sorted read
        unfold readEntries at read
        split at read
        · cases read
          exact sorted
        · split at read
          · split at read
            · cases read
            · rename_i s behind first
              exact more _ _ entries rest (sorted.put (value _ s _ first)) read
            · rename_i s behind first
              cases read
              exact sorted.put (value _ s _ first)
            · cases read
          · cases read

theorem sorted_parse (l : Layer) (text : String) : (parse l text).Sorted := by
  rw [parse]
  split
  · rename_i s read
    exact (sorted_readValue l _).1 _ s [] read
  · exact sorted_of_leaf rfl

/-- Lays what a variable sets over what was set before. -/
def addVariable (start : String) (acc : Setting) (entry : String × String) : Setting :=
  match path? start entry.1 with
  | some keys => acc.overlay (nest (.environment start) (parse (.environment start) entry.2) keys)
  | none => acc

theorem ofVariables_eq (start : String) (environment : List (String × String)) :
    ofVariables start environment = environment.foldl (addVariable start) (table (.environment start) []) :=
  rfl

theorem sorted_foldl (start : String) {acc : Setting} (sorted : acc.Sorted)
    (environment : List (String × String)) : (environment.foldl (addVariable start) acc).Sorted := by
  induction environment generalizing acc with
  | nil => exact sorted
  | cons first rest ih =>
      refine ih ?_
      rw [addVariable]
      split
      · exact sorted.overlay (sorted_nest _ (sorted_parse _ _) _)
      · exact sorted

theorem sorted_ofVariables (start : String) (environment : List (String × String)) :
    (ofVariables start environment).Sorted :=
  sorted_foldl start (sorted_empty _) environment

/-- Later variables change nothing on a way that parts from theirs. -/
theorem at?_foldl {start : String} {acc : Setting} {environment : List (String × String)}
    (apart : ∀ other ∈ environment, ∀ p, path? start other.1 = some p → ¬way <+: p ∧ ¬p <+: way)
    (found : acc.at? way = some s) : (environment.foldl (addVariable start) acc).at? way = some s := by
  induction environment generalizing acc with
  | nil => exact found
  | cons first rest ih =>
      obtain ⟨here, later⟩ := List.forall_mem_cons.mp apart
      refine ih later ?_
      rw [addVariable]
      split
      · rename_i p addressed
        obtain ⟨before, behind⟩ := here p addressed
        exact at?_overlay_nest _ _ found before behind
      · exact found

/-- **A leaf that a variable sets stands** among all variables, if no later one addresses a part of what it
sets, or what this is a part of. -/
theorem at?_ofVariables {start name value : String} {before after : List (String × String)}
    (addressed : path? start name = some p)
    (alone : ∀ other ∈ after, ∀ p', path? start other.1 = some p' → ¬p <+: p' ∧ ¬p' <+: p)
    (sets : (nest (.environment start) (parse (.environment start) value) p).at? way = some s)
    (leaf : s.isTable = false) :
    (ofVariables start (before ++ (name, value) :: after)).at? way = some s := by
  rw [ofVariables_eq, List.foldl_append, List.foldl_cons]
  have inside := prefix_of_at?_nest sets leaf
  refine at?_foldl (fun other member p' addressed' => ?_) ?_
  · obtain ⟨apart, apart'⟩ := alone other member p' addressed'
    -- Two beginnings of one way would be beginnings of each other.
    refine ⟨fun longer => apart (inside.trans longer), fun shorter => ?_⟩
    rcases List.prefix_or_prefix_of_prefix inside shorter with first | second
    · exact apart first
    · exact apart' second
  · simp only [addVariable, addressed]
    exact at?_overlay (sorted_nest _ (sorted_parse _ _) _) sets leaf _

end

/-! ### Files -/

section

open Yaml (Node ReadError Path)

mutual

theorem sorted_ofNode {l : Layer} {path : Path} {s : Setting} :
    ∀ {node : Node}, ofNode l path node = .ok s → s.Sorted
  | .absent, read => by
      cases read
      exact sorted_of_leaf rfl
  | .scalar m tag style content, read => by
      rw [ofNode] at read
      split at read
      · cases read
      · split at read
        · cases read
        · rename_i a _
          cases read
          cases a <;> exact sorted_of_leaf rfl
  | .sequence m tag items, read => by
      rw [ofNode] at read
      split at read
      · cases read
      · cases inner : ofItems l path 0 items with
        | error e =>
            rw [inner] at read
            cases read
        | ok items =>
            rw [inner] at read
            cases read
            exact sorted_of_leaf rfl
  | .mapping m tag entries, read => by
      rw [ofNode] at read
      split at read
      · cases read
      · cases inner : ofEntries l path [] entries with
        | error e =>
            rw [inner] at read
            cases read
        | ok entries =>
            rw [inner] at read
            cases read
            exact sorted_ofEntries (sorted_empty l) inner
  | .reference _ target, read => by
      rw [ofNode] at read
      exact sorted_ofNode read
  | .broken e, read => by cases read

theorem sorted_ofEntries {l : Layer} {path : Path} {before entries : List (String × Setting)} :
    ∀ {nodes : List (Node × Node)}, (table l before).Sorted → ofEntries l path before nodes = .ok entries →
      (table l entries).Sorted
  | [], sorted, read => by
      cases read
      exact sorted
  | (k, n) :: rest, sorted, read => by
      rw [ofEntries] at read
      split at read
      · cases read
      · split at read
        · cases read
        · rename_i s value
          exact sorted_ofEntries (sorted.put (sorted_ofNode value)) read

end

theorem sorted_ofRoot {l : Layer} {node : Node} {entries : List (String × Setting)}
    (read : ofRoot l node = .ok entries) : (table l entries).Sorted := by
  cases node with
  | absent =>
      cases read
      exact sorted_empty l
  | scalar m tag style content =>
      rw [ofRoot] at read
      split at read
      · cases read
        exact sorted_empty l
      · split at read <;> cases read
  | mapping m tag nodes => exact sorted_ofEntries (sorted_empty l) read
  | sequence | reference | broken => cases read

/-- **A settings file is sorted.** -/
theorem sorted_ofYaml {path text : String} {s : Setting} (read : ofYaml path text = .ok s) : s.Sorted := by
  rw [ofYaml] at read
  cases root : (Yaml.Parsed.ofString text).read (ofRoot (.file path)) with
  | error e =>
      rw [root] at read
      cases read
  | ok entries =>
      rw [root] at read
      cases read
      rw [Yaml.Parsed.read] at root
      split at root
      · cases root
      · rename_i first
        split at root
        · cases root
        · split at root
          · cases root
          · cases root
            exact sorted_ofRoot first

end

end Setting

end HandlerChain
