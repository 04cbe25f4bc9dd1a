import HandlerChain.Json.Access
import HandlerChain.Proofs.Overlay
import HandlerChain.Settings.Load

/-!
# What a variable sets in a configuration

A leaf that a variable sets stands in the layered settings, whatever the settings file says.  What is read from
these settings has each leaf at the end of the same way, since a record is read field by field and a table
entry by entry.  The files of modules come after that: a module with a file has what its last file says, and
nothing else, so what a variable sets there is lost.

## Main Definitions

* `Json.follow?` is what stands at the end of a way through objects.
* `AppConfig.leafAt?` is what settings say of a leaf of the configuration.
* `AppConfig.moduleFile?` is the file that speaks for a module.

## Main Results

* `Setting.Fields.readRecord`: what is read for a field is what the record says of it.
* `AppConfig.ofSetting_leafAt?`: a configuration has the leaves of the settings from which it is read.
* `AppConfig.load_variable`: a leaf that a variable sets stands, unless a file speaks for its module.
-/

namespace HandlerChain

/-- What stands at the end of a way through objects. -/
def Json.follow? : List String → Json → Option Json
  | [], j => some j
  | key :: rest, j => (j.get? key).bind (follow? rest)

theorem Json.insertion_insert : Insertion Json.insert where
  nil _ _ := rfl
  cons _ _ _ _ _ := rfl

section

variable {α β ε ε' : Type} {x : Except ε α}

theorem except_map_eq_ok_iff {f : α → β} {b : β} : x.map f = .ok b ↔ ∃ a, x = .ok a ∧ f a = b := by
  cases x <;> simp [Except.map]

theorem except_mapError_eq_ok_iff {f : ε → ε'} {a : α} : x.mapError f = .ok a ↔ x = .ok a := by
  cases x <;> simp [Except.mapError]

theorem except_toOption_eq_some_iff {a : α} : x.toOption = some a ↔ x = .ok a := by
  cases x <;> simp [Except.toOption]

theorem except_bind_eq_ok_iff {f : α → Except ε β} {b : β} : x >>= f = .ok b ↔ ∃ a, x = .ok a ∧ f a = .ok b := by
  cases x <;> simp [bind, Except.bind]

end

namespace Setting

variable {α : Type} {s v : Setting} {way : List String} {key : String}

/-! ### Values and tables -/

theorem exists_readMembers {entries : List (String × Setting)} {members : List (String × Json)}
    (read : readMembers entries = .ok members) (found : entries.lookup key = some v) :
    ∃ j, v.readJson = .ok j ∧ members.lookup key = some j := by
  induction entries generalizing members with
  | nil => cases found
  | cons entry rest ih =>
      obtain ⟨k, s⟩ := entry
      rw [readMembers] at read
      split at read
      · cases read
      · rename_i j value
        obtain ⟨members, more, rfl⟩ := except_map_eq_ok_iff.mp read
        rw [List.lookup_cons] at found ⊢
        split at found
        · cases found
          exact ⟨j, value, rfl⟩
        · exact ih more found

/-- What is read as JSON is read so in each of its parts. -/
theorem readJson_at? {j : Json} (read : s.readJson = .ok j) (found : s.at? way = some v) :
    ∃ j', v.readJson = .ok j' ∧ j.follow? way = some j' := by
  induction way generalizing s j with
  | nil =>
      cases found
      exact ⟨j, read, rfl⟩
  | cons key rest ih =>
      obtain ⟨l, entries, inner, rfl, stands, reached⟩ := exists_table_of_at? found
      rw [readJson, except_mapError_eq_ok_iff] at read
      obtain ⟨members, more, rfl⟩ := except_map_eq_ok_iff.mp read
      obtain ⟨j, value, mine⟩ := exists_readMembers more stands
      obtain ⟨j', leaf, followed⟩ := ih value reached
      refine ⟨j', leaf, ?_⟩
      rw [Json.follow?, Json.get?, mine]
      exact followed

/-- A table is read entry by entry. -/
theorem exists_readTable {read : Reads α} {l : Layer} {entries : List (String × Setting)}
    {xs : List (String × α)} (done : readTable read (table l entries) = .ok xs)
    (found : entries.lookup key = some v) : ∃ x, read v = .ok x ∧ xs.lookup key = some x := by
  rw [readTable, except_mapError_eq_ok_iff] at done
  induction entries generalizing xs with
  | nil => cases found
  | cons entry rest ih =>
      obtain ⟨k, s⟩ := entry
      rw [List.mapM_cons] at done
      obtain ⟨⟨k', x⟩, first, done⟩ := except_bind_eq_ok_iff.mp done
      obtain ⟨more, all, done⟩ := except_bind_eq_ok_iff.mp done
      obtain ⟨x', value, same⟩ := except_map_eq_ok_iff.mp (except_mapError_eq_ok_iff.mp first)
      cases same
      cases done
      simp only [List.lookup_cons] at found ⊢
      split at found
      · cases found
        exact ⟨x, value, rfl⟩
      · exact ih all found

/-! ### Records -/

/-- The fields of a record: setting one gives what is read for it, and leaves the others as they are. -/
structure Fields (known : List String) (set : String → Setting → α → Except Error α)
    (get : α → String → Option Json) (Holds : String → Setting → Json → Prop) : Prop where
  distinct : known.Nodup
  own {key : String} {s : Setting} {a a' : α} (mine : key ∈ known) (done : set key s a = .ok a') :
    ∃ j, get a' key = some j ∧ Holds key s j
  other {key key' : String} {s : Setting} {a a' : α} (mine : key' ∈ known) (apart : key ≠ key')
    (done : set key' s a = .ok a') : get a' key = get a key

/-- What a record says of one of its fields: a table by its key, and a sequence by its position. -/
def field? (known : List String) (key : String) : Setting → Option Setting
  | table _ entries => if key ∈ known then entries.lookup key else none
  | sequence _ items => (known.zip items).lookup key
  | _ => none

namespace Fields

variable {known : List String} {set : String → Setting → α → Except Error α}
  {get : α → String → Option Json} {Holds : String → Setting → Json → Prop} {isStrict : Bool} {a a' : α}

theorem setFields_of_lookup_none (fields : Fields known set get Holds) {entries : List (String × Setting)}
    (done : setFields known isStrict set a entries = .ok a') (absent : entries.lookup key = none) :
    get a' key = get a key := by
  induction entries generalizing a with
  | nil =>
      cases done
      rfl
  | cons entry rest ih =>
      obtain ⟨k, s⟩ := entry
      rw [List.lookup_cons] at absent
      split at absent
      · cases absent
      · rename_i apart
        rw [setFields] at done
        split at done
        · split at done
          · cases done
          · exact ih done absent
        · rename_i mine
          split at done
          · cases done
          · rename_i a₁ first
            rw [ih done absent, fields.other (by simpa using mine) (ne_of_beq_false apart) first]

/-- What is read for a field of a table is what the one entry with its key says. -/
theorem setFields (fields : Fields known set get Holds) {entries : List (String × Setting)}
    (ascending : Ascending entries) (done : setFields known isStrict set a entries = .ok a')
    (mine : key ∈ known) (found : entries.lookup key = some v) : ∃ j, get a' key = some j ∧ Holds key v j := by
  induction entries generalizing a with
  | nil => cases found
  | cons entry rest ih =>
      obtain ⟨k, s⟩ := entry
      rw [Setting.setFields] at done
      rw [List.lookup_cons] at found
      split at found
      · rename_i same
        cases found
        obtain rfl := beq_iff_eq.mp same
        rw [if_neg (by simpa using mine)] at done
        split at done
        · cases done
        · rename_i a₁ first
          obtain ⟨j, stands, holds⟩ := fields.own mine first
          exact ⟨j, by rw [fields.setFields_of_lookup_none done ascending.lookup_tail, stands], holds⟩
      · split at done
        · split at done
          · cases done
          · exact ih ascending.tail done found
        · split at done
          · cases done
          · exact ih ascending.tail done found

theorem setItems_of_not_mem (fields : Fields known set get Holds) {name : String} {required size index : Nat}
    {keys : List String} (inside : ∀ key ∈ keys, key ∈ known) {items : List Setting}
    (done : setItems name required size index set a keys items = .ok a') (absent : key ∉ keys) :
    get a' key = get a key := by
  induction keys generalizing a items index with
  | nil =>
      cases done
      rfl
  | cons k rest ih =>
      rw [List.mem_cons, not_or] at absent
      obtain ⟨apart, absent⟩ := absent
      obtain ⟨mine, inside⟩ := List.forall_mem_cons.mp inside
      cases items with
      | nil =>
          rw [setItems] at done
          split at done <;> cases done
          rfl
      | cons s items =>
          rw [setItems] at done
          split at done
          · cases done
          · rename_i a₁ first
            rw [ih inside done absent, fields.other mine apart first]

/-- What is read for a field of a sequence is what stands in its place. -/
theorem setItems (fields : Fields known set get Holds) {name : String} {required size index : Nat}
    {keys : List String} (inside : ∀ key ∈ keys, key ∈ known) (distinct : keys.Nodup) {items : List Setting}
    (done : setItems name required size index set a keys items = .ok a')
    (found : (keys.zip items).lookup key = some v) : ∃ j, get a' key = some j ∧ Holds key v j := by
  induction keys generalizing a items index with
  | nil => cases found
  | cons k rest ih =>
      obtain ⟨mine, later⟩ := List.forall_mem_cons.mp inside
      obtain ⟨fresh, others⟩ := List.nodup_cons.mp distinct
      cases items with
      | nil => cases found
      | cons s items =>
          rw [Setting.setItems] at done
          split at done
          · cases done
          · rename_i a₁ first
            rw [List.zip_cons_cons, List.lookup_cons] at found
            split at found
            · rename_i same
              cases found
              obtain rfl := beq_iff_eq.mp same
              obtain ⟨j, stands, holds⟩ := fields.own mine first
              exact ⟨j, by rw [fields.setItems_of_not_mem later done fresh, stands], holds⟩
            · exact ih later others done found

/-- **What is read for a field of a record is what the record says of it.** -/
theorem readRecord (fields : Fields known set get Holds) {name : String} {required : Nat} (sorted : s.Sorted)
    (done : readRecord name known required isStrict set a s = .ok a') (found : s.field? known key = some v) :
    ∃ j, get a' key = some j ∧ Holds key v j := by
  cases s with
  | table l entries =>
      rw [field?] at found
      split at found
      · rename_i mine
        rw [Setting.readRecord, except_mapError_eq_ok_iff] at done
        split at done
        · cases done
        · rename_i a₁ all
          split at done
          · cases done
          · cases done
            exact fields.setFields sorted.ascending all mine found
      · cases found
  | sequence l items =>
      rw [Setting.readRecord, except_mapError_eq_ok_iff] at done
      exact fields.setItems (fun _ member => member) fields.distinct done found
  | _ => cases found

end Fields

/-! ### Leaves -/

theorem readText_readJson {x : String} (read : s.readText = .ok x) : s.readJson = .ok (.text x) := by
  cases s with
  | text l y =>
      cases read
      rw [readJson]
  | _ => cases read

theorem readNat_readJson {name : String} {bits n : Nat} (read : readNat name bits s = .ok n)
    (small : bits ≤ 64) : s.readJson = .ok (.nat n) := by
  have bound : Nat.pow 2 bits ≤ Nat.pow 2 64 := Nat.pow_le_pow_right (by decide) small
  cases s with
  | number l number =>
      cases number with
      | unsigned m =>
          rw [readNat] at read
          split at read
          · rename_i fits
            cases read
            rw [readJson, if_pos (lt_of_lt_of_le fits bound)]
          · cases read
      | signed m =>
          rw [readNat] at read
          split at read
          · rename_i fits
            cases read
            have positive : -(Nat.pow 2 63 : Int) ≤ m := le_trans (by decide) fits.1
            rw [readJson, if_pos positive, Json.nat, Int.toNat_of_nonneg fits.1]
          · cases read
      | float x => cases read
  | _ => cases read

/-- What may be left out is a null, or what is read. -/
theorem readOption_readJson {read : Reads α} {f : α → Json} {x : Option α} (done : s.readOption read = .ok x)
    (leaf : ∀ a, read s = .ok a → s.readJson = .ok (f a)) : s.readJson = .ok (Json.ofOption f x) := by
  have present (other : ∀ l, s ≠ .unit l) (done : (read s).map some = .ok x) :
      s.readJson = .ok (Json.ofOption f x) := by
    obtain ⟨a, value, rfl⟩ := except_map_eq_ok_iff.mp done
    exact leaf a value
  cases s with
  | unit l =>
      cases done
      rw [readJson, Json.ofOption]
  | _ => exact present (fun _ => nofun) done

end Setting

/-! ### Configurations -/

/-- Every setting of the server is a leaf. -/
theorem ServerConfig.fields : Setting.Fields keys set (fun c key => c.toJson.get? key)
    (fun _ s j => s.readJson = .ok j) where
  distinct := by decide
  own {key s a a'} mine done := by
    simp only [keys, List.mem_cons, List.not_mem_nil, or_false] at mine
    rcases mine with rfl | rfl | rfl | rfl
    all_goals
      obtain ⟨x, read, rfl⟩ := except_map_eq_ok_iff.mp done
    · exact ⟨.text x, rfl, Setting.readText_readJson read⟩
    · exact ⟨.nat x, rfl, Setting.readNat_readJson read (by decide)⟩
    · exact ⟨.text x, rfl, Setting.readText_readJson read⟩
    · exact ⟨.nat x, rfl, Setting.readNat_readJson read (by decide)⟩
  other {key key' s a a'} mine apart done := by
    simp only [keys, List.mem_cons, List.not_mem_nil, or_false] at mine
    rcases mine with rfl | rfl | rfl | rfl
    all_goals
      obtain ⟨x, -, rfl⟩ := except_map_eq_ok_iff.mp done
      simp only [toJson, Json.get?, List.lookup_cons, beq_false_of_ne apart]

/-- So is every field of a section of logging. -/
theorem Logging.Section.fields : Setting.Fields keys set (fun c key => c.toJson.get? key)
    (fun _ s j => s.readJson = .ok j) where
  distinct := by decide
  own {key s a a'} mine done := by
    simp only [keys, List.mem_cons, List.not_mem_nil, or_false] at mine
    rcases mine with rfl | rfl | rfl | rfl | rfl | rfl
    all_goals
      obtain ⟨x, read, rfl⟩ := except_map_eq_ok_iff.mp done
    · exact ⟨.text x, rfl, Setting.readText_readJson read⟩
    · exact ⟨.text x, rfl, Setting.readText_readJson read⟩
    · exact ⟨.text x, rfl, Setting.readText_readJson read⟩
    all_goals
      exact ⟨Json.ofOption Json.nat x, rfl, Setting.readOption_readJson read fun n value =>
        Setting.readNat_readJson value (by decide)⟩
  other {key key' s a a'} mine apart done := by
    simp only [keys, List.mem_cons, List.not_mem_nil, or_false] at mine
    rcases mine with rfl | rfl | rfl | rfl | rfl | rfl
    all_goals
      obtain ⟨x, -, rfl⟩ := except_map_eq_ok_iff.mp done
      simp only [toJson, Json.get?, List.lookup_cons, beq_false_of_ne apart]

theorem Logging.Config.get?_toJson (c : Logging.Config) (name : String) :
    c.toJson.get? name = (c.lookup name).map Logging.Section.toJson := by
  rw [toJson, Json.get?]
  induction c with
  | nil => rfl
  | cons entry rest ih =>
      rw [List.map_cons, List.lookup_cons, List.lookup_cons]
      cases name == entry.1
      · exact ih
      · rfl

namespace AppConfig

/-- How the parts of a configuration are read. -/
def Part (key : String) (s : Setting) (j : Json) : Prop :=
  match key with
  | "server" => ∃ x, ServerConfig.ofSetting s = .ok x ∧ j = x.toJson
  | "logging" => ∃ x, s.readOption Logging.Config.ofSetting = .ok x ∧ j = Json.ofOption Logging.Config.toJson x
  | "modules_dir" => ∃ x, s.readOption Setting.readText = .ok x ∧ j = Json.ofOption Json.text x
  | _ => ∃ x, Setting.readTable Setting.readJson s = .ok x ∧ j = .object x

theorem fields : Setting.Fields keys set (fun c key => c.toJson.get? key) Part where
  distinct := by decide
  own {key s a a'} mine done := by
    simp only [keys, List.mem_cons, List.not_mem_nil, or_false] at mine
    rcases mine with rfl | rfl | rfl | rfl
    all_goals
      obtain ⟨x, read, rfl⟩ := except_map_eq_ok_iff.mp done
    all_goals exact ⟨_, rfl, x, read, rfl⟩
  other {key key' s a a'} mine apart done := by
    simp only [keys, List.mem_cons, List.not_mem_nil, or_false] at mine
    rcases mine with rfl | rfl | rfl | rfl
    all_goals
      obtain ⟨x, -, rfl⟩ := except_map_eq_ok_iff.mp done
      simp only [toJson, Json.get?, List.lookup_cons, beq_false_of_ne apart]

/-- What settings say of a leaf of the configuration.  The leaves are the settings of the server, the fields of
the sections of logging, the folder of modules, and all that is said for modules. -/
def leafAt? (s : Setting) : List String → Option Setting
  | ["server", key] => (s.at? ["server"]).bind (Setting.field? ServerConfig.keys key)
  | ["logging", name, key] => (s.at? ["logging", name]).bind (Setting.field? Logging.Section.keys key)
  | ["modules_dir"] => s.at? ["modules_dir"]
  | "modules" :: module :: rest => s.at? ("modules" :: module :: rest)
  | _ => none

section

variable {s v : Setting} {way : List String} {c : AppConfig}

/-- What a record says of a field stands in every setting in which its leaves do. -/
theorem field?_of_at? {s' : Setting} (stands : ∀ way v, s.at? way = some v → v.isTable = false → s'.at? way = some v)
    {known : List String} {key : String}
    (found : (s.at? way).bind (Setting.field? known key) = some v) (leaf : v.isTable = false) :
    (s'.at? way).bind (Setting.field? known key) = some v := by
  obtain ⟨record, reached, found⟩ := Option.bind_eq_some_iff.mp found
  cases record with
  | table l entries =>
      rw [Setting.field?] at found
      split at found
      · rename_i mine
        -- The leaf stands, so there are tables on the way to it.
        have inner := stands (way ++ [key]) v (by rw [Setting.at?_append, reached]; simp [Setting.at?, found]) leaf
        rw [Setting.at?_append] at inner
        obtain ⟨record', reached', inner⟩ := Option.bind_eq_some_iff.mp inner
        obtain ⟨l', entries', v', rfl, found', same⟩ := Setting.exists_table_of_at? inner
        cases same
        rw [reached', Option.bind_some, Setting.field?, if_pos mine, found']
      · cases found
  | sequence l items => rw [stands way _ reached rfl, Option.bind_some, found]
  | _ => cases found

/-- So does a leaf of a configuration. -/
theorem leafAt?_of_at? {s' : Setting} (stands : ∀ way v, s.at? way = some v → v.isTable = false → s'.at? way = some v)
    (found : leafAt? s way = some v) (leaf : v.isTable = false) : leafAt? s' way = some v := by
  unfold leafAt? at found ⊢
  split at found
  · exact field?_of_at? stands found leaf
  · exact field?_of_at? stands found leaf
  · exact stands _ v found leaf
  · exact stands _ v found leaf
  · cases found

/-- A part of a configuration is read from the entry with its key. -/
theorem ofSetting_part {key : String} (sorted : s.Sorted) (read : ofSetting s = .ok c) (known : key ∈ keys)
    (found : s.at? [key] = some v) : ∃ j, c.toJson.get? key = some j ∧ Part key v j := by
  obtain ⟨l, entries, inner, rfl, stands, reached⟩ := Setting.exists_table_of_at? found
  cases reached
  exact fields.readRecord sorted read (by rw [Setting.field?, if_pos known, stands])

/-- **A configuration has the leaves of the settings from which it is read.** -/
theorem ofSetting_leafAt? (sorted : s.Sorted) (read : ofSetting s = .ok c) (found : leafAt? s way = some v) :
    ∃ j, v.readJson = .ok j ∧ c.toJson.follow? way = some j := by
  unfold leafAt? at found
  split at found
  -- A setting of the server.
  case h_1 key =>
    obtain ⟨record, reached, found⟩ := Option.bind_eq_some_iff.mp found
    obtain ⟨j, stands, part⟩ := ofSetting_part sorted read (by decide) reached
    obtain ⟨x, inner, rfl⟩ := part
    obtain ⟨j, mine, leaf⟩ := ServerConfig.fields.readRecord (sorted.at? reached) inner found
    refine ⟨j, leaf, ?_⟩
    rw [Json.follow?, stands, Option.bind_some, Json.follow?, mine]
    rfl
  -- A field of a section of logging, which stands among other sections that may be left out altogether.
  case h_2 name key =>
    obtain ⟨record, reached, field⟩ := Option.bind_eq_some_iff.mp found
    obtain ⟨bag, first, named⟩ := Setting.exists_at?_cons reached
    obtain ⟨l, entries, record, rfl, mine, same⟩ := Setting.exists_table_of_at? named
    cases same
    obtain ⟨j, stands, part⟩ := ofSetting_part sorted read (by decide : "logging" ∈ keys) first
    obtain ⟨x, inner, rfl⟩ := part
    obtain ⟨config, all, rfl⟩ := except_map_eq_ok_iff.mp inner
    obtain ⟨x, one, listed⟩ := Setting.exists_readTable all mine
    obtain ⟨j, mine, leaf⟩ := Logging.Section.fields.readRecord (sorted.at? reached) one field
    refine ⟨j, leaf, ?_⟩
    rw [Json.follow?, stands, Option.bind_some, Json.follow?, Json.ofOption, Logging.Config.get?_toJson, listed,
      Option.map_some, Option.bind_some, Json.follow?, mine]
    rfl
  -- The folder of modules.
  case h_3 =>
    obtain ⟨j, stands, part⟩ := ofSetting_part sorted read (by decide) found
    obtain ⟨x, inner, rfl⟩ := part
    refine ⟨_, Setting.readOption_readJson inner fun _ value => Setting.readText_readJson value, ?_⟩
    rw [Json.follow?, stands]
    rfl
  -- What is said for a module is read as it stands.
  case h_4 module rest =>
    obtain ⟨bag, first, named⟩ := Setting.exists_at?_cons found
    obtain ⟨l, entries, inner, rfl, mine, reached⟩ := Setting.exists_table_of_at? named
    obtain ⟨j, stands, part⟩ := ofSetting_part sorted read (by decide : "modules" ∈ keys) first
    obtain ⟨modules, all, rfl⟩ := part
    obtain ⟨j, value, listed⟩ := Setting.exists_readTable all mine
    obtain ⟨j', leaf, followed⟩ := Setting.readJson_at? value reached
    refine ⟨j', leaf, ?_⟩
    rw [Json.follow?, stands, Option.bind_some, Json.follow?, Json.get?, listed]
    exact followed
  case h_5 => cases found

end

/-! ### Files of modules -/

/-- The file that is the last one for a module. -/
def lastFile? (entries : List FolderEntry) (module : String) : Option FolderEntry :=
  entries.reverse.find? fun f => moduleOf? f.1 == some module

/-- The file that speaks for a module, under its whole path. -/
def moduleFile? (c : AppConfig) (folder : String → Folder) (module : String) : Option FolderEntry :=
  c.modulesDir.bind fun dir =>
    match folder dir with
    | .files entries => (lastFile? entries module).map fun f => (joinPath dir f.1, f.2)
    | _ => none

section

variable {path dir : String} {file : Option (String × String)} {environment : List (String × String)}
  {entries : List FolderEntry} {folder : String → Folder} {c c' : AppConfig}

theorem lastFile?_cons (f : FolderEntry) (rest : List FolderEntry) (module : String) :
    lastFile? (f :: rest) module =
      (lastFile? rest module).or (if moduleOf? f.1 = some module then some f else none) := by
  rw [lastFile?, List.reverse_cons, List.find?_append, ← lastFile?]
  by_cases mine : moduleOf? f.1 = some module <;> simp [mine]

theorem addModules_cons (dir : String) (c : AppConfig) (name : String) (content : Except String String)
    (rest : List FolderEntry) :
    addModules dir c ((name, content) :: rest) =
      match moduleOf? name with
      | none => addModules dir c rest
      | some module =>
        match readModule (joinPath dir name) content with
        | .error e => .error e
        | .ok j => addModules dir { c with modules := Json.insert module j c.modules } rest := by
  rfl

/-- Of the files of a folder, the last one for a module says all there is to say for it. -/
theorem addModules_cases (added : addModules dir c entries = .ok c') :
    ∃ modules, c' = { c with modules := modules } ∧
      ∀ module, (lastFile? entries module = none → modules.lookup module = c.modules.lookup module) ∧
        ∀ f, lastFile? entries module = some f →
          ∃ j, readModule (joinPath dir f.1) f.2 = .ok j ∧ modules.lookup module = some j := by
  induction entries generalizing c with
  | nil =>
      cases added
      exact ⟨c'.modules, rfl, fun module => ⟨fun _ => rfl, fun f absent => by cases absent⟩⟩
  | cons first rest ih =>
      obtain ⟨name, content⟩ := first
      rw [addModules_cons] at added
      simp only [lastFile?_cons]
      cases owner : moduleOf? name with
      | none =>
          simp only [owner] at added
          simpa using ih added
      | some mine =>
          simp only [owner] at added
          cases said : readModule (joinPath dir name) content with
          | error e => simp [said] at added
          | ok j =>
              simp only [said] at added
              obtain ⟨modules, rfl, later⟩ := ih added
              refine ⟨modules, rfl, fun module => ?_⟩
              obtain ⟨unsaid, last⟩ := later module
              cases behind : lastFile? rest module with
              -- A later file for the module replaces what this one says.
              | some f =>
                  simp only [Option.some_or, reduceCtorEq, false_imp_iff, true_and]
                  exact fun f' same => last f' (behind.trans same)
              | none =>
                  have now : modules.lookup module = (Json.insert mine j c.modules).lookup module := unsaid behind
                  by_cases same : mine = module
                  · subst same
                    rw [Json.insertion_insert.lookup_self] at now
                    simp [said, now]
                  · rw [Json.insertion_insert.lookup_of_ne (Ne.symm same)] at now
                    simp [same, now]

/-- A configuration is another one with what the files of modules say. -/
structure Completes (c' : AppConfig) (folder : String → Folder) (c : AppConfig) : Prop where
  others : ∃ modules, c' = { c with modules := modules }
  silent {module : String} (absent : c'.moduleFile? folder module = none) :
    c'.modules.lookup module = c.modules.lookup module
  last {module place : String} {content : Except String String}
    (found : c'.moduleFile? folder module = some (place, content)) :
    ∃ j, readModule place content = .ok j ∧ c'.modules.lookup module = some j

theorem Completes.refl (silent : ∀ module, c.moduleFile? folder module = none) : c.Completes folder c where
  others := ⟨c.modules, rfl⟩
  silent _ := rfl
  last {module place content} found := by
    rw [silent module] at found
    cases found

/-- A configuration that is loaded is that of the layers, but for the modules with files. -/
theorem load_cases (loaded : load path file environment folder = .ok c) :
    ∃ c₀, ofLayers path file environment = .ok c₀ ∧ c.Completes folder c₀ := by
  rw [load] at loaded
  split at loaded
  · cases loaded
  · rename_i c₀ layers
    refine ⟨c₀, layers, ?_⟩
    split at loaded
    · rename_i unnamed
      cases loaded
      exact .refl fun module => by rw [moduleFile?, unnamed, Option.bind_none]
    · rename_i dir named
      cases place : folder dir with
      | missing =>
          rw [place] at loaded
          cases loaded
          refine .refl fun module => ?_
          rw [moduleFile?, named, Option.bind_some, place]
      | unlisted reason =>
          rw [place] at loaded
          cases loaded
      | files entries =>
          rw [place] at loaded
          obtain ⟨modules, rfl, each⟩ := addModules_cases loaded
          refine ⟨⟨modules, rfl⟩, fun {module} absent => ?_, fun {module _ _} found => ?_⟩
          · simp only [moduleFile?, named, place, Option.bind_some, Option.map_eq_none_iff] at absent
            exact (each module).1 absent
          · simp only [moduleFile?, named, place, Option.bind_some, Option.map_eq_some_iff] at found
            obtain ⟨f, mine, ⟨⟩⟩ := found
            exact (each module).2 f mine

/-- The layers are the defaults, the settings file, and the variables. -/
theorem ofLayers_cases (read : ofLayers path file environment = .ok c) :
    ∃ s : Setting, s.Sorted ∧
      ofSetting ((defaults.overlay s).overlay (Setting.ofVariables variableStart environment)) = .ok c := by
  unfold ofLayers at read
  cases file with
  | none => exact ⟨_, Setting.sorted_empty .defaults, except_mapError_eq_ok_iff.mp read⟩
  | some file =>
      obtain ⟨s, said, read⟩ := except_bind_eq_ok_iff.mp (except_mapError_eq_ok_iff.mp read)
      exact ⟨s, Setting.sorted_ofYaml (except_mapError_eq_ok_iff.mp said), read⟩

theorem sorted_defaults : defaults.Sorted := by
  have leaf {s : Setting} (single : s.isTable = false) : s.Sorted := Setting.sorted_of_leaf single
  have server : Setting.Sorted (.table .defaults
      [("host", .text .defaults "127.0.0.1"), ("log_dir", .text .defaults ""),
        ("port", .number .defaults (.unsigned 8080)),
        ("shutdown_timeout_sec", .number .defaults (.unsigned 0))]) := by
    refine .of_forall_mem (by unfold Setting.Ascending; decide +kernel) ?_
    simp only [List.forall_mem_cons]
    exact ⟨leaf rfl, leaf rfl, leaf rfl, leaf rfl, nofun⟩
  refine .of_forall_mem (by unfold Setting.Ascending; decide +kernel) ?_
  simp only [List.forall_mem_cons]
  exact ⟨leaf rfl, Setting.sorted_empty _, leaf rfl, server, nofun⟩

end

variable {s : Setting} {way : List String} {c c' : AppConfig} {folder : String → Folder}

/-- The leaves of a configuration, with what the files of modules say. -/
theorem Completes.follow? (completes : c'.Completes folder c) {v : Setting} (leaf : leafAt? s way = some v) :
    ((∀ module rest, way = "modules" :: module :: rest → c'.moduleFile? folder module = none) →
      c'.toJson.follow? way = c.toJson.follow? way) ∧
    ∀ module rest place content, way = "modules" :: module :: rest →
      c'.moduleFile? folder module = some (place, content) →
        ∃ j, readModule place content = .ok j ∧ c'.toJson.follow? way = j.follow? rest := by
  have follow (c : AppConfig) (module : String) (rest : List String) :
      c.toJson.follow? ("modules" :: module :: rest) = (c.modules.lookup module).bind (Json.follow? rest) := rfl
  constructor
  · intro silent
    unfold leafAt? at leaf
    split at leaf
    case h_4 module rest => rw [follow, follow, completes.silent (silent module rest rfl)]
    case h_5 => cases leaf
    all_goals
      obtain ⟨modules, rfl⟩ := completes.others
      rfl
  · rintro module rest place content rfl found
    obtain ⟨j, read, stands⟩ := completes.last found
    exact ⟨j, read, by rw [follow, stands, Option.bind_some]⟩

/-- **A leaf that a variable sets stands**, whatever the defaults and the settings file say of it, if no later
variable addresses a part of what it sets, or what this is a part of; but not in a module with a file.  There
the last file for the module says all there is to say, whatever the variable sets. -/
theorem load_variable {path name value : String} {file : Option (String × String)}
    {before after : List (String × String)} {p : List String}
    (loaded : load path file (before ++ (name, value) :: after) folder = .ok c)
    (addressed : Setting.path? variableStart name = some p)
    (alone : ∀ other ∈ after, ∀ p', Setting.path? variableStart other.1 = some p' → ¬p <+: p' ∧ ¬p' <+: p)
    (sets : leafAt? (Setting.nest (.environment variableStart)
      (Setting.parse (.environment variableStart) value) p) way = some s) (leaf : s.isTable = false) :
    ((∀ module rest, way = "modules" :: module :: rest → c.moduleFile? folder module = none) →
      ∃ j, s.readJson = .ok j ∧ c.toJson.follow? way = some j) ∧
    ∀ module rest place content, way = "modules" :: module :: rest →
      c.moduleFile? folder module = some (place, content) →
        ∃ j, readModule place content = .ok j ∧ c.toJson.follow? way = j.follow? rest := by
  obtain ⟨c₀, layers, completes⟩ := load_cases loaded
  obtain ⟨main, sorted, read⟩ := ofLayers_cases layers
  have said := Setting.sorted_ofVariables variableStart (before ++ (name, value) :: after)
  have stands : leafAt? ((defaults.overlay main).overlay
      (Setting.ofVariables variableStart (before ++ (name, value) :: after))) way = some s := by
    refine leafAt?_of_at? (fun way v found leaf => ?_) sets leaf
    exact Setting.at?_overlay said (Setting.at?_ofVariables addressed alone found leaf) leaf _
  obtain ⟨j, value, followed⟩ := ofSetting_leafAt? ((sorted_defaults.overlay sorted).overlay said) read stands
  obtain ⟨same, last⟩ := completes.follow? stands
  exact ⟨fun silent => ⟨j, value, by rw [same silent, followed]⟩, last⟩

/-- With a file for another module only, a module has what the variable sets. -/
theorem load_limits_stands :
    ∃ c, load "app.yaml" none [("APP__MODULES__LIMITS__X", "true"), ("APP__MODULES_DIR", "\"m\"")]
        (fun _ => .files [("other.yaml", .ok "")]) = .ok c ∧
      c.toJson.follow? ["modules", "limits", "x"] = some (.bool true) := by
  let l := Setting.Layer.environment variableStart
  let way := ["modules", "limits", "x"]
  let environment := [] ++ ("APP__MODULES__LIMITS__X", "true") :: [("APP__MODULES_DIR", "\"m\"")]
  let folder : String → Folder := fun _ => .files [("other.yaml", .ok "")]
  obtain ⟨c, loaded⟩ : ∃ c, load "app.yaml" none environment folder = .ok c := by
    have fine : (load "app.yaml" none environment folder).toOption.isSome = true := by decide +kernel
    obtain ⟨c, loaded⟩ := Option.isSome_iff_exists.mp fine
    exact ⟨c, except_toOption_eq_some_iff.mp loaded⟩
  have addressed : Setting.path? variableStart "APP__MODULES__LIMITS__X" = some way := by decide +kernel
  have elsewhere : Setting.path? variableStart "APP__MODULES_DIR" = some ["modules_dir"] := by decide +kernel
  have alone : ∀ other ∈ [("APP__MODULES_DIR", "\"m\"")], ∀ p', Setting.path? variableStart other.1 = some p' →
      ¬way <+: p' ∧ ¬p' <+: way := by
    intro other member p' found
    rw [List.mem_singleton.mp member, elsewhere] at found
    cases found
    decide
  have sets : leafAt? (Setting.nest l (Setting.parse l "true") way) way = some (.bool l true) := rfl
  have silent : lastFile? [("other.yaml", .ok "")] "limits" = none := by decide +kernel
  obtain ⟨j, value, followed⟩ := (load_variable loaded addressed alone sets rfl).1 (by
    intro module rest same
    obtain ⟨rfl, -⟩ := List.cons.inj (List.cons.inj same).2
    simp [moduleFile?, folder, silent])
  cases value
  exact ⟨c, loaded, followed⟩

/-- With a file for the module, it has what the file says, and the variable is lost. -/
theorem load_limits_lost :
    let l := Setting.Layer.environment variableStart
    let way := ["modules", "limits", "x"]
    Setting.path? variableStart "APP__MODULES__LIMITS__X" = some way ∧
      leafAt? (Setting.nest l (Setting.parse l "true") way) way = some (.bool l true) ∧
      Setting.readJson (.bool l true) = .ok (.bool true) ∧
      ∃ c, load "app.yaml" none [("APP__MODULES__LIMITS__X", "true"), ("APP__MODULES_DIR", "\"m\"")]
          (fun _ => .files [("limits.yaml", .ok "x: false")]) = .ok c ∧
        c.toJson.follow? way = some (.bool false) := by
  intro l way
  have addressed : Setting.path? variableStart "APP__MODULES__LIMITS__X" = some way := by decide +kernel
  let loading := load "app.yaml" none [("APP__MODULES__LIMITS__X", "true"), ("APP__MODULES_DIR", "\"m\"")]
    (fun _ => .files [("limits.yaml", .ok "x: false")])
  have lost : (loading.toOption.bind fun c => (c.toJson.follow? way).bind Json.bool?) = some false := by
    decide +kernel
  obtain ⟨c, loaded, found⟩ := Option.bind_eq_some_iff.mp lost
  obtain ⟨j, followed, flag⟩ := Option.bind_eq_some_iff.mp found
  cases j with
  | bool b =>
      cases flag
      exact ⟨addressed, rfl, by rw [Setting.readJson], c, except_toOption_eq_some_iff.mp loaded, followed⟩
  | _ => cases flag

end AppConfig

end HandlerChain
