import HandlerChain.Proofs.Environment
import Mathlib.Data.List.Perm.Basic

/-!
# The order of the files of modules

A folder lists its files in an order of its own.  Loading a configuration reads all files of modules in this order,
so whether it fails does not depend on the order: it fails if some file cannot be read.  Otherwise each file replaces
what was said for its module.  For different modules this can be done in either order.  For one module the last file
counts, and a module may have several files, since the extension comes in two spellings and any case of letters.

So all orders of a folder give the same result exactly if the files for one module say the same.

## Main Definitions

* `Folder.Alike` relates two listings of one folder.
* `AppConfig.Readable` says that all files of modules can be read, `AppConfig.Agree` that those for one module say
  the same.

## Main Results

* `AppConfig.exists_addModules_iff`: whether loading succeeds is decided by the files one by one.
* `AppConfig.addModules_perm`: files that agree are added in any order.
* `AppConfig.load_listing_iff`: when the order of a folder does not matter, and what depends on it where it does.
* `AppConfig.load_listing_decides`: for two files of one module the order decides.
-/

namespace HandlerChain

/-- Two listings of one folder. -/
inductive Folder.Alike : Folder → Folder → Prop where
  | missing : Alike .missing .missing
  | unlisted (reason : String) : Alike (.unlisted reason) (.unlisted reason)
  | files {entries entries' : List FolderEntry} (perm : entries'.Perm entries) :
      Alike (.files entries) (.files entries')

theorem Folder.Alike.refl (folder : Folder) : folder.Alike folder := by
  cases folder with
  | missing => exact .missing
  | unlisted reason => exact .unlisted reason
  | files entries => exact .files (.refl entries)

namespace AppConfig

/-- What a file of a folder says, if it can be read. -/
def said? (dir : String) (f : FolderEntry) : Option Json := (readModule (joinPath dir f.1) f.2).toOption

/-- All files of modules in a folder can be read. -/
def Readable (dir : String) (entries : List FolderEntry) : Prop :=
  ∀ f ∈ entries, (moduleOf? f.1).isSome → (said? dir f).isSome

/-- The files for a module say the same. -/
def Agree (dir : String) (entries : List FolderEntry) (module : String) : Prop :=
  ∀ f ∈ entries, ∀ g ∈ entries, moduleOf? f.1 = some module → moduleOf? g.1 = some module →
    said? dir f = said? dir g

section

variable {dir : String} {entries entries' rest : List FolderEntry} {c c' : AppConfig} {f g : FolderEntry}

/-! ### Adding files one by one -/

/-- A file that is not for a module is passed by. -/
theorem addModules_cons_other (other : moduleOf? f.1 = none) :
    addModules dir c (f :: rest) = addModules dir c rest := by
  rw [addModules_cons, other]

/-- A file for a module replaces what was said for it, and if it cannot be read nothing is loaded. -/
theorem toOption_addModules_cons {module : String} (mine : moduleOf? f.1 = some module) :
    (addModules dir c (f :: rest)).toOption = (said? dir f).bind fun j =>
      (addModules dir { c with modules := Json.insert module j c.modules } rest).toOption := by
  rw [addModules_cons, mine, said?]
  cases readModule (joinPath dir f.1) f.2 <;> rfl

/-- **Whether loading succeeds is decided by the files one by one.** -/
theorem exists_addModules_iff : (∃ c', addModules dir c entries = .ok c') ↔ Readable dir entries := by
  simp only [← except_toOption_eq_some_iff, ← Option.isSome_iff_exists]
  induction entries generalizing c with
  | nil => exact iff_of_true rfl (List.forall_mem_nil _)
  | cons f rest ih =>
      rw [Readable, List.forall_mem_cons, ← Readable]
      cases owner : moduleOf? f.1 with
      | none => simp [addModules_cons_other owner, ih]
      | some module =>
          rw [toOption_addModules_cons owner]
          cases said? dir f with
          | none => simp
          | some j => simp [ih]

/-- Two files that stand one behind the other may change places, unless they say different things for one module. -/
theorem addModules_swap (agree : ∀ module, Agree dir [f, g] module) :
    (addModules dir c (f :: g :: rest)).toOption = (addModules dir c (g :: f :: rest)).toOption := by
  cases first : moduleOf? f.1 with
  | none =>
      rw [addModules_cons_other first]
      cases second : moduleOf? g.1 with
      | none => rw [addModules_cons_other second, addModules_cons_other second, addModules_cons_other first]
      | some module =>
          rw [toOption_addModules_cons second, toOption_addModules_cons second]
          simp only [addModules_cons_other first]
  | some module =>
      rw [toOption_addModules_cons first]
      cases second : moduleOf? g.1 with
      | none =>
          rw [addModules_cons_other second, toOption_addModules_cons first]
          simp only [addModules_cons_other second]
      | some module' =>
          rw [toOption_addModules_cons second]
          simp only [toOption_addModules_cons first, toOption_addModules_cons second]
          cases value : said? dir f with
          | none => simp
          | some j =>
              cases value' : said? dir g with
              | none => simp
              | some j' =>
                  simp only [Option.bind_some]
                  by_cases same : module = module'
                  · subst same
                    have equal := agree module f (by simp) g (by simp) first second
                    rw [value, value', Option.some.injEq] at equal
                    rw [equal]
                  · rw [Json.insertion_insert.put_comm same]

theorem Agree.mono {module : String} (agree : Agree dir entries module) (subset : entries' ⊆ entries) :
    Agree dir entries' module :=
  fun f member g member' => agree f (subset member) g (subset member')

/-- **Files that agree are added in any order.** -/
theorem addModules_perm (perm : entries'.Perm entries) (agree : ∀ module, Agree dir entries module) :
    (addModules dir c entries').toOption = (addModules dir c entries).toOption := by
  induction perm generalizing c with
  | nil => rfl
  | cons f _ ih =>
      have ih {c : AppConfig} := ih (c := c) fun module => (agree module).mono (List.subset_cons_self _ _)
      cases owner : moduleOf? f.1 with
      | none => rw [addModules_cons_other owner, addModules_cons_other owner, ih]
      | some module => simp only [toOption_addModules_cons owner, ih]
  | swap f g rest =>
      refine addModules_swap fun module => (agree module).mono fun x member => ?_
      rcases List.mem_pair.mp member with rfl | rfl <;> simp
  | trans _ second ih ih' =>
      exact (ih fun module => (agree module).mono second.subset).trans (ih' agree)

theorem readable_perm (perm : entries'.Perm entries) : Readable dir entries' ↔ Readable dir entries :=
  forall_congr' fun f => by rw [perm.mem_iff]

/-! ### The last file of a module -/

theorem lastFile?_eq_some {module : String} (last : lastFile? entries module = some f) :
    f ∈ entries ∧ moduleOf? f.1 = some module := by
  rw [lastFile?] at last
  exact ⟨List.mem_reverse.mp (List.mem_of_find?_eq_some last), by simpa using List.find?_some last⟩

theorem lastFile?_eq_none_iff {module : String} :
    lastFile? entries module = none ↔ ∀ f ∈ entries, moduleOf? f.1 ≠ some module := by
  simp [lastFile?]

/-- A module has what its last file says. -/
theorem lookup_of_lastFile? {module : String} (added : addModules dir c entries = .ok c')
    (last : lastFile? entries module = some f) : c'.modules.lookup module = said? dir f := by
  obtain ⟨modules, rfl, each⟩ := addModules_cases added
  obtain ⟨j, read, found⟩ := (each module).2 f last
  rw [found, said?, read]
  rfl

/-- Two orders of the files leave the same for a module if its files agree. -/
theorem lookup_of_agree {module : String} (perm : entries'.Perm entries) (agree : Agree dir entries module)
    {c₀ : AppConfig} (added : addModules dir c₀ entries = .ok c) (added' : addModules dir c₀ entries' = .ok c') :
    c'.modules.lookup module = c.modules.lookup module := by
  cases last : lastFile? entries module with
  | none =>
      have last' : lastFile? entries' module = none :=
        lastFile?_eq_none_iff.mpr fun f member => lastFile?_eq_none_iff.mp last f (perm.mem_iff.mp member)
      obtain ⟨modules, rfl, each⟩ := addModules_cases added
      obtain ⟨modules', rfl, each'⟩ := addModules_cases added'
      rw [(each module).1 last, (each' module).1 last']
  | some f =>
      obtain ⟨member, mine⟩ := lastFile?_eq_some last
      cases last' : lastFile? entries' module with
      | none => exact absurd mine (lastFile?_eq_none_iff.mp last' f (perm.mem_iff.mpr member))
      | some f' =>
          obtain ⟨member', mine'⟩ := lastFile?_eq_some last'
          rw [lookup_of_lastFile? added last, lookup_of_lastFile? added' last']
          exact agree f' (perm.mem_iff.mp member') f member mine' mine

/-- Any file for a module is the last one in some order. -/
theorem exists_perm_last {module : String} (member : f ∈ entries) (mine : moduleOf? f.1 = some module) :
    ∃ entries', entries'.Perm entries ∧ lastFile? entries' module = some f := by
  refine ⟨entries.erase f ++ [f], ?_, ?_⟩
  · exact (List.perm_append_singleton f _).trans (List.perm_cons_erase member).symm
  · simp [lastFile?, mine]

end

/-! ### Loading -/

section

variable {path dir : String} {file : Option (String × String)} {environment : List (String × String)}
  {entries : List FolderEntry} {folder folder' : String → Folder} {c : AppConfig}

/-- What is loaded where the layers name a folder. -/
theorem load_of_files (layers : ofLayers path file environment = .ok c) (named : c.modulesDir = some dir)
    (place : folder dir = .files entries) : load path file environment folder = addModules dir c entries := by
  simp only [load, layers, named, place, addFolder]

/-- Loading looks at a folder with files, or does not depend on how folders are listed. -/
theorem load_eq_or_files (path : String) (file : Option (String × String)) (environment : List (String × String))
    (alike : ∀ dir, (folder dir).Alike (folder' dir)) :
    load path file environment folder' = load path file environment folder ∨
      ∃ c dir entries entries', ofLayers path file environment = .ok c ∧ c.modulesDir = some dir ∧
        folder dir = .files entries ∧ folder' dir = .files entries' ∧ entries'.Perm entries := by
  cases layers : ofLayers path file environment with
  | error e => exact .inl (by simp only [load, layers])
  | ok c =>
      cases named : c.modulesDir with
      | none => exact .inl (by simp only [load, layers, named])
      | some dir =>
          have alike := alike dir
          generalize place : folder dir = listed at alike
          generalize place' : folder' dir = listed' at alike
          cases alike with
          | missing => exact .inl (by simp only [load, layers, named, place, place'])
          | unlisted reason => exact .inl (by simp only [load, layers, named, place, place'])
          | files perm => exact .inr ⟨c, dir, _, _, rfl, named, place, place', perm⟩

/-- Whether loading fails does not depend on how folders are listed. -/
theorem load_fails_iff_of_alike (alike : ∀ dir, (folder dir).Alike (folder' dir)) :
    (load path file environment folder').toOption = none ↔ (load path file environment folder).toOption = none := by
  rcases load_eq_or_files path file environment alike with
    equal | ⟨c, dir, entries, entries', layers, named, place, place', perm⟩
  · rw [equal]
  · rw [load_of_files layers named place, load_of_files layers named place', ← not_iff_not]
    simp only [← ne_eq, Option.ne_none_iff_exists', except_toOption_eq_some_iff]
    rw [exists_addModules_iff, exists_addModules_iff, readable_perm perm]

/-- How folders are listed shows in the modules at most, and only in those whose files do not agree. -/
theorem load_frame_of_alike {c' : AppConfig} (alike : ∀ dir, (folder dir).Alike (folder' dir))
    (loaded : load path file environment folder = .ok c) (loaded' : load path file environment folder' = .ok c') :
    c' = { c with modules := c'.modules } ∧
      ∀ module, (∀ dir entries, c.modulesDir = some dir → folder dir = .files entries → Agree dir entries module) →
        c'.modules.lookup module = c.modules.lookup module := by
  rcases load_eq_or_files path file environment alike with
    equal | ⟨c₀, dir, entries, entries', layers, named, place, place', perm⟩
  · rw [equal, loaded] at loaded'
    cases loaded'
    exact ⟨rfl, fun _ _ => rfl⟩
  · rw [load_of_files layers named place] at loaded
    rw [load_of_files layers named place'] at loaded'
    obtain ⟨modules, rfl, -⟩ := addModules_cases loaded
    obtain ⟨modules', rfl, -⟩ := addModules_cases loaded'
    exact ⟨rfl, fun module agree => lookup_of_agree perm (agree dir entries named place) loaded loaded'⟩

/-- If all orders of a folder give the same, the files for each module agree: each of them is the last one in some
order. -/
theorem agree_of_load_eq
    (same : ∀ folder', (∀ dir, (folder dir).Alike (folder' dir)) →
      (load path file environment folder').toOption = (load path file environment folder).toOption)
    (layers : ofLayers path file environment = .ok c) (named : c.modulesDir = some dir)
    (place : folder dir = .files entries) (readable : Readable dir entries) (module : String) :
    Agree dir entries module := by
  obtain ⟨loaded, added⟩ : ∃ loaded, addModules dir c entries = .ok loaded := exists_addModules_iff.mpr readable
  -- What is loaded for the module is what any of its files says, since any of them can stand last.
  suffices told : ∀ f ∈ entries, moduleOf? f.1 = some module → loaded.modules.lookup module = said? dir f from
    fun f member g member' mine mine' => (told f member mine).symm.trans (told g member' mine')
  intro f member mine
  obtain ⟨entries', perm, last⟩ := exists_perm_last member mine
  have alike (d : String) : (folder d).Alike (Function.update folder dir (.files entries') d) := by
    rcases eq_or_ne d dir with rfl | other
    · rw [Function.update_self, place]
      exact .files perm
    · rw [Function.update_of_ne other]
      exact .refl _
  have equal := same _ alike
  rw [load_of_files layers named place, load_of_files layers named (Function.update_self ..), added] at equal
  exact lookup_of_lastFile? (except_toOption_eq_some_iff.mp equal) last

/-- If the files for each module agree, all orders of a folder give the same. -/
theorem load_eq_of_agree (alike : ∀ dir, (folder dir).Alike (folder' dir))
    (agree : ∀ c dir entries, ofLayers path file environment = .ok c → c.modulesDir = some dir →
      folder dir = .files entries → Readable dir entries → ∀ module, Agree dir entries module) :
    (load path file environment folder').toOption = (load path file environment folder).toOption := by
  rcases load_eq_or_files path file environment alike with
    equal | ⟨c, dir, entries, entries', layers, named, place, place', perm⟩
  · rw [equal]
  by_cases readable : Readable dir entries
  · rw [load_of_files layers named place, load_of_files layers named place']
    exact addModules_perm perm (agree c dir entries layers named place readable)
  · have fails : (load path file environment folder).toOption = none := by
      rw [load_of_files layers named place, Option.eq_none_iff_forall_ne_some]
      intro c' added
      exact readable (exists_addModules_iff.mp ⟨c', except_toOption_eq_some_iff.mp added⟩)
    rw [fails, load_fails_iff_of_alike alike, fails]

end

/-- **When the order of a folder does not matter.**  Whatever the order in which folders list their files, loading
fails or succeeds alike.  Two configurations that are loaded so differ in modules at most, and there in none whose
files agree.  All orders of a folder give the same result exactly if some file of a module cannot be read, and none
succeeds, or the files for each module agree. -/
theorem load_listing_iff (path : String) (file : Option (String × String)) (environment : List (String × String))
    (folder : String → Folder) :
    (∀ folder', (∀ dir, (folder dir).Alike (folder' dir)) →
      ((load path file environment folder').toOption = none ↔ (load path file environment folder).toOption = none) ∧
      ∀ c c', load path file environment folder = .ok c → load path file environment folder' = .ok c' →
        c' = { c with modules := c'.modules } ∧
        ∀ module, (∀ dir entries, c.modulesDir = some dir → folder dir = .files entries → Agree dir entries module) →
          c'.modules.lookup module = c.modules.lookup module) ∧
    ((∀ folder', (∀ dir, (folder dir).Alike (folder' dir)) →
      (load path file environment folder').toOption = (load path file environment folder).toOption) ↔
      ∀ c dir entries, ofLayers path file environment = .ok c → c.modulesDir = some dir →
        folder dir = .files entries → Readable dir entries → ∀ module, Agree dir entries module) := by
  refine ⟨fun folder' alike => ⟨load_fails_iff_of_alike alike, ?_⟩, ?_, ?_⟩
  · exact fun c c' loaded loaded' => load_frame_of_alike alike loaded loaded'
  · exact fun same c dir entries layers named place readable => agree_of_load_eq same layers named place readable
  · exact fun agree folder' alike => load_eq_of_agree alike agree

/-- **For two files of one module the order decides.**  The folder has `limits.yaml` and `limits.yml`, and the one
listed last is what the module `limits` has. -/
theorem load_listing_decides :
    (Folder.files [("limits.yaml", .ok "true"), ("limits.yml", .ok "false")]).Alike
      (.files [("limits.yml", .ok "false"), ("limits.yaml", .ok "true")]) ∧
    ([[("limits.yaml", .ok "true"), ("limits.yml", .ok "false")],
        [("limits.yml", .ok "false"), ("limits.yaml", .ok "true")]].map
      fun entries => (load "app.yaml" none [("APP__MODULES_DIR", "\"m\"")] fun _ => .files entries).toOption.bind
        fun c => (c.modules.lookup "limits").bind Json.bool?) = [some false, some true] := by
  constructor
  · exact .files (.swap ..)
  · decide +kernel

end AppConfig

end HandlerChain
