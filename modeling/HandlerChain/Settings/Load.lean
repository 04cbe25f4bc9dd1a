import HandlerChain.Settings.Config
import HandlerChain.Settings.FromYaml
import HandlerChain.Settings.Variable
import HandlerChain.Yaml.Value

/-!
# Loading a configuration

A configuration is the defaults with a settings file laid over them and environment variables over both.
Then each file in the folder of modules says all there is to say for the module it is named after.

## Main Definitions

* `AppConfig.ofLayers` reads a configuration from a settings file and variables.
* `AppConfig.addModules` adds what the files of modules say, in the order in which they are listed.
* `AppConfig.load` does both; `AppConfig.folder?` is the one folder that it looks into.
* `LoadError` is why a configuration cannot be loaded, with `LoadError.message` and `LoadError.causes`.

## Main Results

* `AppConfig.load_congr`: loading looks into no other folder, so no other one has to be listed.
-/

namespace HandlerChain

/-- Why a configuration cannot be loaded. -/
inductive LoadError where
  | settings (path : String) (error : Setting.Error)
  | unlisted (reason : String)
  | unreadable (path reason : String)
  | malformed (path : String) (error : Yaml.ReadError)
  | key (error : Yaml.Value.KeyError)
  deriving Repr

namespace LoadError

/-- The wording of an error. -/
def message : LoadError → String
  | settings path _ => "Failed to load config from " ++ path
  | unlisted reason => reason
  | unreadable path _ => "Failed to read module config " ++ path
  | malformed path _ => "Invalid YAML in " ++ path
  | key e => e.message

/-- What an error was caused by. -/
def causes : LoadError → List String
  | settings _ e => [e.message]
  | unlisted _ => []
  | unreadable _ reason => [reason]
  | malformed _ e => [e.message]
  | key _ => []

end LoadError

/-- A file of a folder: its name, and its text or why it cannot be read. -/
abbrev FolderEntry := String × Except String String

/-- What is found in a place where files of modules are looked for: nothing, something that cannot be listed, or
files in the order in which they are listed. -/
inductive Folder where
  | missing
  | unlisted (reason : String)
  | files (entries : List FolderEntry)

/-- The start of the names of variables. -/
def variableStart : String := "APP__"

/-- A file name without its extension, and the extension; a name with a single point at its start has
none. -/
def splitExtension (name : String) : String × String :=
  let cs := name.toList.reverse
  let extension := (cs.takeWhile (· != '.')).reverse
  match cs.drop extension.length with
  | '.' :: stem =>
    if stem.isEmpty then (name, "") else (String.ofList stem.reverse, String.ofList extension)
  | _ => (name, "")

/-- The module that a file is for, if it is a file of a module. -/
def moduleOf? (name : String) : Option String :=
  let (stem, extension) := splitExtension name
  if ["yml", "yaml"].contains (Text.lowerAscii extension) then some stem else none

/-- A file name in a folder. -/
def joinPath (dir name : String) : String :=
  if dir.isEmpty || dir.endsWith "/" then dir ++ name else dir ++ "/" ++ name

namespace AppConfig

/-- Reads a configuration from the text of a settings file, if there is one, and from variables. An error
in the file is shown with the path that its layer has. -/
def ofLayers (path : String) (file : Option (String × String)) (environment : List (String × String)) :
    Except LoadError AppConfig :=
  let read : Except Setting.Error Setting := match file with
    | none => .ok (.table .defaults [])
    | some (shown, text) =>
      (Setting.ofYaml shown text).mapError fun e => ⟨.unreadable e.message, [], some (.file shown)⟩
  (read.bind fun s =>
    ofSetting ((defaults.overlay s).overlay (Setting.ofVariables variableStart environment))).mapError
      (LoadError.settings path)

/-- Reads what a file of a module says. -/
def readModule (path : String) (content : Except String String) : Except LoadError Json :=
  match content with
  | .error reason => .error (.unreadable path reason)
  | .ok text =>
    match Yaml.Value.parse text with
    | .error e => .error (.malformed path e)
    | .ok v => v.toJson.mapError .key

/-- Adds what the files of modules say; the last of several files for one module counts. -/
def addModules (dir : String) (c : AppConfig) : List FolderEntry → Except LoadError AppConfig
  | [] => .ok c
  | (name, content) :: rest =>
    match moduleOf? name with
    | none => addModules dir c rest
    | some module =>
      match readModule (joinPath dir name) content with
      | .error e => .error e
      | .ok j => addModules dir { c with modules := Json.insert module j c.modules } rest

/-- Adds what a folder says. -/
def addFolder (dir : String) (c : AppConfig) : Folder → Except LoadError AppConfig
  | .missing => .ok c
  | .unlisted reason => .error (.unlisted reason)
  | .files entries => addModules dir c entries

/-- Loads a configuration. -/
def load (path : String) (file : Option (String × String)) (environment : List (String × String))
    (folder : String → Folder) : Except LoadError AppConfig :=
  match ofLayers path file environment with
  | .error e => .error e
  | .ok c =>
    match c.modulesDir with
    | none => .ok c
    | some dir => addFolder dir c (folder dir)

/-- The folder that loading looks into, if there is one. -/
def folder? (path : String) (file : Option (String × String)) (environment : List (String × String)) :
    Option String :=
  (ofLayers path file environment).toOption.bind modulesDir

/-- Loading looks into no other folder. -/
theorem load_congr {path : String} {file : Option (String × String)} {environment : List (String × String)}
    {folder folder' : String → Folder}
    (alike : ∀ dir, folder? path file environment = some dir → folder dir = folder' dir) :
    load path file environment folder = load path file environment folder' := by
  cases layers : ofLayers path file environment with
  | error e => simp only [load, layers]
  | ok c =>
      cases named : c.modulesDir with
      | none => simp only [load, layers, named]
      | some dir =>
          have looked : folder? path file environment = some dir := by rw [folder?, layers]; exact named
          simp only [load, layers, named, alike dir looked]

end AppConfig

end HandlerChain
