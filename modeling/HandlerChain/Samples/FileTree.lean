import HandlerChain.Settings.Load

/-!
# Files in a scratch folder

The files that a configuration is loaded from, without a disk: all of them are below one root, which may
be the current folder. The root is listed in the order of names.

## Main Definitions

* `Samples.FileTree` is such a folder.
* `Samples.FileTree.load` loads a configuration from it.
-/

namespace HandlerChain.Samples

/-- Files by their path below a root. -/
structure FileTree where
  root : String
  files : List (String × String)
  isCurrent : Bool := false

namespace FileTree

/-- The steps of a path; a step back takes away the one before it. -/
def steps (path : String) : List String :=
  ((path.splitOn "/").foldl
    (fun acc s => if s = "" ∨ s = "." then acc else if s = ".." then acc.drop 1 else s :: acc)
    []).reverse

/-- The steps of a path below the root, if it leads there. -/
def locate (t : FileTree) (path : String) : Option (List String) :=
  if path.startsWith "/" || path.isEmpty then none
  else
    match path.splitOn "/" with
    | first :: rest =>
      if first = t.root then some (steps ("/".intercalate rest))
      else if t.isCurrent then some (steps path)
      else none
    | [] => none

/-- The text of the file at a path. -/
def read? (t : FileTree) (path : String) : Option String :=
  (t.locate path).bind fun at_ => (t.files.find? fun f => steps f.1 == at_).map Prod.snd

/-- What is found at a path where a folder is looked for. -/
def folder (t : FileTree) (path : String) : Folder :=
  match t.locate path with
  | none => .missing
  | some at_ =>
    if t.files.any fun f => steps f.1 == at_ then .unlisted "Not a directory (os error 20)"
    else
      let below := t.files.filterMap fun (name, text) =>
        let s := steps name
        if s.take at_.length == at_ then some (s.drop at_.length, text) else none
      if below.isEmpty && !at_.isEmpty then .missing
      else
        .files ((below.filterMap fun (s, text) => match s with
          | [name] => some (name, .ok text)
          | _ => none).mergeSort fun a b => a.1 ≤ b.1)

/-- A path as it is shown: relative to the root where that is the current folder. -/
def shown (t : FileTree) (path : String) : String :=
  if t.isCurrent then
    match t.locate path with
    | some at_ => "/".intercalate at_
    | none => path
  else path

/-- Variables in the order of their names. -/
def sortVariables (environment : List (String × String)) : List (String × String) :=
  environment.mergeSort fun a b => a.1 ≤ b.1

/-- Loads the configuration at a path. -/
def load (t : FileTree) (path : String) (environment : List (String × String)) :
    Except LoadError AppConfig :=
  AppConfig.load path ((t.read? path).map fun text => (t.shown path, text)) (sortVariables environment)
    t.folder

end FileTree

end HandlerChain.Samples
