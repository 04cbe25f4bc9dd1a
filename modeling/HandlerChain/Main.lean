import HandlerChain.CommandLine.Program

/-!
# Command line

Reads the files and variables that the arguments ask for, and writes what the program answers. Where it
would go on to listen, it says at which address and ends.
-/

namespace HandlerChain.CommandLine

/-- The text of a file, or why it cannot be read. -/
def readText (path : String) : IO (Except String String) := do
  try
    let text ← IO.FS.readFile path
    pure (.ok text)
  catch e => pure (.error (toString e))

/-- Whether a path leads to a file. -/
def isFile (path : String) : IO Bool := do
  try
    let place ← IO.FS.realPath path
    pure ((← place.metadata).type == .file)
  catch _ => pure false

/-- The environment variables. -/
def environment : IO (List (String × String)) := do
  let text := (← readText "/proc/self/environ").toOption.getD ""
  pure (((text.splitOn "\x00").filter (!·.isEmpty)).map fun entry =>
    let name := String.ofList (entry.toList.takeWhile (· != '='))
    (name, (entry.drop (name.length + 1)).toString))

/-- The settings file of a path. One that is not absolute is looked for in the current folder and then in those
above it. -/
def findFile? (path : String) : IO (Option String) := do
  let depth := (← IO.currentDir).components.length
  let places :=
    if path.startsWith "/" then [path]
    else (List.range depth).map fun n => String.join (List.replicate n "../") ++ path
  places.findM? isFile

/-- The files of modules in a folder. -/
def readFolder (dir : String) : IO Folder := do
  try
    let place ← IO.FS.realPath dir
    let entries ← place.readDir
    let files ← entries.toList.filterMapM fun entry => do
      let path := joinPath dir entry.fileName
      if (moduleOf? entry.fileName).isSome && (← isFile path) then
        pure (some (entry.fileName, ← readText path))
      else pure none
    pure (.files files)
  catch e => pure (.unlisted (toString e))

/-- What is found at a path where a folder is looked for. -/
def findFolder (dir : String) : IO Folder := do
  try
    discard (IO.FS.realPath dir)
    readFolder dir
  catch _ => pure .missing

/-- Loads the configuration at a path. -/
def loadFrom (path : String) : IO (Except LoadError AppConfig) := do
  let environment ← environment
  let load (file : Option (String × String)) : IO (Except LoadError AppConfig) := do
    let folder ← match AppConfig.folder? path file environment with
      | some dir => findFolder dir
      | none => pure .missing
    pure (AppConfig.load path file environment fun _ => folder)
  match ← findFile? path with
  | none => load none
  | some found =>
    match ← readText found with
    | .ok text => load (some (found, text))
    | .error reason => pure (.error (.settings path ⟨.unreadable reason, [], some (.file found)⟩))

/-- Runs the program and gives the code with which it ends. -/
def runProgram (args : List String) : IO UInt32 := do
  let loaded ← match Request.ofList args with
    | .go { config := some path, .. } => loadFrom path
    | _ => pure (.ok AppConfig.usual)
  let outcome := execute args fun _ => loaded
  for line in outcome.output do
    IO.println line
  for line in outcome.report do
    IO.eprintln line
  if let some address := outcome.listens then
    IO.eprintln ("would listen at " ++ address)
  pure outcome.code.toUInt32

end HandlerChain.CommandLine

/-- The program. -/
def main (args : List String) : IO UInt32 := HandlerChain.CommandLine.runProgram args
