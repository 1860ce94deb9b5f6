import ChangeLens.CommandLine
import ChangeLens.Git
import ChangeLens.Text.Distance

/-!
# `ChangeLens.Main`: the program

Gathers what the command line needs from its surroundings, lets `CommandLine.execute` decide and
carries out what it decided. The program starts no other processes and has no parser built in: here
a repository answers as it does where `git` cannot be started, and a text has no tree.
-/

set_option autoImplicit false

namespace ChangeLens.Main

/-- The text of a file that can be read. -/
def readText? (path : String) : IO (Option String) := do
  try return some (← IO.FS.readFile path)
  catch _ => return none

/-- Whether a directory is there. -/
def isDirectory (path : String) : IO Bool := do
  try
    let _ ← IO.FS.realPath (path ++ "/.")
    return true
  catch _ => return false

/-- A configuration file that may be missing. -/
def optionalLayer (path : String) : IO LayerFile := do
  return (← readText? path).elim .absent .written

/-- The environment variables that a configuration reads. -/
def configVariables : IO Config.Environment :=
  (Config.environmentKeys.map fun (key, _) => Config.variableFor key).filterMapM fun name => do
    return (← IO.getEnv name).map fun value => (name, value)

/-- What a request finds around it. -/
def surroundings (request : Option CommandLine.Request) : IO CommandLine.Surroundings := do
  let options := match request with
    | some (.analyze options) => some options
    | _ => none
  let explicit ← (options.bind (·.config)).elim (pure none) readText?
  let directory ← isDirectory (options.elim "." (·.repository))
  let home := (← IO.getEnv "HOME").getD ""
  let input ← if options.any (·.readInput) then (← IO.getStdin).readToEnd else pure ""
  return {
    isFile := fun _ => explicit.isSome
    isDirectory := fun _ => directory
    isWritable := fun _ => true
    globalConfig := ← optionalLayer (home ++ "/.semdiff.toml")
    projectConfig := ← optionalLayer "semdiff.toml"
    configFile := fun _ => explicit.elim .missing .written
    environment := ← configVariables
    input
    repository := fun _ => Git.toContentSource ⟨[]⟩ (fun _ => .unavailable) (fun _ => none)
    similarity := Text.similarity
    timeMs := 0 }

/-- Appends the flag for later steps to the file that the environment names. -/
def appendFlag (requiresTests : Bool) : IO Unit := do
  match (← IO.getEnv "GITHUB_OUTPUT").filter (!·.isEmpty) with
  | none => pure ()
  | some path =>
    try
      let before := (← readText? path).getD ""
      IO.FS.writeFile path (before ++ flagLine requiresTests)
    catch error => IO.eprintln s!"Cannot write GitHub output to {path}: {error}"

/-- Carries out what was decided. -/
def carryOut (effects : CommandLine.Effects) : IO UInt32 := do
  IO.print effects.output
  IO.eprint effects.remarks
  try
    effects.file.forM fun (path, text) => IO.FS.writeFile path text
    effects.flag.forM appendFlag
    return effects.exitCode.toUInt32
  catch error =>
    IO.eprintln s!"Unexpected error: {error}"
    return 1

end ChangeLens.Main

/-- Runs the program. -/
def main (words : List String) : IO UInt32 := do
  let around ← ChangeLens.Main.surroundings (ChangeLens.CommandLine.Request.ofWords? words)
  ChangeLens.Main.carryOut (ChangeLens.CommandLine.execute around words)
