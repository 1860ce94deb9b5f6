import ChangeLens.Config
import ChangeLens.Setting.Integer
import ChangeLens.Setting.Toml

/-!
# `ChangeLens.Config.Load`: the layers of a configuration

The configuration of a run is laid together from the global file, the file of the project, a file
named explicitly, environment variables and overrides, each laid over those before it.
-/

set_option autoImplicit false

namespace ChangeLens

/-- What a place for a configuration file holds. -/
inductive LayerFile where
  /-- No file was asked for. -/
  | absent
  /-- A file was asked for that does not exist. -/
  | missing
  /-- The text of a file. -/
  | written (text : String)
  /-- The entries of a file that was read already. -/
  | loaded (entries : Entries)

/-- The entries that a layer adds. -/
def LayerFile.load (layer : Layer) : LayerFile → Except ConfigError Entries
  | absent => .ok []
  | missing => .error (.file layer true)
  | written text =>
    match Toml.parse? text with
    | some entries => .ok entries
    | none => .error (.file layer false)
  | loaded entries => .ok entries

namespace Config

/-- Environment variables by name. -/
abbrev Environment := List (String × String)

/-- The environment variable for a key: the key in capitals behind the name of the program. -/
def variableFor (key : String) : String :=
  "SEMDIFF_" ++ String.ofList (key.toList.map Char.toUpper)

/-- Reads a whole number from a variable. -/
def readIntegerVariable (name text : String) : Except ConfigError Setting :=
  match Setting.integer? text with
  | some number => .ok (.number number)
  | none => .error (.refused name (.text text) (.notInteger text))

/-- Reads a switch from a variable; capitals do not matter. -/
def readSwitchVariable (name text : String) : Except ConfigError Setting :=
  let lower := Text.toLowerAscii text
  if ["true", "1", "yes", "on"].contains lower then .ok (.switch true)
  else if ["false", "0", "no", "off"].contains lower then .ok (.switch false)
  else .error (.refused name (.text text) (.notSwitch text))

/-- The keys that environment variables can set, with their readers. -/
def environmentKeys : List (String × (String → String → Except ConfigError Setting)) :=
  [("timeout_ms", readIntegerVariable), ("workers", readIntegerVariable),
   ("max_memory_mb", readIntegerVariable), ("enforce_memory_limit", readSwitchVariable)]

/-- The entries that environment variables set. -/
def environmentEntries (environment : Environment) : Except ConfigError Entries :=
  environmentKeys.filterMapM fun (key, read) =>
    let name := variableFor key
    match environment.lookup name with
    | none => .ok none
    | some text => (read name text).map fun value => some (key, value)

/-- What a configuration is laid together from. -/
structure Layers where
  /-- The global file. -/
  global : LayerFile := .absent
  /-- The file of the project. -/
  project : LayerFile := .absent
  /-- The file named explicitly. -/
  explicit : LayerFile := .absent
  /-- Environment variables. -/
  environment : Environment := []
  /-- Overrides; those without a value do not count. -/
  overrides : Entries := []

/-- Lays tables over each other, from the first to the last. -/
def mergeAll (layers : List Entries) : Entries :=
  layers.foldl Setting.mergeTable []

/-- An override counts when it has a value. -/
def givenOverrides (overrides : Entries) : Entries :=
  overrides.filter fun (_, value) =>
    match value with
    | .null => false
    | _ => true

/-- The configuration of a run. The first layer that cannot be read is at fault, before any value
is looked at. -/
def load (layers : Layers) : Except ConfigError Config := do
  let global ← layers.global.load .global
  let project ← layers.project.load .project
  let explicit ← layers.explicit.load .explicit
  let environment ← environmentEntries layers.environment
  build (mergeAll [global, project, explicit, environment, givenOverrides layers.overrides])

end Config

end ChangeLens
