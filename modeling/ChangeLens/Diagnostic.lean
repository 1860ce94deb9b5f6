import ChangeLens.Setting

/-!
# `ChangeLens.Diagnostic`: errors with details

An error has a message and named details. The text of an error puts the file it is about in front
of the message and the other details behind it; a detail that repeats the message is left out.
-/

set_option autoImplicit false

namespace ChangeLens

/-- What an error is about. -/
inductive DiagnosticKind where
  | general
  | analysis
  | worker
  | workerTimeout
  | workerCrash
  | configuration
  | invalidConfig
  | configFile
deriving Repr, DecidableEq

/-- The kind that a kind is a special case of. -/
def DiagnosticKind.parent? : DiagnosticKind → Option DiagnosticKind
  | general => none
  | analysis | configuration => some general
  | worker => some analysis
  | workerTimeout | workerCrash => some worker
  | invalidConfig | configFile => some configuration

/-- A kind and everything it is a special case of, the most general kind last. -/
def DiagnosticKind.lineage : DiagnosticKind → List DiagnosticKind
  | general => [general]
  | analysis => [analysis, general]
  | configuration => [configuration, general]
  | worker => [worker, analysis, general]
  | workerTimeout => [workerTimeout, worker, analysis, general]
  | workerCrash => [workerCrash, worker, analysis, general]
  | invalidConfig => [invalidConfig, configuration, general]
  | configFile => [configFile, configuration, general]

/-- An error with its details. -/
structure Diagnostic where
  /-- What the error is about. -/
  kind : DiagnosticKind
  /-- What went wrong. -/
  message : String
  /-- Named details, in order. -/
  details : List (String × String) := []
deriving Repr, DecidableEq

namespace Diagnostic

/-- The details that name the file an error is about, in order of preference. -/
def locationKeys : List String :=
  ["file_path", "path"]

/-- The file an error is about. -/
def location? (error : Diagnostic) : Option String :=
  locationKeys.findSome? fun key => error.details.lookup key

/-- The text of an error. -/
def render (error : Diagnostic) : String :=
  let text :=
    match error.location?.filter (!·.isEmpty) with
    | some location => location ++ ": " ++ error.message
    | none => error.message
  let extra := error.details.filter fun (key, value) =>
    !locationKeys.contains key && value != error.message
  if extra.isEmpty then text
  else text ++ " (" ++ Text.join ", " (extra.map fun (key, value) => key ++ "=" ++ value) ++ ")"

/-- An error with details of any type; the last detail of a name counts. -/
def ofDetails (kind : DiagnosticKind) (message : String) (details : Entries) : Diagnostic :=
  ⟨kind, message, (Setting.ofPairs details).map fun (key, value) => (key, value.display)⟩

/-- A task failed outside of its own handler. -/
def worker (kind : DiagnosticKind) (file reason : String) (exitCode : Option Int) : Diagnostic :=
  let code := exitCode.map fun code => ("exit_code", toString code)
  ⟨kind, reason, [("file_path", file), ("reason", reason)] ++ code.toList⟩

/-- The reason of a task that took too long. -/
def timeoutReason (timeoutMs : Int) : String :=
  s!"Worker timed out after {timeoutMs}ms"

/-- The reason of a task whose worker ended without an answer. -/
def crashReason (exitCode : Option Int) : String :=
  "Worker stopped with exit code " ++ (exitCode.elim "None" toString)

/-- A task took too long. -/
def workerTimeout (file : String) (timeoutMs : Int) : Diagnostic :=
  worker .workerTimeout file (timeoutReason timeoutMs) none

/-- A worker ended without an answer. -/
def workerCrash (file : String) (exitCode : Option Int) : Diagnostic :=
  worker .workerCrash file (crashReason exitCode) exitCode

/-- A value of the configuration is wrong. -/
def invalidConfig (key : String) (value : Setting) (reason : String) : Diagnostic :=
  ⟨.invalidConfig, "Invalid configuration for " ++ key ++ ": " ++ value.display,
    [("key", key), ("value", value.display), ("reason", reason)]⟩

/-- A configuration file is missing or cannot be read. -/
def configFile (path reason : String) : Diagnostic :=
  ⟨.configFile, "Invalid config file '" ++ path ++ "'", [("path", path), ("reason", reason)]⟩

/-- The configuration as a whole is wrong. -/
def configuration (message : String) : Diagnostic :=
  ⟨.configuration, message, []⟩

end Diagnostic

end ChangeLens
