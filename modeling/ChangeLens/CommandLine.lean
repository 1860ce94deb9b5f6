import ChangeLens.CommandLine.Files
import ChangeLens.CommandLine.Options
import ChangeLens.Config.Load
import ChangeLens.Report.Format
import ChangeLens.Run

/-!
# `ChangeLens.CommandLine`: what the program does for a command line

Everything the program asks of its surroundings is in `Surroundings`, and everything it does to them
is in `Effects`, so a whole run is a function.
-/

set_option autoImplicit false

namespace ChangeLens.CommandLine

/-- What the program finds around it. -/
structure Surroundings where
  /-- Whether a path names a file. -/
  isFile : String → Bool
  /-- Whether a path names a directory. -/
  isDirectory : String → Bool
  /-- Whether a file can be written. -/
  isWritable : String → Bool
  /-- The global configuration file. -/
  globalConfig : LayerFile
  /-- The configuration file of the project. -/
  projectConfig : LayerFile
  /-- What a configuration file holds. -/
  configFile : String → LayerFile
  /-- Environment variables. -/
  environment : Config.Environment
  /-- The input. -/
  input : String
  /-- The versions of files in a repository. -/
  repository : String → ContentSource
  /-- How alike two texts are. -/
  similarity : String → String → Text.Similarity
  /-- How long the analysis takes. -/
  timeMs : Nat

/-- What the program does. -/
structure Effects where
  /-- The exit code. -/
  exitCode : Nat
  /-- What it writes to the output. -/
  output : String := ""
  /-- What it writes for its user, apart from the output. -/
  remarks : String := ""
  /-- The file it writes, with its text. -/
  file : Option (String × String) := none
  /-- The flag it leaves for later steps. -/
  flag : Option Bool := none
deriving Repr, DecidableEq

/-- The exit code when tests are required and the command line asks for it. -/
def testsRequiredCode : Nat := 2

/-- The exit code for a command line that is used wrongly. -/
def usageCode : Nat := 2

/-- How the program is used. -/
def usage : String :=
  unlines
    ["Usage: semdiff COMMAND [OPTIONS]", "",
     "Commands:",
     "  analyze  Classify the semantic changes between two versions of the given files.",
     "  kinds    Show every change kind with its group and default severity."]

/-- The table of all change kinds. -/
def kindsTable : Table :=
  ⟨"Change kinds", ["Kind", "Group", "Default severity"],
    ChangeKind.all.map fun kind =>
      [kind.name, kind.group?.elim "-" Group.name, kind.defaultSeverity.name]⟩

/-- The entries that options set over all configuration files. -/
def overrides (options : AnalyzeOptions) : Entries :=
  (options.timeoutMs.map fun n => ("timeout_ms", Setting.number n)).toList ++
    (options.workers.map fun n => ("workers", Setting.number n)).toList

/-- The layers of the configuration of a run. -/
def layers (around : Surroundings) (options : AnalyzeOptions) : Config.Layers where
  global := around.globalConfig
  project := around.projectConfig
  explicit := options.config.elim .absent around.configFile
  environment := around.environment
  overrides := overrides options

/-- Whether the paths in the options are there. -/
def pathsExist (around : Surroundings) (options : AnalyzeOptions) : Bool :=
  around.isDirectory options.repository && options.config.all around.isFile

/-- What is written to the output: JSON that goes to a file is not written twice. -/
def outputText (format : ReportFormat) (toFile : Bool) (report : Report) : String :=
  match format with
  | .console => report.renderConsole
  | .json => if toFile then "" else report.renderJson ++ "\n"
  | other =>
    -- A report without changes has no commands, and then not even an empty line.
    let text := other.render report
    if text.isEmpty then "" else text ++ "\n"

/-- What is done with a report. -/
def emit (around : Surroundings) (options : AnalyzeOptions) (format : ReportFormat)
    (report : Report) : Effects :=
  if !options.outputFile.all around.isWritable then
    { exitCode := 1, remarks := "Unexpected error: the output file cannot be written\n" }
  else
    { exitCode := if options.failOnTests && report.requiresTests then testsRequiredCode else 0
      output := outputText format options.outputFile.isSome report
      file := options.outputFile.map fun path => (path, report.renderJson ++ "\n")
      flag := if format = .workflow then some report.requiresTests else none }

/-- The analysis command. -/
def analyze (around : Surroundings) (options : AnalyzeOptions) : Effects :=
  match ReportFormat.ofName? options.format with
  | none =>
    { exitCode := 1
      remarks := "Error: unknown output format '" ++ options.format ++ "' (choose from " ++
        Text.join ", " (ReportFormat.all.map ReportFormat.name) ++ ")\n" }
  | some format =>
    match Config.load (layers around options) with
    | .error fault =>
      -- Only a fault that counts as one of the configuration is foreseen.
      let word := if fault.isConfiguration then "Error: " else "Unexpected error: "
      { exitCode := 1, remarks := word ++ fault.message ++ "\n" }
    | .ok config =>
      let files := fileList options.files (if options.readInput then some around.input else none)
      if files.isEmpty then
        { exitCode := 0, remarks := "No files to analyze. Use --files or --stdin.\n" }
      else
        let run : Run :=
          ⟨config, around.repository options.repository, options.baseRef, options.headRef,
            around.similarity⟩
        match run.analyze files around.timeMs with
        | .error fault =>
          { exitCode := 1, remarks := "Unexpected error: " ++ fault.message ++ "\n" }
        | .ok report => emit around options format report

/-- What the program does for the words of a command line. -/
def execute (around : Surroundings) (words : List String) : Effects :=
  match Request.ofWords? words with
  | none => { exitCode := usageCode, remarks := usage }
  | some .help => { exitCode := 0, output := usage }
  | some .kinds => { exitCode := 0, output := unlines kindsTable.draw }
  | some (.analyze options) =>
    if pathsExist around options then analyze around options
    else { exitCode := usageCode, remarks := usage }

end ChangeLens.CommandLine
