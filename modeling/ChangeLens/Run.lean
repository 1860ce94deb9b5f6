import ChangeLens.Content
import ChangeLens.Detect
import ChangeLens.Pool.Rehearsal
import ChangeLens.Report

/-!
# `ChangeLens.Run`: the analysis of a batch of files

A run selects files by the patterns of the configuration, leaves out those that do not differ,
hands each of the others to a worker of the pool and reports what they found. A file that fails,
in the check or in its worker, is reported as failed. A pattern that is no text is a fault of the
configuration and not of a file: when a file is matched with one there is no report at all. The turns
that the pool takes are an argument of `analyzeBy`; `analyze` lets every worker end on its own.
-/

set_option autoImplicit false

namespace ChangeLens

/-- Whether a file is analyzed at all. Only files that are included are matched with the patterns of
files to leave out. -/
def Config.selects (config : Config) (path : String) : Except PatternFault Bool := do
  let included ← config.includes.matches path
  if included then (config.excludes.matches path).map (!·) else .ok false

/-- A run between two references. -/
structure Run where
  /-- The configuration. -/
  config : Config
  /-- Where versions come from. -/
  source : ContentSource
  /-- The reference of the base versions. -/
  base : String
  /-- The reference of the head versions. -/
  head : String
  /-- How alike two texts are. -/
  similarity : String → String → Text.Similarity

namespace Run

/-- The changes of one file. A file without a head version is gone and has none; one without a base
version is new. -/
def changesOf (run : Run) (path : String) : Except Fault (List Record) := do
  let before ← run.source.content path run.base
  let after ← run.source.content path run.head
  let target : Target := ⟨path, run.config, run.similarity⟩
  match before, after with
  | _, none => .ok []
  | none, some new => .ok (describeNewFile target new)
  | some old, some new =>
    let hunks := Hunk.forFile old.text new.text path (run.source.patch path run.base run.head)
    .ok (detectChanges Analyzer.all target hunks old new)

/-- How the worker of a file ends. -/
def endingOf (run : Run) (path : String) : Pool.Ending (List Record) :=
  match run.changesOf path with
  | .ok records => .returns records
  | .error (.raises kind text) => .fails kind text
  | .error (.exits code) => .exits code

/-! ### Checking files -/

/-- A file if it is selected. -/
def choose (run : Run) (path : String) : Except PatternFault (List String) :=
  (run.config.selects path).map fun chosen => if chosen then [path] else []

/-- The files of a list that are selected. The first file that is matched with a pattern at fault ends
the run. -/
def selected (run : Run) (files : List String) : Except PatternFault (List String) :=
  files.flatMapM run.choose

/-- Whether a file differs, or why that cannot be said. -/
def check (run : Run) (path : String) : Except String Bool :=
  run.source.hasDiff path run.base run.head

/-- Whether it is known that a file differs. -/
def differs (run : Run) (path : String) : Bool :=
  match run.check path with
  | .ok differs => differs
  | .error _ => false

/-- The failure of a file that cannot be checked. -/
def checkFailure? (run : Run) (path : String) : Option FailedFile :=
  match run.check path with
  | .ok _ => none
  | .error message => some ⟨path, "Diff check failed: " ++ message⟩

/-- The selected files that go to the pool. -/
def differing (run : Run) (candidates : List String) : List String :=
  candidates.filter run.differs

/-! ### Outcomes of workers -/

/-- The message of a failure without a text. -/
def unknownFailure : String :=
  "Unknown analysis error"

/-- The changes in an outcome. -/
def changes? (outcome : Pool.Outcome (List Record)) : Option (List Record) :=
  match outcome.result with
  | .success records => some records
  | .failure _ => none

/-- The failure in an outcome. -/
def analysisFailure? (outcome : Pool.Outcome (List Record)) : Option FailedFile :=
  match outcome.result with
  | .success _ => none
  | .failure message =>
    some ⟨outcome.job.key, if message.isEmpty then unknownFailure else message⟩

/-- The outcomes of some files when the pool takes these turns, in the order of the files. -/
def outcomes (run : Run) (limit : Nat) (turns : List (Pool.Turn (List Record)))
    (paths : List String) : List (Pool.Outcome (List Record)) :=
  ((Pool.State.initial (Pool.batch paths)).run limit run.config.timeoutMs.value turns).results
    (Pool.batch paths)

/-! ### The report -/

/-- The report on selected files when the pool takes these turns. Files that cannot be checked come
first among the failed ones. -/
def reportBy (run : Run) (limit : Nat) (turns : List (Pool.Turn (List Record)))
    (candidates : List String) (timeMs : Nat) : Report :=
  let outcomes := run.outcomes limit turns (run.differing candidates)
  let analyzed := outcomes.filterMap changes?
  Report.build run.config analyzed.flatten analyzed.length
    (candidates.filterMap run.checkFailure? ++ outcomes.filterMap analysisFailure?) timeMs

/-- The workers of some files, which all end on their own. -/
def actsOf (run : Run) (paths : List String) : List (Pool.Act (List Record)) :=
  paths.map fun path => .alone path (run.endingOf path)

/-- The report on a list of files whose workers end on their own. The number of workers makes no
difference to it, so without one in the configuration a single worker will do. -/
def analyze (run : Run) (files : List String) (timeMs : Nat) : Except PatternFault Report :=
  (run.selected files).map fun candidates =>
    run.reportBy (Pool.workerLimit 1 (run.config.workers.map (·.value)))
      (Pool.turnsOf (run.actsOf (run.differing candidates)) true) candidates timeMs

end Run

end ChangeLens
