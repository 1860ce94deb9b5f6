import ChangeLens.Report
import ChangeLens.Table

/-!
# `ChangeLens.Report.Console`: reports for the terminal

A panel with the counts, a table of the first changes, the failed files and the most frequent kinds.
-/

set_option autoImplicit false

namespace ChangeLens.Report

/-- How many changes the table lists. -/
def listedChanges : Nat := 50

/-- How many kinds are listed. -/
def listedKinds : Nat := 5

/-- The panel with the counts. -/
def countsPanel (report : Report) : List String :=
  drawPanel "Analysis Results"
    [s!"Files analyzed: {report.filesAnalyzed}", s!"Total changes: {report.totalChanges}",
     s!"High severity: {report.breakdown.high}", s!"Medium severity: {report.breakdown.medium}",
     s!"Low severity: {report.breakdown.low}",
     "Tests required: " ++ (if report.requiresTests then "Yes" else "No"),
     s!"{report.timeMs}ms"]

/-- The row of a change. -/
def changeRow (change : Record) : List String :=
  [change.severity.name,
   change.file ++ s!":{change.span.startLine}:{change.span.startColumn}",
   change.kind.name, change.detail]

/-- The table of the first changes, and how many more there are. -/
def changesTable (report : Report) : List String :=
  if report.changes.isEmpty then []
  else
    let table : Table :=
      ⟨"Changes", ["Severity", "Location", "Kind", "Detail"],
        (report.changes.take listedChanges).map changeRow⟩
    let hidden := report.changes.length - listedChanges
    table.draw ++ if hidden = 0 then [] else [s!"... and {hidden} more"]

/-- The failed files. -/
def failureList (report : Report) : List String :=
  if report.failed.isEmpty then []
  else
    ["", s!"Failed to analyze {report.failed.length} files:"] ++
      report.failed.map fun failure => "  - " ++ failure.path ++ ": " ++ failure.error

/-- The most frequent kinds. -/
def kindList (report : Report) : List String :=
  if report.kindCounts.isEmpty then []
  else
    ["", "Top change types:"] ++ (report.kindCounts.take listedKinds).map fun count =>
      "  " ++ count.kind.name ++ s!": {count.count} (" ++ count.worst.name ++ ")"

/-- A report for the terminal. -/
def renderConsole (report : Report) : String :=
  unlines (countsPanel report ++ changesTable report ++ failureList report ++ kindList report)

end ChangeLens.Report
