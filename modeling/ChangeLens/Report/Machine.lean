import ChangeLens.Report

/-!
# `ChangeLens.Report.Machine`: reports as lines of fields

Each line has a tag and fields with colons between them. Colons and line ends inside a field are
written with a backslash, so every line of the output is one line of the report.
-/

set_option autoImplicit false

namespace ChangeLens.Report

/-- How many change kinds the lines name. -/
def kindLineLimit : Nat := 10

/-- A character inside a field. -/
def fieldChar : Char → List Char
  | ':' => ['\\', ':']
  | '\n' => ['\\', 'n']
  | '\r' => ['\\', 'r']
  | c => [c]

/-- A text as a field. -/
def escapeField (text : String) : String :=
  String.ofList (text.toList.flatMap fieldChar)

/-- A text that may be missing as a field. -/
def optionalField (text : Option String) : String :=
  text.elim "" escapeField

/-- A line with a tag and its fields. -/
def fieldLine (tag : String) (fields : List String) : String :=
  Text.join ":" (tag :: fields)

/-- The line with the counts. -/
def summaryLine (report : Report) : String :=
  fieldLine "SUMMARY"
    [if report.requiresTests then "true" else "false", toString report.filesAnalyzed,
     toString report.totalChanges, toString report.breakdown.high,
     toString report.breakdown.medium, toString report.breakdown.low]

/-- The line of a change. -/
def changeLine (change : Record) : String :=
  fieldLine "CHANGE"
    [escapeField change.file, toString change.span.startLine, toString change.span.startColumn,
     change.severity.name, escapeField change.kind.name, escapeField change.detail,
     escapeField change.nodeLabel, optionalField change.context]

/-- The line of a failure. -/
def failureLine (failure : FailedFile) : String :=
  fieldLine "FAILED" [escapeField failure.path, escapeField failure.error]

/-- The line with the time. -/
def timeLine (report : Report) : String :=
  fieldLine "PERFORMANCE" [toString report.timeMs]

/-- The line of a change kind. -/
def kindLine (count : KindCount) : String :=
  fieldLine "CHANGETYPE"
    [escapeField count.kind.name, toString count.count, count.worst.name]

/-- The lines of a report. -/
def machineLines (report : Report) : List String :=
  summaryLine report :: report.changes.map changeLine ++ report.failed.map failureLine ++
    [timeLine report] ++ (report.kindCounts.take kindLineLimit).map kindLine

/-- A report as lines of fields. -/
def renderMachine (report : Report) : String :=
  Text.join "\n" (machineLines report)

end ChangeLens.Report
