import ChangeLens.Json
import ChangeLens.Report

/-!
# `ChangeLens.Report.Json`: reports as JSON

Every field of a report is a member, in a fixed order. A record without a context has no such
member, which keeps it apart from one with an empty context.
-/

set_option autoImplicit false

namespace ChangeLens

/-- A record as a JSON object. -/
def Record.toJson (record : Record) : Json :=
  .object <|
    [("kind", .text record.kind.name), ("severity", .text record.severity.name),
     ("file", .text record.file), ("line", .number record.span.startLine),
     ("column", .number record.span.startColumn), ("endLine", .number record.span.endLine),
     ("endColumn", .number record.span.endColumn), ("detail", .text record.detail),
     ("astNode", .text record.nodeLabel)] ++
      (record.context.map fun context => ("context", .text context)).toList

/-- A count as a JSON object. -/
def KindCount.toJson (count : KindCount) : Json :=
  .object
    [("kind", .text count.kind.name), ("count", .number count.count),
     ("maxSeverity", .text count.worst.name)]

/-- A failure as a JSON object. -/
def FailedFile.toJson (failure : FailedFile) : Json :=
  .object [("filePath", .text failure.path), ("error", .text failure.error)]

/-- The counts by severity as a JSON object. -/
def Breakdown.toJson (breakdown : Breakdown) : Json :=
  .object
    [("high", .number breakdown.high), ("medium", .number breakdown.medium),
     ("low", .number breakdown.low)]

namespace Report

/-- A report as a JSON object. -/
def toJson (report : Report) : Json :=
  .object
    [("requiresTests", .switch report.requiresTests),
     ("summary", .text report.summary),
     ("filesAnalyzed", .number report.filesAnalyzed),
     ("totalChanges", .number report.totalChanges),
     ("severityBreakdown", report.breakdown.toJson),
     ("highSeverityChanges", .number report.breakdown.high),
     ("topChangeTypes", .list (report.kindCounts.map KindCount.toJson)),
     ("criticalChanges", .list (report.critical.map Record.toJson)),
     ("changes", .list (report.changes.map Record.toJson)),
     ("failedFiles", .list (report.failed.map FailedFile.toJson)),
     ("hasReactChanges", .switch report.touchesInterface),
     ("performance", .object [("analysisTimeMs", .number report.timeMs)])]

/-- A report in its JSON form. -/
def renderJson (report : Report) : String :=
  report.toJson.render

end Report

end ChangeLens
