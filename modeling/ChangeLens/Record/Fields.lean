import ChangeLens.Config
import ChangeLens.Record

/-!
# `ChangeLens.Record.Fields`: records read from outside

A record can be given by its fields, with kind and severity by name. The names are checked first,
the kind before the severity, and then the range.
-/

set_option autoImplicit false

namespace ChangeLens

/-- The fields of a record as they are written outside. -/
structure RecordFields where
  /-- The name of the kind. -/
  kind : Setting
  /-- The name of the severity. -/
  severity : Setting
  /-- The path of the file. -/
  file : String
  /-- Where the change stands. -/
  span : Span
  /-- What changed, in words. -/
  detail : String
  /-- The kind of syntax node the change is about. -/
  nodeLabel : String
  /-- More about the change. -/
  context : Option String

/-- Why fields are no record. -/
inductive RecordError where
  /-- No kind has this name. -/
  | unknownKind (value : Setting)
  /-- No severity has this name. -/
  | unknownSeverity (value : Setting)
  /-- The range ends before it starts. -/
  | endsBeforeStart (span : Span)

/-- What is wrong with the fields, in words. -/
def RecordError.message : RecordError → String
  | unknownKind value => unknownKindMessage value
  | unknownSeverity value => unknownSeverityMessage value
  | endsBeforeStart span =>
    s!"change record ends before it starts: {span.startLine}:{span.startColumn} > " ++
      s!"{span.endLine}:{span.endColumn}"

/-- The kind with a name. -/
def readKind (value : Setting) : Except RecordError ChangeKind :=
  match Config.kindOf? value with
  | some kind => .ok kind
  | none => .error (.unknownKind value)

/-- The severity with a name. -/
def readSeverity (value : Setting) : Except RecordError Severity :=
  match Config.severityOf? value with
  | some severity => .ok severity
  | none => .error (.unknownSeverity value)

/-- The record with these fields. -/
def Record.ofFields (fields : RecordFields) : Except RecordError Record := do
  let kind ← readKind fields.kind
  let severity ← readSeverity fields.severity
  if fields.span.isOrdered then
    .ok ⟨kind, severity, fields.file, fields.span, fields.detail, fields.nodeLabel, fields.context⟩
  else .error (.endsBeforeStart fields.span)

end ChangeLens
