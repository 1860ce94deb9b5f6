import ChangeLens.Report.Console
import ChangeLens.Report.Json
import ChangeLens.Report.Machine
import ChangeLens.Report.Workflow

/-!
# `ChangeLens.Report.Format`: the output formats by name
-/

set_option autoImplicit false

namespace ChangeLens

/-- The forms in which a report can be written. -/
inductive ReportFormat where
  | console
  | json
  | machine
  | workflow
deriving Repr, DecidableEq

namespace ReportFormat

/-- All formats, in the order in which messages list them. -/
def all : List ReportFormat :=
  [console, json, machine, workflow]

/-- The name of a format on the command line. -/
def name : ReportFormat → String
  | console => "console"
  | json => "json"
  | machine => "machine"
  | workflow => "github-actions"

/-- The format with this name. -/
def ofName? (text : String) : Option ReportFormat :=
  all.find? fun format => format.name == text

/-- What is wrong with a name that is no format. -/
def unknownMessage (text : String) : String :=
  "Unknown formatter: " ++ Text.quoted text ++ ". Choose from: " ++
    Text.join ", " (all.map name)

/-- A report in a format. -/
def render : ReportFormat → Report → String
  | console => Report.renderConsole
  | json => Report.renderJson
  | machine => Report.renderMachine
  | workflow => Report.renderWorkflow

end ReportFormat

end ChangeLens
