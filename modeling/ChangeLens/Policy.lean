import ChangeLens.Config
import ChangeLens.Record

/-!
# `ChangeLens.Policy`: which changes are reported, how severe they are, and which require tests
-/

set_option autoImplicit false

namespace ChangeLens

namespace Config

/-- Whether a group is reported. Disabled groups win, and a non-empty list of enabled groups leaves
out all others. -/
def groupEnabled (config : Config) (group : Group) : Bool :=
  !config.groups.disabled.contains group &&
    (config.groups.enabled.isEmpty || config.groups.enabled.contains group)

/-- Whether a group with this name is reported. A name that is no group is on no list. -/
def groupNameEnabled (config : Config) (name : String) : Bool :=
  match Group.ofName? name with
  | some group => config.groupEnabled group
  | none => config.groups.enabled.isEmpty

/-- Whether a kind is reported. A kind without a group is, unless it is disabled itself. -/
def kindEnabled (config : Config) (kind : ChangeKind) : Bool :=
  !config.disabledKinds.contains kind && kind.group?.all config.groupEnabled

/-- The severity that replaces the one of the analyzers. -/
def override? (config : Config) (kind : ChangeKind) : Option Severity :=
  config.severityOverrides.lookup kind

/-- The severity of a kind in the absence of further evidence. -/
def effectiveSeverity (config : Config) (kind : ChangeKind) : Severity :=
  (config.override? kind).getD kind.defaultSeverity

/-- The final severity of a record: analyzers decide by the evidence they see, and only the switch
for markup and an explicit override replace that. -/
def resolveSeverity (config : Config) (record : Record) : Severity :=
  if config.markup.treatAsLowSeverity.isOn && record.kind.isMarkup then .low
  else (config.override? record.kind).getD record.severity

/-- A record with its final severity. -/
def regrade (config : Config) (record : Record) : Record :=
  { record with severity := config.resolveSeverity record }

/-- Drops disabled kinds and sets the final severities; the order stays. -/
def applyPolicy (config : Config) (records : List Record) : List Record :=
  (records.filter fun record => config.kindEnabled record.kind).map config.regrade

/-- Whether a change requires tests: the lists of kinds decide first, then the least severity, and
without one only high severity does. -/
def changeRequiresTests (config : Config) (kind : ChangeKind) (severity : Severity) : Bool :=
  if config.tests.always.contains kind then true
  else if config.tests.never.contains kind then false
  else
    match config.tests.minimum with
    | some minimum => minimum.rank ≤ severity.rank
    | none => severity == .high

/-- Whether some record requires tests. -/
def requiresTests (config : Config) (records : List Record) : Bool :=
  records.any fun record => config.changeRequiresTests record.kind record.severity

end Config

end ChangeLens
