import ChangeLens.ChangeKind
import ChangeLens.Span

/-!
# `ChangeLens.Record`: one reported semantic difference

A record says what changed, how risky that is and where it stands. Records of removal kinds point
into the base version of the file, all others into the head version. Records that describe a whole
file carry the node label `Record.fileLevelLabel`.
-/

set_option autoImplicit false

namespace ChangeLens

/-- One reported semantic difference. -/
structure Record where
  /-- What changed. -/
  kind : ChangeKind
  /-- How risky the change is. -/
  severity : Severity
  /-- The path of the file. -/
  file : String
  /-- Where the change stands. -/
  span : Span
  /-- What changed, in words. -/
  detail : String
  /-- The kind of syntax node the change is about. -/
  nodeLabel : String
  /-- More about the change, if there is more to say. An empty context is still one. -/
  context : Option String := none
deriving Repr, DecidableEq

/-- What two records share when they report the same difference. -/
structure RecordKey where
  /-- The path of the file. -/
  file : String
  /-- What changed. -/
  kind : ChangeKind
  /-- Where the change starts. -/
  position : Position
  /-- What changed, in words. -/
  detail : String
deriving Repr, DecidableEq

namespace Record

/-- The node label of records that describe a whole file. -/
def fileLevelLabel : String :=
  "SourceFile"

/-- Whether a record describes the whole file rather than a node. -/
def isFileLevel (record : Record) : Bool :=
  record.nodeLabel == fileLevelLabel

/-- Records with the same key report the same difference. -/
def key (record : Record) : RecordKey :=
  ⟨record.file, record.kind, record.span.position, record.detail⟩

end Record

end ChangeLens
