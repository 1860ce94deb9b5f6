import ChangeLens.Policy

/-!
# `ChangeLens.Report`: what a run found

A report counts the changes of all files by severity and by kind, names the first severe ones and
says whether tests are required.
-/

set_option autoImplicit false

namespace ChangeLens

/-- A file that could not be analyzed. -/
structure FailedFile where
  /-- The path of the file. -/
  path : String
  /-- What went wrong. -/
  error : String
deriving Repr, DecidableEq

/-- The changes of one kind. -/
structure KindCount where
  /-- The kind. -/
  kind : ChangeKind
  /-- How many changes have the kind. -/
  count : Nat
  /-- The greatest severity among them. -/
  worst : Severity
deriving Repr, DecidableEq

/-- The number of changes of each severity. -/
structure Breakdown where
  /-- High severity. -/
  high : Nat
  /-- Medium severity. -/
  medium : Nat
  /-- Low severity. -/
  low : Nat
deriving Repr, DecidableEq

/-- What a run found. -/
structure Report where
  /-- Whether some change requires tests. -/
  requiresTests : Bool
  /-- The counts and the verdict in one line. -/
  summary : String
  /-- How many files were analyzed. -/
  filesAnalyzed : Nat
  /-- How many changes were found. -/
  totalChanges : Nat
  /-- How many of each severity. -/
  breakdown : Breakdown
  /-- The kinds that occur, the most frequent first. -/
  kindCounts : List KindCount
  /-- The first changes of high severity. -/
  critical : List Record
  /-- All changes, in the order of the files. -/
  changes : List Record
  /-- The files that could not be analyzed. -/
  failed : List FailedFile
  /-- Whether markup, hooks or components changed. -/
  touchesInterface : Bool
  /-- How long the run took. -/
  timeMs : Nat
deriving Repr, DecidableEq

/-- The greater of two severities. -/
def Severity.worse (a b : Severity) : Severity :=
  if a.rank < b.rank then b else a

namespace Report

/-- How many critical changes a report names. -/
def criticalLimit : Nat := 20

/-- The number of changes of a severity. -/
def countSeverity (severity : Severity) (changes : List Record) : Nat :=
  changes.countP fun change => change.severity == severity

/-- The number of changes of each severity. -/
def countSeverities (changes : List Record) : Breakdown :=
  ⟨countSeverity .high changes, countSeverity .medium changes, countSeverity .low changes⟩

/-- Counts a change: the count of its kind goes up where it stands, and a kind that is new is counted
behind the others. -/
def countChange (change : Record) : List KindCount → List KindCount
  | [] => [⟨change.kind, 1, change.severity⟩]
  | entry :: rest =>
    if entry.kind = change.kind then
      ⟨entry.kind, entry.count + 1, entry.worst.worse change.severity⟩ :: rest
    else entry :: countChange change rest

/-- The kinds that occur, the most frequent first; kinds that occur equally often keep the order in
which they first occur. -/
def countKinds (changes : List Record) : List KindCount :=
  (changes.foldl (fun entries change => countChange change entries) []).mergeSort
    fun a b => b.count ≤ a.count

/-- The counts and the verdict in one line. -/
def summarize (changes : List Record) (breakdown : Breakdown) (testsRequired : Bool) : String :=
  if changes.isEmpty then "No semantic changes detected"
  else
    Text.join ", "
      [s!"{changes.length} semantic changes detected", s!"{breakdown.high} high-severity",
       s!"{breakdown.medium} medium-severity", s!"{breakdown.low} low-severity",
       if testsRequired then "Tests required" else "No tests required"]

/-- Kinds about markup, hooks or components, which their names say. -/
def isInterfaceKind (kind : ChangeKind) : Bool :=
  let name := (Text.toLowerAscii kind.name).toList
  ["jsx", "hook", "component"].any fun marker => Text.containsText marker.toList name

/-- The report on some changes and failures. -/
def build (config : Config) (changes : List Record) (filesAnalyzed : Nat)
    (failed : List FailedFile) (timeMs : Nat) : Report :=
  let breakdown := countSeverities changes
  let requiresTests := config.requiresTests changes
  { requiresTests
    summary := summarize changes breakdown requiresTests
    filesAnalyzed
    totalChanges := changes.length
    breakdown
    kindCounts := countKinds changes
    critical := (changes.filter fun change => change.severity == .high).take criticalLimit
    changes
    failed
    touchesInterface := changes.any fun change => isInterfaceKind change.kind
    timeMs }

end Report

end ChangeLens
