import ChangeLens.LineRange
import ChangeLens.Record
import ChangeLens.Text.Digit
import ChangeLens.Text.Lines

/-!
# `ChangeLens.Hunk`: hunks of a unified diff

A hunk pairs a range of lines of the base version with one of the head version. `Hunk.parse` reads
the hunks of a unified diff and skips every line it does not know; `Hunk.forFile` falls back to one
hunk over both whole files when there is no usable diff. `Hunk.scope` keeps the records that touch a
hunk on the side they belong to.
-/

set_option autoImplicit false

namespace ChangeLens

/-- A line that a diff adds or removes. -/
structure DiffLine where
  /-- Its number in the version it belongs to. -/
  number : Nat
  /-- The line without its sign. -/
  content : String
deriving Repr, DecidableEq

/-- A range of lines of the base version and the range that stands for it in the head version. -/
structure Hunk where
  /-- The path of the file. -/
  file : String
  /-- The lines of the base version. -/
  base : LineRange
  /-- The lines of the head version. -/
  head : LineRange
  /-- The lines that only the head version has. -/
  added : List DiffLine := []
  /-- The lines that only the base version has. -/
  removed : List DiffLine := []
deriving Repr, DecidableEq

namespace Hunk

open ChangeLens.Text

/-- The numbers in the header of a hunk: first line and number of lines on both sides. -/
structure Header where
  /-- The first line of the base version. -/
  baseStart : Nat
  /-- The number of lines of the base version. -/
  baseCount : Nat
  /-- The first line of the head version. -/
  headStart : Nat
  /-- The number of lines of the head version. -/
  headCount : Nat
deriving Repr, DecidableEq

/-- Reads a number at the start of a text. -/
def readNumber? (cs : List Char) : Option (Nat × List Char) :=
  let digits := cs.takeWhile isDigit
  if digits.isEmpty then none else some (digitsValue digits, cs.drop digits.length)

/-- Reads `start,count` or `start` alone, which stands for one line. A comma that no number follows
is left unread. -/
def readExtent? (cs : List Char) : Option (Nat × Nat × List Char) := do
  let (start, rest) ← readNumber? cs
  match rest with
  | ',' :: more =>
    match readNumber? more with
    | some (count, rest) => some (start, count, rest)
    -- The comma then stands where a header has a blank, so this line is none.
    | none => some (start, 1, rest)
  | _ => some (start, 1, rest)

/-- What follows `start` at the start of a text. -/
def afterStart? (start cs : List Char) : Option (List Char) :=
  if start.isPrefixOf cs then some (cs.drop start.length) else none

/-- The header that a line holds, as in `@@ -3,2 +3,4 @@`; anything may follow it. -/
def Header.ofLine? (line : List Char) : Option Header := do
  let rest ← afterStart? "@@ -".toList line
  let (baseStart, baseCount, rest) ← readExtent? rest
  let rest ← afterStart? " +".toList rest
  let (headStart, headCount, rest) ← readExtent? rest
  let _ ← afterStart? " @@".toList rest
  some ⟨baseStart, baseCount, headStart, headCount⟩

/-- What a line of a hunk is. -/
inductive BodyLine where
  /-- A line that only the head version has. -/
  | added (content : List Char)
  /-- A line that only the base version has. -/
  | removed (content : List Char)
  /-- A line that both versions have. -/
  | context
  /-- Not a line of the file, such as a file header. -/
  | other
deriving Repr, DecidableEq

/-- Tells what a line of a hunk is by its sign. File headers (`+++`, `---`) are no lines of the
file. -/
def BodyLine.ofLine : List Char → BodyLine
  | '+' :: content => if "++".toList.isPrefixOf content then .other else .added content
  | '-' :: content => if "--".toList.isPrefixOf content then .other else .removed content
  | ' ' :: _ => .context
  | _ => .other

/-- The added lines of a hunk body that starts at line `number` of the head version. -/
def addedLines (number : Nat) : List (List Char) → List DiffLine
  | [] => []
  | line :: rest =>
    match BodyLine.ofLine line with
    | .added content => ⟨number, String.ofList content⟩ :: addedLines (number + 1) rest
    | .context => addedLines (number + 1) rest
    | .removed _ | .other => addedLines number rest

/-- The removed lines of a hunk body that starts at line `number` of the base version. -/
def removedLines (number : Nat) : List (List Char) → List DiffLine
  | [] => []
  | line :: rest =>
    match BodyLine.ofLine line with
    | .removed content => ⟨number, String.ofList content⟩ :: removedLines (number + 1) rest
    | .context => removedLines (number + 1) rest
    | .added _ | .other => removedLines number rest

/-- The hunk with this header and these body lines. -/
def ofHeader (file : String) (header : Header) (body : List (List Char)) : Hunk where
  file := file
  base := LineRange.ofCount header.baseStart header.baseCount
  head := LineRange.ofCount header.headStart header.headCount
  added := addedLines header.headStart body
  removed := removedLines header.baseStart body

/-- Cuts lines into the ones before the first header and, for each header, the lines that follow
it. -/
def blocks : List (List Char) → List (List Char) × List (Header × List (List Char))
  | [] => ([], [])
  | line :: rest =>
    let (body, more) := blocks rest
    match Header.ofLine? line with
    | some header => ([], (header, body) :: more)
    | none => (line :: body, more)

/-- The hunks of a unified diff. -/
def parse (patch file : String) : List Hunk :=
  (blocks (lines patch.toList)).2.map fun (header, body) => ofHeader file header body

/-- One hunk over all lines of both versions; an empty version counts as one line. -/
def wholeFile (base head file : String) : Hunk where
  file := file
  base := LineRange.ofCount 1 (lines base.toList).length
  head := LineRange.ofCount 1 (lines head.toList).length

/-- The hunks of a diff, or one hunk over the whole file when there is none in it. -/
def forFile (base head file : String) (patch : Option String) : List Hunk :=
  match parse (patch.getD "") file with
  | [] => [wholeFile base head file]
  | hunks => hunks

/-- The range a record of this kind is compared with: removals lie in the base version. -/
def rangeFor (hunk : Hunk) (kind : ChangeKind) : LineRange :=
  if kind.isRemoval then hunk.base else hunk.head

/-- Whether a record touches one of the hunks. Records about the whole file always do. -/
def touches (hunks : List Hunk) (record : Record) : Bool :=
  record.isFileLevel ||
    hunks.any fun hunk =>
      (hunk.rangeFor record.kind).overlaps record.span.startLine record.span.endLine

/-- The records that touch a hunk; without hunks all of them. -/
def scope (hunks : List Hunk) (records : List Record) : List Record :=
  if hunks.isEmpty then records else records.filter (touches hunks)

end Hunk

end ChangeLens
