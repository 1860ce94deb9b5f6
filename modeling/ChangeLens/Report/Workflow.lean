import ChangeLens.Report

/-!
# `ChangeLens.Report.Workflow`: reports as workflow commands

A workflow runner turns each of these lines into a remark at a line of a file. The pair of colons
that ends a command and line ends cannot stand in its texts, so both are written as percent codes.
A step can also append a flag to a file that later steps read.
-/

set_option autoImplicit false

namespace ChangeLens

/-- How a workflow runner shows a severity. -/
def Severity.remarkLevel : Severity → String
  | low => "notice"
  | medium => "warning"
  | high => "error"

namespace Report

/-- The characters of a text of a command: pairs of colons, from left to right, and line ends are
replaced. -/
def escapeRemarkChars : List Char → List Char
  | ':' :: ':' :: rest => '%' :: '3' :: 'A' :: '%' :: '3' :: 'A' :: escapeRemarkChars rest
  | '\r' :: '\n' :: rest => '%' :: '0' :: 'A' :: escapeRemarkChars rest
  | '\n' :: rest => '%' :: '0' :: 'A' :: escapeRemarkChars rest
  | c :: rest => c :: escapeRemarkChars rest
  | [] => []

/-- A text of a command. -/
def escapeRemark (text : String) : String :=
  String.ofList (escapeRemarkChars text.toList)

/-- The command for a change. -/
def remark (change : Record) : String :=
  "::" ++ change.severity.remarkLevel ++ " file=" ++ change.file ++
    s!",line={change.span.startLine}" ++ ",title=" ++ escapeRemark change.kind.name ++ "::" ++
    escapeRemark change.detail

/-- The commands for all changes. -/
def renderWorkflow (report : Report) : String :=
  Text.join "\n" (report.changes.map remark)

end Report

/-! ### The flag for later steps -/

/-- The line that tells later steps whether tests are required. -/
def flagLine (requiresTests : Bool) : String :=
  "requires-tests=" ++ (if requiresTests then "true" else "false") ++ "\n"

/-- Where the flag goes. -/
inductive FlagFile where
  /-- No file is named. -/
  | unnamed
  /-- The file cannot be written. -/
  | unwritable
  /-- A file with its content; none before it is first written. -/
  | file (content : Option String)
deriving Repr, DecidableEq

namespace FlagFile

/-- What a file holds. -/
def content? : FlagFile → Option String
  | file content => content
  | _ => none

/-- Appends a flag. Says whether it was written, and what is there now. -/
def append (requiresTests : Bool) : FlagFile → Bool × FlagFile
  | file content => (true, file (some (content.getD "" ++ flagLine requiresTests)))
  | other => (false, other)

/-- Appends flags one after the other. -/
def appendAll (target : FlagFile) : List Bool → List Bool × FlagFile
  | [] => ([], target)
  | flag :: rest =>
    let (written, after) := target.append flag
    let (more, last) := after.appendAll rest
    (written :: more, last)

end FlagFile

end ChangeLens
