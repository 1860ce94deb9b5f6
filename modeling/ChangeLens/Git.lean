import ChangeLens.Content
import ChangeLens.Text.Lines
import ChangeLens.Text.Search
import ChangeLens.Text.Utf8

/-!
# `ChangeLens.Git`: versions of files from a repository

A reference names a commit, or the working tree. What is in the working tree is read from its files;
all else is asked of a `git` process. A process that cannot be started, does not end in time or ends
with an error answers nothing.
-/

set_option autoImplicit false

namespace ChangeLens.Git

/-- The reference that names the working tree. -/
def workingTree : String :=
  "."

/-- The files of a working tree with their octets. -/
structure WorkingTree where
  /-- Files by path. -/
  files : List (String × List UInt8)

namespace WorkingTree

/-- The names along a path; empty ones and those for the same directory do not count. -/
def parts (path : String) : List String :=
  ((Text.splitAtChar '/' path.toList).map String.ofList).filter fun part =>
    !part.isEmpty && part != "."

/-- The octets of a file. -/
def file? (tree : WorkingTree) (path : String) : Option (List UInt8) :=
  (tree.files.find? fun (name, _) => parts name == parts path).map (·.2)

/-- Whether a path names a file or a directory. -/
def has (tree : WorkingTree) (path : String) : Bool :=
  (parts path).isEmpty || tree.files.any fun (name, _) => (parts path).isPrefixOf (parts name)

/-- The text of a file. A missing file has none, nor has a directory, nor one with octets that
encode no text. Line ends become line feeds. -/
def read? (tree : WorkingTree) (path : String) : Option String := do
  let octets ← tree.file? path
  let text ← Text.Utf8.decodeStrict? octets
  some (String.ofList (Text.unifyLineEnds text))

end WorkingTree

/-- How a process ends. -/
inductive ProcessEnd where
  /-- With an exit code and what it wrote. -/
  | finished (code : Int) (output : String)
  /-- It cannot be started or does not end in time. -/
  | unavailable
deriving Repr, DecidableEq

/-- What a process answers. -/
def ProcessEnd.answer? : ProcessEnd → Option String
  | finished code output => if code = 0 then some output else none
  | unavailable => none

/-- How a question is settled: at once, or by a process with these arguments. -/
inductive Lookup where
  /-- The answer is known. -/
  | known (answer : Option String)
  /-- A process has to be asked. -/
  | ask (arguments : List String)
deriving Repr, DecidableEq

namespace Lookup

/-- The answer to a question. -/
def answer? (ask : List String → ProcessEnd) : Lookup → Option String
  | known answer => answer
  | .ask arguments => (ask arguments).answer?

/-- The commands that settle a question. -/
def commands (repository : String) : Lookup → List (List String)
  | known _ => []
  | ask arguments => [["git", "-C", repository] ++ arguments]

end Lookup

/-- The version of a file at a reference. -/
def content (tree : WorkingTree) (path ref : String) : Lookup :=
  if ref = workingTree then .known (tree.read? path)
  else .ask ["show", ref ++ ":" ++ path]

/-- The patch of a file between two references. A file that is not in the working tree has none
there. -/
def patch (tree : WorkingTree) (path base head : String) : Lookup :=
  if head = workingTree then
    if tree.has path then .ask ["diff", "--unified=0", base, "--", path] else .known none
  else .ask ["diff", "--unified=0", base, head, "--", path]

/-- Whether a patch has a hunk; no patch has none. -/
def showsDiff (patch : Option String) : Bool :=
  patch.any fun text => Text.containsText ['@', '@'] text.toList

/-- A repository as a content source. A text that cannot be parsed has no tree. -/
def toContentSource (tree : WorkingTree) (ask : List String → ProcessEnd)
    (parse : String → Option Tree) : ContentSource where
  content path ref := .ok (((content tree path ref).answer? ask).map fun text =>
    .ofTree text (parse text))
  patch path base head := (patch tree path base head).answer? ask
  hasDiff path base head := .ok (showsDiff ((patch tree path base head).answer? ask))

end ChangeLens.Git
