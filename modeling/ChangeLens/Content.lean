import ChangeLens.Analyzer
import ChangeLens.Source

/-!
# `ChangeLens.Content`: where the versions of files come from

An analysis asks a `ContentSource` for the versions of a file, for the patch between them and
whether they differ at all. `Archive` is one that holds everything itself, with faults where it
should fail.
-/

set_option autoImplicit false

namespace ChangeLens

/-- Why a version of a file cannot be had. -/
inductive Fault where
  /-- An error of some kind, with its text. -/
  | raises (kind text : String)
  /-- The worker that asks ends at once. -/
  | exits (code : Int)
deriving Repr, DecidableEq

/-- Where the versions of files come from. -/
structure ContentSource where
  /-- The version of a file at a reference, if there is one. -/
  content : (path ref : String) → Except Fault (Option Source)
  /-- The patch of a file between two references, if there is one. -/
  patch : (path base head : String) → Option String
  /-- Whether a file differs between two references, or why that cannot be said. -/
  hasDiff : (path base head : String) → Except String Bool

/-- A version of a file. -/
structure Version where
  /-- The reference. -/
  ref : String
  /-- The path. -/
  path : String
  /-- The text and its tree. -/
  source : Source

/-- A patch of a file. -/
structure Patch where
  /-- The path. -/
  path : String
  /-- The reference of the base version. -/
  base : String
  /-- The reference of the head version. -/
  head : String
  /-- The unified diff. -/
  text : String
deriving Repr, DecidableEq

/-- Where an archive fails for a file. -/
inductive ArchiveFault where
  /-- When asked whether the file differs. -/
  | atDiff (message : String)
  /-- When asked for a version. -/
  | atContent (fault : Fault)
deriving Repr, DecidableEq

/-- A content source that holds everything itself. -/
structure Archive where
  /-- Versions; the last one for a reference and a path counts. -/
  versions : List Version := []
  /-- Patches; the last one for a path and two references counts. -/
  patches : List Patch := []
  /-- Faults by path. -/
  faults : List (String × ArchiveFault) := []

namespace Archive

/-- The version of a file at a reference. -/
def version? (archive : Archive) (path ref : String) : Option Source :=
  (lastWith? (fun version => (version.ref, version.path)) (ref, path) archive.versions).map
    (·.source)

/-- The patch of a file. -/
def patch? (archive : Archive) (path base head : String) : Option String :=
  (lastWith? (fun patch => (patch.path, patch.base, patch.head)) (path, base, head)
    archive.patches).map (·.text)

/-- The version of a file at a reference, unless the archive fails there. -/
def content (archive : Archive) (path ref : String) : Except Fault (Option Source) :=
  match archive.faults.lookup path with
  | some (.atContent fault) => .error fault
  | _ => .ok (archive.version? path ref)

/-- A file differs when its texts do; one that is missing differs from every text. -/
def hasDiff (archive : Archive) (path base head : String) : Except String Bool :=
  match archive.faults.lookup path with
  | some (.atDiff message) => .error message
  | some (.atContent _) => .ok true
  | none =>
    .ok ((archive.version? path base).map (·.text) != (archive.version? path head).map (·.text))

/-- An archive as a content source. -/
def toContentSource (archive : Archive) : ContentSource :=
  ⟨archive.content, archive.patch?, archive.hasDiff⟩

end Archive

end ChangeLens
