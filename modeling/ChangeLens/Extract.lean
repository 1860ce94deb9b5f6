import ChangeLens.Extract.Calls
import ChangeLens.Extract.Declarations
import ChangeLens.Extract.Modules
import ChangeLens.Extract.Statements
import ChangeLens.Extract.Types
import ChangeLens.Model

/-!
# `ChangeLens.Extract`: the structural model of a source

Each list of the model is read off the nodes of the tree in pre-order, independently of all others.
A source without a tree, or in a dialect that has no grammar, gives the empty model.
-/

set_option autoImplicit false

namespace ChangeLens

/-- The dialects that have a grammar. -/
def knownDialects : List String :=
  ["typescript", "tsx"]

/-- The last component of a path: what follows the last slash, empty components and single dots
left out. -/
def fileName (path : String) : List Char :=
  ((Text.splitAtChar '/' path.toList).filter fun part => part != [] && part != ['.']).getLast?.getD []

/-- The ending of a file name with its dot; a dot at the start or at the end makes none. -/
def pathSuffix (path : String) : String :=
  let name := fileName path
  let ending := Text.afterLastChar '.' name
  if name.contains '.' && !ending.isEmpty && ending.length + 1 < name.length then
    String.ofList ('.' :: ending)
  else ""

/-- The dialect of a file by its path. Markup is possible in everything but plain TypeScript. -/
def dialectForPath (path : String) : String :=
  if [".ts", ".mts", ".cts"].contains (Text.toLowerAscii (pathSuffix path)) then "typescript"
  else "tsx"

namespace Extract

/-- The complexity of a whole file: one, its branches, and its recorded short-circuit operators. -/
def fileComplexity (source : Source) : Nat :=
  1 + source.cursors.countP (fun cursor => isBranchKind cursor.kind) +
    (operators source).countP (fun site => isShortCircuit site.operator)

end Extract

/-- The structural model of a source in a dialect. -/
def Model.ofSource (source : Source) (dialect : String) : Model :=
  if source.tree.isSome && knownDialects.contains dialect then
    { dialect := dialect
      text := source.text
      functions := Extract.functions source
      types := Extract.types source
      calls := Extract.calls source
      imports := Extract.imports source
      exports := Extract.exports source
      classes := Extract.classes source
      interfaces := Extract.interfaces source
      declared := Extract.variableSites source
      hooks := Extract.hooks source
      elements := Extract.elements source
      handlers := Extract.handlers source
      renders := Extract.renders source
      arrayMutations := Extract.arrayMutations source
      objectMutations := Extract.objectMutations source
      returns := Extract.returns source
      ternaries := Extract.ternaries source
      conditionals := Extract.conditionals source
      loops := Extract.loops source
      tries := Extract.tries source
      throws := Extract.throws source
      operators := Extract.operators source
      spreads := Extract.spreads source
      destructurings := Extract.destructurings source
      assignments := Extract.assignments source
      complexity := Extract.fileComplexity source }
  else { dialect := dialect, text := source.text, parsed := false }

end ChangeLens
