import ChangeLens.Span
import ChangeLens.Text.Blank
import ChangeLens.Text.Utf8
import ChangeLens.Text.Word
import ChangeLens.Tree

/-!
# `ChangeLens.Source`: a text together with its syntax tree

A source answers all questions about the nodes of its tree: their text, their normalized text (the
tokens without comments and layout), their span, the scopes around them and the variables declared
there. A source without a tree is a text that could not be parsed.
-/

set_option autoImplicit false

namespace ChangeLens

open ChangeLens.Text

/-- A text together with its syntax tree, if it could be parsed. -/
structure Source where
  /-- The text. -/
  text : String
  /-- Its syntax tree. -/
  tree : Option Tree
  /-- The octets of the text, to which the offsets of the tree refer. -/
  octets : List UInt8 := Utf8.encode text.toList
  /-- The octets are those of the text. -/
  octets_eq : octets = Utf8.encode text.toList := by rfl

namespace Source

/-- The source of a text and what it was parsed to. -/
def ofTree (text : String) (tree : Option Tree) : Source where
  text := text
  tree := tree

/-- The source of a text whose tree has these nodes in pre-order. The points are those of the
offsets. -/
def ofRows (text : String) (rows : List Tree.Row) : Source :=
  .ofTree text (Tree.ofRows? (Point.ofOffset (Utf8.encode text.toList)) rows)

/-! ### Text -/

/-- The octets of a node. -/
def slice (source : Source) (node : Tree) : List UInt8 :=
  (source.octets.drop node.label.start).take (node.label.stop - node.label.start)

/-- The characters of a node. -/
def chars (source : Source) (node : Tree) : List Char :=
  Utf8.decode (source.slice node)

/-- The text of a node. -/
def textOf (source : Source) (node : Tree) : String :=
  String.ofList (source.chars node)

/-- The text of a node that may be missing; a missing node has none. -/
def textOf? (source : Source) (node : Option Tree) : String :=
  node.elim "" source.textOf

/-- Kinds of nodes whose whole text is one token. -/
def isAtomic (kind : String) : Bool :=
  ["string", "template_string", "regex", "number"].contains kind

mutual

/-- The tokens of a tree in the order of the text, without comments. -/
def tokens : Tree → List Tree
  | .node label children =>
    if label.kind == "comment" then []
    else if isAtomic label.kind || children.isEmpty then [.node label children]
    else tokensAll children

/-- The tokens of several trees. -/
def tokensAll : List Tree → List Tree
  | [] => []
  | tree :: rest => tokens tree ++ tokensAll rest

end

/-- Characters that would run together with a neighbour of the same class. -/
def isWordish (c : Char) : Bool :=
  isWord c || c == '$'

/-- Joins tokens, with a single space exactly where two wordish characters would meet. `last` is the
last character written. Empty tokens do not count. -/
def joinTokens (last : Option Char) : List (List Char) → List Char
  | [] => []
  | [] :: rest => joinTokens last rest
  | (c :: token) :: rest =>
    let gap := if last.any isWordish && isWordish c then [' '] else []
    gap ++ (c :: token) ++ joinTokens (c :: token).getLast? rest

/-- The characters of a token. Runs of blanks in markup text count as one space. -/
def tokenChars (source : Source) (token : Tree) : List Char :=
  let cs := source.chars token
  if token.kind == "jsx_text" then [' '].intercalate (words cs) else cs

/-- The text of a node without comments and layout: two spellings that differ in these alone have
the same normalized text. -/
def normalized (source : Source) (node : Tree) : String :=
  String.ofList (joinTokens none ((tokens node).map source.tokenChars))

/-- The normalized text of a node that may be missing. -/
def normalized? (source : Source) (node : Option Tree) : String :=
  node.elim "" source.normalized

/-! ### Location -/

/-- The rows of the text in octets, without the line feeds between them. -/
def rows (source : Source) : List (List UInt8) :=
  source.octets.splitOn 10

/-- The column of a point in code points. Behind the last row there is nothing to count, and the
column in octets stays as it is. -/
def column (source : Source) (point : Point) : Nat :=
  match source.rows[point.row]? with
  | some row => (Utf8.decode (row.take point.column)).length
  | none => point.column

/-- Where a node starts and ends. -/
def span (source : Source) (node : Tree) : Span where
  startLine := node.label.startPoint.row + 1
  startColumn := source.column node.label.startPoint
  endLine := node.label.stopPoint.row + 1
  endColumn := source.column node.label.stopPoint

/-! ### Scopes and declarations -/

/-- Kinds of nodes that are functions. -/
def isFunctionKind (kind : String) : Bool :=
  ["function_declaration", "generator_function_declaration", "function_expression", "function",
   "generator_function", "arrow_function", "method_definition"].contains kind

/-- Kinds of nodes that open a scope. -/
def isScopeKind (kind : String) : Bool :=
  isFunctionKind kind || ["program", "statement_block", "class_body"].contains kind

/-- All nodes of the tree in pre-order. -/
def cursors (source : Source) : List Cursor :=
  source.tree.elim [] (Cursor.walkTree [])

/-- The nearest scope around a node; the root when nothing else is. -/
def enclosingScope? (source : Source) (cursor : Cursor) : Option Tree :=
  (cursor.ancestors.find? (isScopeKind ·.kind)).or source.tree

/-- The scopes around a node from the inside out, ending with the program. -/
def scopeChain (source : Source) (cursor : Cursor) : List Tree :=
  let chain := cursor.ancestors.filter (isScopeKind ·.kind)
  if chain.getLast?.any (·.kind == "program") then chain else chain ++ source.tree.toList

/-- The name that a declarator binds, when it binds a plain identifier. -/
def declaredName? (source : Source) (declarator : Tree) : Option String :=
  if declarator.kind == "variable_declarator" then
    match declarator.field? "name" with
    | some name => if name.kind == "identifier" then some (source.textOf name) else none
    | none => none
  else none

/-- The declarators of the tree that bind `name` as a plain identifier, in pre-order. -/
def declarators (source : Source) (name : String) : List Cursor :=
  source.cursors.filter fun cursor => source.declaredName? cursor.node == some name

/-- The names that some declarator of the tree binds. -/
def declaredNames (source : Source) : List String :=
  source.cursors.filterMap fun cursor => source.declaredName? cursor.node

/-! ### Classification -/

/-- Wrappers that do not change the value of what they hold. -/
def isWrapper (kind : String) : Bool :=
  ["parenthesized_expression", "as_expression", "satisfies_expression",
   "non_null_expression"].contains kind

/-- Whether a node is a wrapper with something in it; then what it holds. -/
def wrapped? (node : Tree) : Option Tree :=
  if isWrapper node.kind then node.parts.head? else none

/-- What a wrapper holds is smaller than the wrapper. -/
theorem size_lt_of_wrapped? {node inner : Tree} (h : wrapped? node = some inner) :
    inner.size < node.size := by
  unfold wrapped? at h
  split at h
  · have mem : inner ∈ node.parts := List.mem_of_mem_head? (Option.mem_def.2 h)
    exact Tree.size_lt_of_mem_children (List.mem_filter.1 mem).1
  · cases h

/-- The node inside parentheses, type assertions and non-null marks. -/
def unwrap (node : Tree) : Tree :=
  match _h : wrapped? node with
  | some inner => unwrap inner
  | none => node
termination_by node.size
decreasing_by exact size_lt_of_wrapped? (by assumption)

/-- The cursor at the node inside all wrappers. -/
def unwrapCursor (cursor : Cursor) : Cursor :=
  match _h : wrapped? cursor.node with
  | some inner => unwrapCursor (cursor.down inner)
  | none => cursor
termination_by cursor.node.size
decreasing_by exact size_lt_of_wrapped? (by assumption)

/-- The elements of an array literal. -/
def arrayElements? (node : Tree) : Option (List Tree) :=
  if node.kind == "array" then some node.parts else none

/-- What a spread element spreads. -/
def spreadArgument? (node : Tree) : Option Tree :=
  if node.kind == "spread_element" then node.parts.head? else none

/-- The name of an identifier. -/
def identifierName? (source : Source) (node : Tree) : Option String :=
  if node.kind == "identifier" then some (source.textOf node) else none

/-- The value a declarator starts with. -/
def initializer? (node : Tree) : Option Tree :=
  if node.kind == "variable_declarator" then node.field? "value" else none

end Source

end ChangeLens
