/-!
# `ChangeLens.Tree`: syntax trees

A tree carries on each node its grammar kind, the field it fills in its parent, whether it is named
(a rule of the grammar) or anonymous (a token), and its place in the source, both as octet offsets
and as points of row and octet column. Offsets and points come from the parser, and nothing here
ties the ones to the others: `Point.ofOffset` says which points a parser is expected to give.
`Tree.ofRows?` builds a tree from its nodes in pre-order. A `Cursor` is a node together with its
ancestors, so that questions about what stands around a node have an answer.
-/

set_option autoImplicit false

namespace ChangeLens

/-- A place in a text as a parser gives it. -/
structure Point where
  /-- The row, from zero. -/
  row : Nat
  /-- The column in octets, from zero. -/
  column : Nat
deriving Repr, DecidableEq

/-- The point of an offset: the number of line feeds before it, and the number of octets since the
last one. -/
def Point.ofOffset (octets : List UInt8) (offset : Nat) : Point :=
  let before := octets.take offset
  ⟨before.count 10, offset - (before.reverse.dropWhile (· != 10)).length⟩

/-- What a node says about itself. -/
structure NodeLabel where
  /-- Its place in the pre-order of the whole tree, from zero. -/
  id : Nat
  /-- The grammar kind; for a token its text. -/
  kind : String
  /-- The field it fills in its parent; empty when it fills none. -/
  field : String
  /-- Whether it is a rule of the grammar rather than a token. -/
  named : Bool
  /-- The offset of its first octet. -/
  start : Nat
  /-- The offset behind its last octet. -/
  stop : Nat
  /-- The point at which it starts. -/
  startPoint : Point
  /-- The point at which it ends. -/
  stopPoint : Point
deriving Repr, DecidableEq

/-- The label of a node in a text of one row: there a point is an offset. -/
abbrev NodeLabel.inRow (id : Nat) (kind field : String) (named : Bool) (start stop : Nat) :
    NodeLabel :=
  ⟨id, kind, field, named, start, stop, ⟨0, start⟩, ⟨0, stop⟩⟩

/-- A syntax tree. -/
inductive Tree where
  | node (label : NodeLabel) (children : List Tree)

namespace Tree

/-- What the root says about itself. -/
def label : Tree → NodeLabel
  | node label _ => label

/-- The direct children, tokens and comments included. -/
def children : Tree → List Tree
  | node _ children => children

/-- The grammar kind of the root. -/
def kind (tree : Tree) : String :=
  tree.label.kind

/-- The first child that fills a field. -/
def field? (tree : Tree) (name : String) : Option Tree :=
  tree.children.find? (·.label.field == name)

/-- All children that fill a field. -/
def fields (tree : Tree) (name : String) : List Tree :=
  tree.children.filter (·.label.field == name)

/-- The children that are rules of the grammar; comments are. -/
def namedChildren (tree : Tree) : List Tree :=
  tree.children.filter (·.label.named)

/-- The named children that are not comments. -/
def parts (tree : Tree) : List Tree :=
  tree.children.filter fun child => child.label.named && child.kind != "comment"

/-- Whether some direct child has this kind. -/
def hasChild (tree : Tree) (kind : String) : Bool :=
  tree.children.any (·.kind == kind)

/-- Whether two nodes stand for the same place: equal range and kind. -/
def same (a b : Tree) : Bool :=
  a.label.start == b.label.start && a.label.stop == b.label.stop && a.kind == b.kind

/-- Whether the range of one node lies in that of another one. -/
def contains (outer inner : Tree) : Bool :=
  outer.label.start ≤ inner.label.start && inner.label.stop ≤ outer.label.stop

mutual

/-- All nodes of a tree in pre-order. -/
def walk : Tree → List Tree
  | node label children => node label children :: walkAll children

/-- All nodes of several trees in pre-order. -/
def walkAll : List Tree → List Tree
  | [] => []
  | tree :: rest => tree.walk ++ walkAll rest

end

mutual

/-- The number of nodes of a tree. -/
def size : Tree → Nat
  | node _ children => 1 + sizeAll children

/-- The number of nodes of several trees. -/
def sizeAll : List Tree → Nat
  | [] => 0
  | tree :: rest => tree.size + sizeAll rest

end

/-- A child is smaller than its parent's forest. -/
theorem size_le_sizeAll {tree : Tree} {trees : List Tree} (h : tree ∈ trees) :
    tree.size ≤ sizeAll trees := by
  induction trees with
  | nil => cases h
  | cons first rest ih =>
    rw [sizeAll]
    cases h with
    | head => omega
    | tail _ h => have := ih h; omega

/-- A child is smaller than its parent. -/
theorem size_lt_of_mem_children {tree child : Tree} (h : child ∈ tree.children) :
    child.size < tree.size := by
  cases tree with
  | node label children =>
    have : child.size ≤ sizeAll children := size_le_sizeAll h
    rw [size]
    omega

/-- One node of a tree in pre-order, with the number of its children. -/
structure Row where
  /-- The grammar kind. -/
  kind : String
  /-- The field it fills in its parent. -/
  field : String
  /-- Whether it is a rule of the grammar. -/
  named : Bool
  /-- The offset of its first octet. -/
  start : Nat
  /-- The offset behind its last octet. -/
  stop : Nat
  /-- The number of its children. -/
  childCount : Nat

/-- Puts a node in front of the trees that follow it: it takes as many of them as it has children. -/
def adopt (pointOf : Nat → Point) (row : Row × Nat) (following : List Tree) : List Tree :=
  let label : NodeLabel :=
    ⟨row.2, row.1.kind, row.1.field, row.1.named, row.1.start, row.1.stop, pointOf row.1.start,
      pointOf row.1.stop⟩
  node label (following.take row.1.childCount) :: following.drop row.1.childCount

/-- The tree with these nodes in pre-order, for a parser that gives these points for offsets. -/
def ofRows? (pointOf : Nat → Point) (rows : List Row) : Option Tree :=
  (rows.zipIdx.foldr (adopt pointOf) []).head?

end Tree

/-- A node with its ancestors, the nearest one first. -/
structure Cursor where
  /-- The node itself. -/
  node : Tree
  /-- Its parent, the parent of that, and so on up to the root. -/
  ancestors : List Tree

namespace Cursor

/-- The cursor at the root of a tree. -/
def ofRoot (tree : Tree) : Cursor :=
  ⟨tree, []⟩

/-- The grammar kind of the node. -/
def kind (cursor : Cursor) : String :=
  cursor.node.kind

/-- The parent of the node. -/
def parent? (cursor : Cursor) : Option Tree :=
  cursor.ancestors.head?

/-- The cursor at a child of the node. -/
def down (cursor : Cursor) (child : Tree) : Cursor :=
  ⟨child, cursor.node :: cursor.ancestors⟩

/-- The first child that fills a field. -/
def field? (cursor : Cursor) (name : String) : Option Cursor :=
  (cursor.node.field? name).map cursor.down

/-- The named children that are not comments. -/
def parts (cursor : Cursor) : List Cursor :=
  cursor.node.parts.map cursor.down

mutual

/-- All nodes of a tree below `above`, in pre-order. -/
def walkTree (above : List Tree) : Tree → List Cursor
  | .node label children =>
    ⟨.node label children, above⟩ :: walkTrees (.node label children :: above) children

/-- All nodes of several trees below `above`, in pre-order. -/
def walkTrees (above : List Tree) : List Tree → List Cursor
  | [] => []
  | tree :: rest => walkTree above tree ++ walkTrees above rest

end

end Cursor

end ChangeLens
