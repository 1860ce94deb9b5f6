import ChangeLens.Source
import Mathlib.Data.List.Flatten

/-!
# `ChangeLens.Proofs.Walks`: what a walk visits

`Tree.walk` lists the nodes of a tree and `Cursor.walkTree` lists them with their ancestors, both in
pre-order. They visit the same nodes (`map_node_walkTree`), with every node its children in their
order (`map_down_sublist_walkTree`), and every node below all that stands above the tree
(`ancestors_suffix_of_mem_walkTree`).
-/

set_option autoImplicit false

namespace ChangeLens

namespace Tree

/-- The label of a node. -/
@[simp] theorem label_node (label : NodeLabel) (children : List Tree) :
    (node label children).label = label := rfl

/-- Its children. -/
@[simp] theorem children_node (label : NodeLabel) (children : List Tree) :
    (node label children).children = children := rfl

/-- Its kind is that of its label. -/
@[simp] theorem kind_node (label : NodeLabel) (children : List Tree) :
    (node label children).kind = label.kind := rfl

/-- Several trees are walked one after the other. -/
theorem walkAll_eq_flatMap (trees : List Tree) : walkAll trees = trees.flatMap walk := by
  induction trees with
  | nil => rfl
  | cons tree rest ih => rw [walkAll, ih, List.flatMap_cons]

/-- A walk begins at the root. -/
theorem mem_walk_self (tree : Tree) : tree ∈ tree.walk := by
  cases tree
  rw [walk]
  exact List.mem_cons_self

/-- A walk visits what a walk of a child visits. -/
theorem mem_walk_of_child {label : NodeLabel} {children : List Tree} {child other : Tree}
    (hchild : child ∈ children) (h : other ∈ child.walk) : other ∈ (node label children).walk := by
  rw [walk, walkAll_eq_flatMap]
  exact List.mem_cons_of_mem _ (List.mem_flatMap.2 ⟨child, hchild, h⟩)

/-- A walk meets the children. -/
theorem mem_walk_of_mem_children {tree child : Tree} (h : child ∈ tree.children) :
    child ∈ tree.walk := by
  cases tree with
  | node label children => exact mem_walk_of_child h (mem_walk_self child)

/-- A walk that visits a node visits all nodes below it. -/
theorem mem_walk_trans {tree middle inner : Tree} (h : middle ∈ tree.walk)
    (hinner : inner ∈ middle.walk) : inner ∈ tree.walk := by
  match tree, h with
  | .node label children, h =>
    rw [walk, walkAll_eq_flatMap, List.mem_cons, List.mem_flatMap] at h
    obtain rfl | ⟨child, hchild, hmiddle⟩ := h
    · exact hinner
    · exact mem_walk_of_child hchild (mem_walk_trans hmiddle hinner)
termination_by tree.size
decreasing_by exact size_lt_of_mem_children hchild

end Tree

namespace Cursor

/-- Several trees are walked one after the other, all below the same ancestors. -/
theorem walkTrees_eq_flatMap (above : List Tree) (trees : List Tree) :
    walkTrees above trees = trees.flatMap (walkTree above) := by
  induction trees with
  | nil => rfl
  | cons tree rest ih => rw [walkTrees, ih, List.flatMap_cons]

/-- A walk of cursors begins at the root. -/
theorem mem_walkTree_self (above : List Tree) (tree : Tree) :
    ⟨tree, above⟩ ∈ walkTree above tree := by
  cases tree
  rw [walkTree]
  exact List.mem_cons_self

/-- A walk that visits a node visits its children in their order. -/
theorem map_down_sublist_walkTree {above : List Tree} {tree : Tree} {cursor : Cursor}
    (h : cursor ∈ walkTree above tree) :
    (cursor.node.children.map cursor.down).Sublist (walkTree above tree) := by
  match tree, h with
  | .node label children, h =>
    rw [walkTree, walkTrees_eq_flatMap, List.mem_cons, List.mem_flatMap] at h
    rw [walkTree, walkTrees_eq_flatMap]
    refine List.Sublist.cons _ ?_
    -- The visited node is the root, or it stands in the tree below one of the root's children.
    obtain rfl | ⟨child, hchild, hcursor⟩ := h
    · rw [List.map_eq_flatMap]
      refine List.Sublist.flatMap_right _ fun child _ => ?_
      exact List.singleton_sublist.2 (mem_walkTree_self _ child)
    · refine (map_down_sublist_walkTree hcursor).trans ?_
      exact List.sublist_flatten_of_mem (List.mem_map_of_mem hchild)
termination_by tree.size
decreasing_by exact Tree.size_lt_of_mem_children hchild

/-- What stands above a walked tree stands above all its nodes. -/
theorem ancestors_suffix_of_mem_walkTree {above : List Tree} {tree : Tree} {cursor : Cursor}
    (h : cursor ∈ walkTree above tree) : above <:+ cursor.ancestors := by
  match tree, h with
  | .node label children, h =>
    rw [walkTree, walkTrees_eq_flatMap, List.mem_cons, List.mem_flatMap] at h
    obtain rfl | ⟨child, hchild, hcursor⟩ := h
    · exact List.suffix_refl above
    · exact (List.suffix_cons _ above).trans (ancestors_suffix_of_mem_walkTree hcursor)
termination_by tree.size
decreasing_by exact Tree.size_lt_of_mem_children hchild

mutual

/-- A walk with ancestors visits the nodes that a walk without them visits. -/
theorem map_node_walkTree (above : List Tree) (tree : Tree) :
    (walkTree above tree).map (·.node) = tree.walk := by
  match tree with
  | .node label children =>
    rw [walkTree, Tree.walk, List.map_cons, map_node_walkTrees]

/-- Without their ancestors, the cursors of several trees are their walk. -/
theorem map_node_walkTrees (above : List Tree) (trees : List Tree) :
    (walkTrees above trees).map (·.node) = Tree.walkAll trees := by
  match trees with
  | [] => rfl
  | tree :: rest =>
    rw [walkTrees, Tree.walkAll, List.map_append, map_node_walkTree, map_node_walkTrees]

end

end Cursor

namespace Source

/-- The children of a node are met in their order. -/
theorem map_down_sublist_cursors {source : Source} {cursor : Cursor} (h : cursor ∈ source.cursors) :
    (cursor.node.children.map cursor.down).Sublist source.cursors := by
  rw [cursors] at h ⊢
  cases htree : source.tree with
  | none => rw [htree] at h; cases h
  | some tree =>
    rw [htree] at h
    exact Cursor.map_down_sublist_walkTree h

/-- Every child of a node of the source is one too. -/
theorem down_mem_cursors {source : Source} {cursor : Cursor} {child : Tree}
    (hcursor : cursor ∈ source.cursors) (hchild : child ∈ cursor.node.children) :
    cursor.down child ∈ source.cursors :=
  (map_down_sublist_cursors hcursor).subset (List.mem_map_of_mem hchild)

/-- A source with a node has a tree. -/
theorem isSome_tree {source : Source} {cursor : Cursor} (h : cursor ∈ source.cursors) :
    source.tree.isSome = true := by
  rw [cursors] at h
  cases htree : source.tree with
  | none => rw [htree] at h; cases h
  | some tree => rfl

/-- Without their ancestors, the cursors of a source are the walk of its tree. -/
theorem map_node_cursors {source : Source} {tree : Tree} (h : source.tree = some tree) :
    source.cursors.map (·.node) = tree.walk := by
  rw [cursors, h]
  exact Cursor.map_node_walkTree [] tree

end Source

end ChangeLens
