import ChangeLens.Proofs.Overloads
import Mathlib.Algebra.GroupWithZero.Nat

/-!
# `ChangeLens.Proofs.BranchCounts`: two counts of the same branches

`Extract.complexity` counts the branches of one tree, on a walk and by the kinds of nodes.
`Extract.fileComplexity` counts those of a file while its sites are collected: the branching nodes,
and the short-circuit operators among the recorded ones, which are known by their text.

* `complexity_sub_one`: the branches of a node are its own one, if it is one, and those of its
  children. So no node has more of them than a node above it (`complexity_le_of_mem_walk`).
* `fileComplexity_eq`: the two counts agree on every tree in which binary expressions are named and
  their operators are what they are called (`Source.SpellsOperators`). The first condition is what it
  takes for an operator to be recorded, the second one what makes text and kind interchangeable.

`complexities_agree` puts these together and reads them off the functions of a model.
-/

set_option autoImplicit false

namespace ChangeLens

namespace Tree

/-- A walk that visits a node visits everything below it, in the same order. -/
theorem walk_sublist_of_mem_walk {tree inner : Tree} (h : inner ∈ tree.walk) :
    inner.walk.Sublist tree.walk := by
  match tree, h with
  | .node label children, h =>
    rw [walk, walkAll_eq_flatMap, List.mem_cons, List.mem_flatMap] at h
    obtain rfl | ⟨child, hchild, hinner⟩ := h
    · exact List.Sublist.refl _
    · refine (walk_sublist_of_mem_walk hinner).trans ?_
      rw [walk, walkAll_eq_flatMap]
      exact .cons _ (List.sublist_flatten_of_mem (List.mem_map_of_mem hchild))
termination_by tree.size
decreasing_by exact size_lt_of_mem_children hchild

end Tree

namespace Cursor

/-- What stands above a node of a walked tree visits the node, or stands above the whole tree. -/
theorem node_mem_walk_of_mem_ancestors {above : List Tree} {tree outer : Tree} {cursor : Cursor}
    (h : cursor ∈ walkTree above tree) (houter : outer ∈ cursor.ancestors) :
    outer ∈ above ∨ cursor.node ∈ outer.walk := by
  match tree, h with
  | .node label children, h =>
    rw [walkTree, walkTrees_eq_flatMap, List.mem_cons, List.mem_flatMap] at h
    obtain rfl | ⟨child, hchild, hcursor⟩ := h
    · exact .inl houter
    · have hbelow : cursor.node ∈ (Tree.node label children).walk := by
        refine Tree.mem_walk_of_child hchild ?_
        rw [← map_node_walkTree (.node label children :: above) child]
        exact List.mem_map_of_mem hcursor
      -- In the child's walk the root counts among the trees that stand above.
      rcases node_mem_walk_of_mem_ancestors hcursor houter with hmem | hmem
      · rcases List.mem_cons.1 hmem with rfl | hmem
        · exact .inr hbelow
        · exact .inl hmem
      · exact .inr hmem
termination_by tree.size
decreasing_by exact Tree.size_lt_of_mem_children hchild

end Cursor

/-- Binary expressions are named, and the text of their operator is its kind. -/
def Source.SpellsOperators (source : Source) (tree : Tree) : Prop :=
  ∀ node ∈ tree.walk, node.kind = "binary_expression" →
    node.label.named = true ∧
      ∀ operator ∈ node.field? "operator", source.textOf operator = operator.kind

instance (source : Source) (tree : Tree) : Decidable (source.SpellsOperators tree) :=
  inferInstanceAs (Decidable (∀ node ∈ tree.walk, _))

namespace Extract

/-! ### One tree -/

/-- The branches of a tree, one by one: its own, and those of its children. -/
theorem countP_walk (p : Tree → Bool) (tree : Tree) :
    tree.walk.countP p =
      (p tree).toNat + (tree.children.map fun child => child.walk.countP p).sum := by
  cases tree with
  | node label children =>
    rw [Tree.walk, Tree.walkAll_eq_flatMap, List.countP_cons, List.countP_flatMap, Nat.add_comm]
    cases p (.node label children) <;> rfl

/-- The branches of a tree are its own and those of its children. -/
theorem complexity_sub_one (tree : Tree) :
    complexity tree - 1 =
      (isBranch tree).toNat + (tree.children.map fun child => complexity child - 1).sum := by
  simp only [complexity, Nat.add_sub_cancel_left]
  exact countP_walk isBranch tree

/-- A node has no more branches than a node above it. -/
theorem complexity_le_of_mem_walk {outer inner : Tree} (h : inner ∈ outer.walk) :
    complexity inner ≤ complexity outer := by
  have hcount := (Tree.walk_sublist_of_mem_walk h).countP_le (p := isBranch)
  unfold complexity
  omega

/-! ### The whole file -/

/-- Whether a node is recorded as an operator that may leave out its right operand. -/
def recordsShortCircuit (source : Source) (node : Tree) : Bool :=
  node.label.named &&
    (node.kind == "binary_expression" &&
      (node.field? "operator").any fun operator => isShortCircuit (source.textOf operator))

/-- Operators that may skip an operand are logical. -/
theorem operatorClass?_of_isShortCircuit {operator : String} (h : isShortCircuit operator = true) :
    operatorClass? operator = some .logical := by
  rw [isShortCircuit, Bool.or_eq_true, beq_iff_eq, beq_iff_eq] at h
  rcases h with rfl | rfl
  · decide
  · decide

/-- Short-circuit operators are logical ones, so every one that is read is recorded. -/
theorem operatorAt?_isShortCircuit (source : Source) (node : Tree) :
    ((operatorAt? source node).map fun site => isShortCircuit site.operator).getD false =
      (node.field? "operator").any fun operator => isShortCircuit (source.textOf operator) := by
  cases hfield : node.field? "operator" with
  | none => simp [operatorAt?, hfield]
  | some operator =>
    cases hshort : isShortCircuit (source.textOf operator) with
    | true => simp [operatorAt?, hfield, hshort, operatorClass?_of_isShortCircuit hshort]
    | false =>
      cases hclass : operatorClass? (source.textOf operator) <;>
        simp [operatorAt?, hfield, hclass, hshort]

/-- The short-circuit operators among the recorded ones, counted on a walk. -/
theorem countP_operators {source : Source} {tree : Tree} (htree : source.tree = some tree) :
    (operators source).countP (fun site => isShortCircuit site.operator) =
      tree.walk.countP (recordsShortCircuit source) := by
  rw [operators, List.countP_filterMap, cursorsOf, List.countP_filter, namedCursors,
    List.countP_filter, ← Source.map_node_cursors htree, List.countP_map]
  refine List.countP_congr fun cursor _ => ?_
  simp only [operatorAt?_isShortCircuit, recordsShortCircuit, Function.comp_apply, Cursor.kind,
    List.contains_cons, List.contains_nil, Bool.or_false, Bool.and_eq_true]
  tauto

/-- No binary expression has one of the kinds that branch. -/
theorem ne_binary_of_isBranchKind {kind : String} (h : isBranchKind kind = true) :
    kind ≠ "binary_expression" := by
  rintro rfl
  exact absurd h (by decide)

/-- A node branches by its kind, or it is recorded as a short-circuit operator. -/
theorem isBranch_eq_recordsShortCircuit {source : Source} {tree node : Tree}
    (hspells : source.SpellsOperators tree) (hnode : node ∈ tree.walk)
    (hkind : isBranchKind node.kind = false) : isBranch node = recordsShortCircuit source node := by
  unfold isBranch recordsShortCircuit
  rw [hkind, Bool.false_or]
  by_cases hbinary : node.kind = "binary_expression"
  · obtain ⟨hnamed, htext⟩ := hspells node hnode hbinary
    rw [hnamed, Bool.true_and]
    cases hfield : node.field? "operator" with
    | none => rfl
    | some operator => simp only [Option.any_some, htext operator hfield]
  · rw [beq_eq_false_iff_ne.2 hbinary, Bool.false_and, Bool.false_and, Bool.and_false]

/-- The count of the file is the count of its root. -/
theorem fileComplexity_eq {source : Source} {tree : Tree} (htree : source.tree = some tree)
    (hspells : source.SpellsOperators tree) : fileComplexity source = complexity tree := by
  -- The first sum of the file counts nodes by their kinds, the second one counts the operators that
  -- were extracted.
  have hkinds : source.cursors.countP (fun cursor => isBranchKind cursor.kind) =
      tree.walk.countP fun node => isBranchKind node.kind := by
    rw [← Source.map_node_cursors htree, List.countP_map]
    rfl
  -- The nodes that branch are cut in two: those whose kind says so, and the operators.
  have hsplit := List.countP_eq_countP_filter_add tree.walk isBranch fun node =>
    isBranchKind node.kind
  have hfirst : (tree.walk.filter fun node => isBranchKind node.kind).countP isBranch =
      tree.walk.countP fun node => isBranchKind node.kind := by
    rw [List.countP_filter]
    refine List.countP_congr fun node _ => ?_
    cases hkind : isBranchKind node.kind with
    | true => simp [isBranch, hkind]
    | false => simp
  have hsecond : (tree.walk.filter fun node => !isBranchKind node.kind).countP isBranch =
      tree.walk.countP (recordsShortCircuit source) := by
    rw [List.countP_filter]
    refine List.countP_congr fun node hnode => ?_
    cases hkind : isBranchKind node.kind with
    | true => simp [recordsShortCircuit, ne_binary_of_isBranchKind hkind]
    | false => simp [isBranch_eq_recordsShortCircuit hspells hnode hkind]
  rw [fileComplexity, complexity, hkinds, countP_operators htree]
  omega

/-- A function has the complexity of its node. -/
theorem complexity_functionSite (source : Source) (cursor : Cursor) :
    (functionSite source cursor).complexity = complexity cursor.node := rfl

/-- The branches of a node are its own one, if it is one, and those of its children; so a function
has no more than a function around it. And in every tree with named binary expressions whose operators
are what they are called, the complexity collected for the file is that of the root, which bounds
the complexity of every function of the model. -/
theorem complexities_agree (source : Source) :
    (∀ node : Tree, complexity node - 1 =
      (isBranch node).toNat + (node.children.map fun child => complexity child - 1).sum) ∧
    (∀ inner ∈ source.cursors, ∀ outer ∈ source.cursors, outer.node ∈ inner.ancestors →
      (functionSite source inner).complexity ≤ (functionSite source outer).complexity) ∧
    ∀ (tree : Tree) (dialect : String), source.tree = some tree →
      knownDialects.contains dialect = true → source.SpellsOperators tree →
        (Model.ofSource source dialect).complexity = complexity tree ∧
        ∀ site ∈ (Model.ofSource source dialect).functions,
          site.complexity ≤ (Model.ofSource source dialect).complexity := by
  refine ⟨complexity_sub_one, ?_, ?_⟩
  · intro inner hinner outer _ habove
    rw [Source.cursors] at hinner
    cases htree : source.tree with
    | none => rw [htree] at hinner; cases hinner
    | some tree =>
      rw [htree] at hinner
      -- Nothing stands above the root of the walk, so the outer node is in the tree.
      have hbelow := Cursor.node_mem_walk_of_mem_ancestors hinner habove
      exact complexity_le_of_mem_walk (hbelow.resolve_left List.not_mem_nil)
  · intro tree dialect htree hdialect hspells
    have hparsed : (source.tree.isSome && knownDialects.contains dialect) = true := by
      rw [htree, hdialect]
      rfl
    rw [Model.ofSource, if_pos hparsed]
    refine ⟨fileComplexity_eq htree hspells, ?_⟩
    intro site hsite
    rw [functions_eq_map_functionSite] at hsite
    obtain ⟨cursor, hcursor, rfl⟩ := List.mem_map.1 hsite
    -- A function is a node of the tree, and a node has no more branches than the tree.
    have hnode : cursor.node ∈ tree.walk := by
      rw [← Source.map_node_cursors htree]
      exact List.mem_map_of_mem (List.mem_filter.1 (List.mem_filter.1 hcursor).1).1
    rw [complexity_functionSite, fileComplexity_eq htree hspells]
    exact complexity_le_of_mem_walk hnode

/-- The function `x=>a&&b?1:2`: its conditional expression branches, and so does the condition. -/
def innerFunction : Tree :=
  .node (.inRow 3 "arrow_function" "body" true 3 14)
    [.node (.inRow 4 "identifier" "parameter" true 3 4) [],
     .node (.inRow 5 "ternary_expression" "body" true 6 14)
      [.node (.inRow 6 "binary_expression" "condition" true 6 10)
        [.node (.inRow 7 "identifier" "left" true 6 7) [],
         .node (.inRow 8 "&&" "operator" false 7 9) [],
         .node (.inRow 9 "identifier" "right" true 9 10) []],
       .node (.inRow 10 "number" "consequence" true 11 12) [],
       .node (.inRow 11 "number" "alternative" true 13 14) []]]

/-- A function that returns it. -/
def outerFunction : Tree :=
  .node (.inRow 1 "arrow_function" "" true 0 14)
    [.node (.inRow 2 "identifier" "parameter" true 0 1) [], innerFunction]

/-- A file with these two functions. -/
def curriedTree : Tree :=
  .node (.inRow 0 "program" "" true 0 14) [outerFunction]

/-- The text of the file. -/
def curriedSource : Source where
  text := "y=>x=>a&&b?1:2"
  tree := some curriedTree

/-- Both functions and the file have the two branches. -/
theorem complexities_agree_curried :
    knownDialects.contains "tsx" = true ∧ curriedSource.SpellsOperators curriedTree ∧
    (functionSite curriedSource ⟨innerFunction, [outerFunction, curriedTree]⟩).complexity ≤
      (functionSite curriedSource ⟨outerFunction, [curriedTree]⟩).complexity ∧
    (Model.ofSource curriedSource "tsx").complexity = complexity curriedTree ∧
    (Model.ofSource curriedSource "tsx").complexity = 3 ∧
    (Model.ofSource curriedSource "tsx").functions.map (·.complexity) = [3, 3] := by
  have hdialect : knownDialects.contains "tsx" = true := by decide
  have hspells : curriedSource.SpellsOperators curriedTree := by decide +kernel
  obtain ⟨-, hnested, hfile⟩ := complexities_agree curriedSource
  obtain ⟨hsame, -⟩ := hfile curriedTree "tsx" rfl hdialect hspells
  refine ⟨hdialect, hspells, ?_, hsame, by decide +kernel, by decide +kernel⟩
  exact hnested _ (List.mem_of_getElem? (i := 3) rfl) _ (List.mem_of_getElem? (i := 1) rfl)
    List.mem_cons_self

end Extract

end ChangeLens
