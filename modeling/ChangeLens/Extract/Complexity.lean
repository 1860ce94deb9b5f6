import ChangeLens.Source

/-!
# `ChangeLens.Extract.Complexity`: cyclomatic complexity

One plus the number of branches (conditions, loops, cases, conditional expressions, handlers) and of
short-circuit operators `&&` and `||` in a tree.
-/

set_option autoImplicit false

namespace ChangeLens.Extract

/-- Kinds of nodes that branch. -/
def isBranchKind (kind : String) : Bool :=
  ["if_statement", "while_statement", "do_statement", "for_statement", "for_in_statement",
   "switch_case", "ternary_expression", "catch_clause"].contains kind

/-- Operators that may leave out their right operand. -/
def isShortCircuit (operator : String) : Bool :=
  operator == "&&" || operator == "||"

/-- Whether control branches at a node itself. -/
def isBranch (node : Tree) : Bool :=
  isBranchKind node.kind ||
    (node.kind == "binary_expression" &&
      (node.field? "operator").any (isShortCircuit ·.kind))

/-- The cyclomatic complexity of a tree: one more than its branches. -/
def complexity (node : Tree) : Nat :=
  1 + node.walk.countP isBranch

end ChangeLens.Extract
