import ChangeLens.Analyzer
import ChangeLens.Pairing

/-!
# `ChangeLens.Analyzer.Branches`: conditions, loops, operators and file complexity
-/

set_option autoImplicit false

namespace ChangeLens.Analyzer

open ChangeLens.Pairing

/-! ### If statements -/

/-- A record about an if statement. -/
def conditionalRecord (target : Target) (kind : ChangeKind) (severity : Severity)
    (site : ConditionalSite) (detail : String) : Record :=
  target.report kind severity site.span "IfStatement" detail

/-- The differences between the if statements of two versions. The same scope and branches with
another condition are a modification; the condition alone never pairs two statements. -/
def compareConditionals : Comparison := fun target base head =>
  let equal := pairBy (fun site : ConditionalSite => (site.fingerprint, site.condition))
    base.conditionals head.conditionals
  let paired := pairBy ConditionalSite.fingerprint equal.base equal.head
  paired.pairs.map (fun (before, after) =>
    conditionalRecord target .conditionalModified .high after
      s!"Conditional modified in {after.scope}: {arrow before.condition after.condition}") ++
  paired.head.map (fun site =>
    conditionalRecord target .conditionalAdded .high site
      s!"Conditional added in {site.scope}: {site.condition}") ++
  paired.base.map (fun site =>
    conditionalRecord target .conditionalRemoved .medium site
      s!"Conditional removed from {site.scope}: {site.condition}")

/-- If statements. -/
def conditionals : Analyzer :=
  .of "conditionals" (some .controlFlow) compareConditionals

/-! ### Loops -/

/-- A record about a loop. -/
def loopRecord (target : Target) (kind : ChangeKind) (site : LoopSite) (action : String) : Record :=
  target.report kind kind.defaultSeverity site.span site.nodeLabel s!"Loop {action}: {site.kind}"

/-- The differences between the loops of two versions. -/
def compareLoops : Comparison := fun target base head =>
  let paired := pairLocated LoopSite.text (fun site => site.span.position) base.loops head.loops
  paired.head.map (fun site => loopRecord target .loopAdded site "added") ++
    paired.pairs.map (fun (_, after) => loopRecord target .loopModified after "modified") ++
    paired.base.map (fun site => loopRecord target .loopRemoved site "removed")

/-- Loops. -/
def loops : Analyzer :=
  .of "loops" (some .controlFlow) compareLoops

/-! ### Conditional expressions -/

/-- A record about a conditional expression. -/
def ternaryRecord (target : Target) (kind : ChangeKind) (site : TernarySite) (action : String) :
    Record :=
  target.report kind kind.defaultSeverity site.span "ConditionalExpression"
    s!"Ternary expression {action}: condition {site.condition}"

/-- The differences between the conditional expressions of two versions. -/
def compareTernaries : Comparison := fun target base head =>
  let paired := pairLocated
    (fun site : TernarySite => (site.condition, site.whenTrue, site.whenFalse))
    (fun site => site.span.position) base.ternaries head.ternaries
  paired.head.map (fun site => ternaryRecord target .ternaryAdded site "added") ++
    paired.base.map (fun site => ternaryRecord target .ternaryRemoved site "removed")

/-- Conditional expressions. -/
def ternaries : Analyzer :=
  .of "ternaries" (some .controlFlow) compareTernaries

/-! ### Operators -/

/-- The same operands around another operator at the same place. -/
def compareOperators (category : OperatorClass) (kind : ChangeKind) (noun : String) : Comparison :=
  fun target base head =>
    let ofClass (model : Model) := model.operators.filter (·.category == category)
    let paired := pairLocated (fun site : OperatorSite => (site.operator, site.left, site.right))
      (fun site => site.span.position) (ofClass base) (ofClass head)
    let changed := paired.pairs.filter fun (before, after) =>
      before.operator != after.operator && before.left == after.left && before.right == after.right
    changed.map fun (before, after) =>
      target.report kind .medium after.span "BinaryExpression"
        (s!"{noun} operator changed from {before.operator} to {after.operator} " ++
          s!"between {after.left} and {after.right}")

/-- Comparison operators. -/
def comparisonOperators : Analyzer :=
  .of "comparison-operators" (some .controlFlow)
    (compareOperators .comparison .comparisonOperatorChanged "Comparison")

/-- Logical operators. -/
def logicalOperators : Analyzer :=
  .of "logical-operators" (some .controlFlow)
    (compareOperators .logical .logicalOperatorChanged "Logical")

/-! ### Complexity of the file -/

/-- The complexity of a file may grow by this much without a report. -/
def fileComplexityTolerance : Nat := 5

/-- A file that became much more complex. -/
def compareComplexity : Comparison := fun target base head =>
  if head.complexity ≤ base.complexity + fileComplexityTolerance then []
  else
    [target.reportFile .functionComplexityChanged .medium
      s!"Overall complexity increased significantly (+{head.complexity - base.complexity})"
      (some s!"{base.complexity} -> {head.complexity}")]

/-- Complexity of the file. -/
def fileComplexity : Analyzer :=
  .of "file-complexity" (some .complexity) compareComplexity

end ChangeLens.Analyzer
