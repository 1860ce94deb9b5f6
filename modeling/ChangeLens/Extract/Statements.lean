import ChangeLens.Extract.Markup

/-!
# `ChangeLens.Extract.Statements`: statements and expressions
-/

set_option autoImplicit false

namespace ChangeLens.Extract

open ChangeLens.Text

/-- The named nodes of a source of some kinds. -/
def cursorsOf (source : Source) (kinds : List String) : List Cursor :=
  (namedCursors source).filter fun cursor => kinds.contains cursor.kind

/-! ### Assignments -/

/-- The assignment to a property at a node. -/
def objectMutationAt? (source : Source) (node : Tree) : Option ObjectMutationSite :=
  (node.field? "left").bind fun left =>
    if left.kind == "member_expression" || left.kind == "subscript_expression" then
      let operator := operatorText source node
      some ⟨source.normalized left, if operator.isEmpty then "=" else operator, source.span node⟩
    else none

/-- The plain assignment to a variable at a node. -/
def assignmentAt? (source : Source) (node : Tree) : Option AssignmentSite :=
  (node.field? "left").bind fun left =>
    if left.kind == "identifier" && node.kind == "assignment_expression" then
      some ⟨source.textOf left, source.normalized? (node.field? "right"), source.span node⟩
    else none

/-- The nodes of a source that assign something. -/
def assigningNodes (source : Source) : List Tree :=
  (cursorsOf source ["assignment_expression", "augmented_assignment_expression"]).map (·.node)

/-- The assignments to properties. -/
def objectMutations (source : Source) : List ObjectMutationSite :=
  (assigningNodes source).filterMap (objectMutationAt? source)

/-- The assignments to variables. -/
def assignments (source : Source) : List AssignmentSite :=
  (assigningNodes source).filterMap (assignmentAt? source)

/-! ### Returns -/

/-- Whether a node is the identifier `Promise`. -/
def isPromiseName (source : Source) (node : Option Tree) : Bool :=
  node.any fun node => source.identifierName? node == some "Promise"

/-- Whether a text has `Promise`, perhaps blanks, and a dot. -/
def mentionsPromise : List Char → Bool
  | [] => false
  | c :: rest =>
    ("Promise".toList.isPrefixOf (c :: rest) &&
      (((c :: rest).drop 7).dropWhile isBlank).head? == some '.') || mentionsPromise rest

/-- Whether a value looks like a promise. -/
def isPromiseLike (source : Source) (node : Tree) : Bool :=
  let expression := Source.unwrap node
  let direct :=
    if expression.kind == "call_expression" then
      ((expression.field? "function").filter (·.kind == "member_expression")).any
        fun function => isPromiseName source (function.field? "object")
    else if expression.kind == "new_expression" then
      isPromiseName source (expression.field? "constructor")
    else if expression.kind == "member_expression" then
      isPromiseName source (expression.field? "object")
    else false
  let text := source.normalized expression
  direct || mentionsPromise text.toList || text == "Promise"

/-- The return statement at a node. -/
def returnAt (source : Source) (node : Tree) : ReturnSite :=
  let value := node.parts.head?
  ⟨source.normalized? value, value.any (isPromiseLike source), source.span node⟩

/-- The return statements of a source. -/
def returns (source : Source) : List ReturnSite :=
  (cursorsOf source ["return_statement"]).map fun cursor => returnAt source cursor.node

/-! ### Conditions and loops -/

/-- The conditional expression at a node. -/
def ternaryAt (source : Source) (node : Tree) : TernarySite where
  condition := source.normalized? (node.field? "condition")
  whenTrue := source.normalized? (node.field? "consequence")
  whenFalse := source.normalized? (node.field? "alternative")
  span := source.span node

/-- The conditional expressions of a source. -/
def ternaries (source : Source) : List TernarySite :=
  (cursorsOf source ["ternary_expression"]).map fun cursor => ternaryAt source cursor.node

/-- The if statement at a cursor. -/
def conditionalAt (source : Source) (cursor : Cursor) : ConditionalSite where
  scope := scopeName source cursor.ancestors
  condition := source.normalized? ((cursor.node.field? "condition").map Source.unwrap)
  thenText := source.normalized? (cursor.node.field? "consequence")
  elseText := source.normalized? (cursor.node.field? "alternative")
  span := source.span cursor.node

/-- The if statements of a source. -/
def conditionals (source : Source) : List ConditionalSite :=
  (cursorsOf source ["if_statement"]).map (conditionalAt source)

/-- The word and the node label for a loop. -/
def loopNames (node : Tree) : String × String :=
  match node.kind with
  | "for_in_statement" =>
    if node.hasChild "of" then ("for...of", "ForOfStatement") else ("for...in", "ForInStatement")
  | "while_statement" => ("while", "WhileStatement")
  | "do_statement" => ("do...while", "DoStatement")
  | _ => ("for", "ForStatement")

/-- The loop at a node. -/
def loopAt (source : Source) (node : Tree) : LoopSite where
  kind := (loopNames node).1
  text := source.normalized node
  span := source.span node
  nodeLabel := (loopNames node).2

/-- The loops of a source. -/
def loops (source : Source) : List LoopSite :=
  (cursorsOf source ["for_statement", "for_in_statement", "while_statement", "do_statement"]).map
    fun cursor => loopAt source cursor.node

/-! ### Errors -/

/-- The try statement at a node. -/
def tryAt (source : Source) (node : Tree) : TrySite where
  tryText := source.normalized? (node.field? "body")
  catchText := source.normalized? (node.field? "handler")
  finallyText := source.normalized? (node.field? "finalizer")
  span := source.span node

/-- The try statements of a source. -/
def tries (source : Source) : List TrySite :=
  (cursorsOf source ["try_statement"]).map fun cursor => tryAt source cursor.node

/-- The throw statements of a source. -/
def throws (source : Source) : List ThrowSite :=
  (cursorsOf source ["throw_statement"]).map fun cursor =>
    ⟨source.normalized cursor.node, source.span cursor.node⟩

/-! ### Operators and spreads -/

/-- The class of an operator, if it is compared at all. -/
def operatorClass? (operator : String) : Option OperatorClass :=
  if ["==", "===", "!=", "!==", "<", "<=", ">", ">="].contains operator then some .comparison
  else if ["&&", "||", "??"].contains operator then some .logical
  else none

/-- The operator at a node. -/
def operatorAt? (source : Source) (node : Tree) : Option OperatorSite := do
  let operatorNode ← node.field? "operator"
  let operator := source.textOf operatorNode
  let category ← operatorClass? operator
  some
    { operator := operator
      category := category
      left := source.normalized? (node.field? "left")
      right := source.normalized? (node.field? "right")
      span := source.span operatorNode }

/-- The operators of a source. -/
def operators (source : Source) : List OperatorSite :=
  (cursorsOf source ["binary_expression"]).filterMap fun cursor => operatorAt? source cursor.node

/-- The spread element at a cursor. -/
def spreadAt (source : Source) (cursor : Cursor) : SpreadSite where
  kind := if cursor.parent?.any (·.kind == "object") then .object else .array
  text := source.normalized cursor.node
  span := source.span cursor.node

/-- The spread elements of a source. -/
def spreads (source : Source) : List SpreadSite :=
  (cursorsOf source ["spread_element"]).map (spreadAt source)

end ChangeLens.Extract
