import ChangeLens.Extract.Functions

/-!
# `ChangeLens.Extract.Markup`: elements, event handlers and conditional rendering
-/

set_option autoImplicit false

namespace ChangeLens.Extract

open ChangeLens.Text

/-! ### Elements -/

/-- The opening tag of an element; an element without content is its own. -/
def openingTag? (node : Tree) : Option Tree :=
  if node.kind == "jsx_element" then
    (node.field? "open_tag").or (node.namedChildren.find? (·.kind == "jsx_opening_element"))
  else some node

/-- Whether a child of an element is shown: not a tag, a comment or blank text. -/
def isShown (source : Source) (child : Tree) : Bool :=
  !(["jsx_opening_element", "jsx_closing_element", "comment"].contains child.kind) &&
    !(child.kind == "jsx_text" && isBlankText (source.textOf child))

/-- The attribute that a node of an opening tag writes. -/
def attributeOf? (source : Source) (node : Tree) : Option Attribute :=
  if node.kind == "jsx_attribute" then
    match node.parts with
    | [] => none
    | name :: rest =>
      let value := rest.head?
      some
        { name := source.textOf name
          form := if value.any (·.kind == "jsx_expression") then .expression else .literal
          value := source.normalized? value }
  else if node.kind == "jsx_expression" then some ⟨"...", .spread, source.normalized node⟩
  else none

/-- The element at a node with its opening tag and the name in it, if it has both. -/
def tagAt? (source : Source) (node : Tree) : Option (Tree × String) := do
  let opening ← openingTag? node
  let name ← opening.field? "name"
  some (opening, source.normalized name)

/-- The element at a node. -/
def elementAt? (source : Source) (node : Tree) : Option ElementSite :=
  (tagAt? source node).map fun (opening, tag) =>
    { tag := tag
      span := source.span node
      props := (opening.fields "attribute").filterMap (attributeOf? source)
      hasChildren := node.kind == "jsx_element" && node.namedChildren.any (isShown source) }

/-! ### Event handlers -/

/-- Whether a handler is written in place, and how complex it is. A body of several statements or
with a condition counts as a branch. -/
def handlerShape (expression : Tree) : Bool × Nat :=
  if ["arrow_function", "function_expression", "function"].contains expression.kind then
    let statements :=
      ((expression.field? "body").filter (·.kind == "statement_block")).elim [] Tree.parts
    let floor :=
      if 2 ≤ statements.length || statements.any (·.kind == "if_statement") then 2 else 0
    (true, max (complexity expression) floor)
  else if expression.kind == "call_expression" &&
      (expression.field? "function").any
        (fun function => (Source.unwrap function).kind == "arrow_function") then
    (true, complexity expression)
  else (false, 1)

/-- The event handler that an attribute sets, unless it is a trivial one written in place. -/
def handlerOf? (source : Source) (tag : String) (node : Tree) : Option HandlerSite := do
  let prop ← attributeOf? source node
  if prop.form != .expression || !isEventName prop.name then none
  else
    let value ← node.parts[1]?
    let inner ← value.parts.head?
    let expression := Source.unwrap inner
    let (isInline, weight) := handlerShape expression
    if isInline && weight < 2 then none
    else
      some
        { element := tag
          event := prop.name
          span := source.span node
          text := source.normalized expression
          isInline := isInline
          complexity := weight }

/-- The event handlers of the element at a node. -/
def handlersAt (source : Source) (node : Tree) : List HandlerSite :=
  match tagAt? source node with
  | some (opening, tag) => (opening.fields "attribute").filterMap (handlerOf? source tag)
  | none => []

/-! ### Conditional rendering -/

/-- The text of the operator of a node; empty when it has none. -/
def operatorText (source : Source) (node : Tree) : String :=
  source.textOf? (node.field? "operator")

/-- The conditional rendering that an embedded expression does, if it does one. -/
def renderAt? (source : Source) (node : Tree) : Option RenderSite := do
  let inner ← node.parts.head?
  let expression := Source.unwrap inner
  let form : RenderForm ←
    if expression.kind == "ternary_expression" then some .ternary
    else if expression.kind == "binary_expression" && operatorText source expression == "&&" then
      some .logical
    else none
  some ⟨form, source.normalized expression, source.span node⟩

/-! ### Sites -/

/-- The element nodes of a source. -/
def elementNodes (source : Source) : List Tree :=
  ((namedCursors source).filter fun cursor =>
    cursor.kind == "jsx_element" || cursor.kind == "jsx_self_closing_element").map (·.node)

/-- The elements of a source. -/
def elements (source : Source) : List ElementSite :=
  (elementNodes source).filterMap (elementAt? source)

/-- The event handlers of a source. -/
def handlers (source : Source) : List HandlerSite :=
  (elementNodes source).flatMap (handlersAt source)

/-- The conditional rendering of a source. -/
def renders (source : Source) : List RenderSite :=
  ((namedCursors source).filter (·.kind == "jsx_expression")).filterMap fun cursor =>
    renderAt? source cursor.node

end ChangeLens.Extract
