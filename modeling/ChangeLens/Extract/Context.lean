import ChangeLens.Site
import ChangeLens.Source

/-!
# `ChangeLens.Extract.Context`: names and identities of functions

A function takes its name from its own declaration or from what it is bound to. Its identity adds the
innermost container, the static flag and the visibility, so that same-named functions of different
containers are kept apart.
-/

set_option autoImplicit false

namespace ChangeLens.Extract

/-- Kinds of class nodes. -/
def isClassKind (kind : String) : Bool :=
  ["class_declaration", "abstract_class_declaration", "class"].contains kind

/-- The field of the parent that names a function expression. -/
def bindingField? : String → Option String
  | "variable_declarator" => some "name"
  | "pair" => some "key"
  | "public_field_definition" => some "name"
  | "assignment_expression" => some "left"
  | _ => none

/-- Kinds of functions that take their name from what they are bound to. -/
def isFunctionExpression (kind : String) : Bool :=
  ["arrow_function", "function_expression", "function", "generator_function"].contains kind

/-- A name followed by the word for constructors. -/
def constructorName (container : String) : String :=
  container ++ ".constructor"

/-- The name of a function, given what stands around it. -/
def functionName (source : Source) (around : FunctionContext) (parent? : Option Tree)
    (node : Tree) : String :=
  if node.kind == "method_definition" then
    let name := source.textOf? (node.field? "name")
    if name == "constructor" then
      constructorName (around.namedContainer?.getD "constructor")
    else name
  else
    let own := (node.field? "name").elim anonymous source.textOf
    if isFunctionExpression node.kind then
      match parent? with
      | some parent =>
        match bindingField? parent.kind with
        | some field => source.normalized? (parent.field? field)
        | none => own
      | none => own
    else own

/-- The container that a node is, if it is one. -/
def containerOf? (source : Source) (around : FunctionContext) (parent? : Option Tree)
    (node : Tree) : Option FunctionContext :=
  if isClassKind node.kind then
    some (.inside .classContainer
      (match node.field? "name" with
      | some name => source.textOf name
      | none =>
        match parent? with
        | some parent =>
          if parent.kind == "variable_declarator" then source.normalized? (parent.field? "name")
          else anonymous
        | none => anonymous))
  else if node.kind == "internal_module" || node.kind == "module" then
    some (.inside .namespaceContainer (source.normalized? (node.field? "name")))
  else if node.kind == "interface_declaration" then
    some (.inside .interfaceContainer (source.textOf? (node.field? "name")))
  else if Source.isFunctionKind node.kind then
    some (.inside .functionContainer (functionName source around parent? node))
  else none

/-- What stands around a node with these ancestors: the innermost container. -/
def contextOf (source : Source) : List Tree → FunctionContext
  | [] => .topLevel
  | parent :: rest =>
    let around := contextOf source rest
    (containerOf? source around rest.head? parent).getD around

/-- The name of the function at a cursor. -/
def nameAt (source : Source) (cursor : Cursor) : String :=
  functionName source (contextOf source cursor.ancestors) cursor.parent? cursor.node

/-- The node that carries the modifiers of a class member, if the function is one. -/
def modifierHolder? (cursor : Cursor) : Option Tree :=
  if cursor.kind == "arrow_function" || cursor.kind == "function_expression" then
    cursor.parent?.filter (·.kind == "public_field_definition")
  else if cursor.kind == "method_definition" || cursor.kind == "method_signature" then
    some cursor.node
  else none

/-- Static flag and visibility of a function. Only class members have a visibility. -/
structure Modifiers where
  /-- Belongs to the class itself. -/
  isStatic : Bool := false
  /-- Who may call it. -/
  visibility : Option String := none

/-- The modifiers of the function at a cursor; the last visibility written counts. -/
def modifiersAt (source : Source) (cursor : Cursor) : Modifiers :=
  match modifierHolder? cursor with
  | none => {}
  | some holder =>
    let written := holder.children.filter (·.kind == "accessibility_modifier")
    { isStatic := holder.hasChild "static"
      visibility := some (written.getLast?.elim "public" source.textOf) }

/-- What functions are matched by: name, context, static flag and visibility. -/
def identityText (name : String) (context : FunctionContext) (modifiers : Modifiers) : String :=
  let visibility := (modifiers.visibility.filter (!·.isEmpty)).getD "pub"
  name ++ "|" ++ context.render ++ "|" ++ (if modifiers.isStatic then "S" else "I") ++ ":" ++
    visibility

/-- The identity of a function with this name at a cursor. -/
def identityAt (source : Source) (name : String) (cursor : Cursor) : String :=
  identityText name (contextOf source cursor.ancestors) (modifiersAt source cursor)

/-- The name of the nearest function or class around some ancestors; functions without a name and
classes without one are passed over. -/
def scopeName (source : Source) : List Tree → String
  | [] => "global scope"
  | parent :: rest =>
    if Source.isFunctionKind parent.kind then
      let name := functionName source (contextOf source rest) rest.head? parent
      if name == anonymous then scopeName source rest else name
    else if isClassKind parent.kind then
      match parent.field? "name" with
      | some name => source.textOf name
      | none => scopeName source rest
    else scopeName source rest

end ChangeLens.Extract
