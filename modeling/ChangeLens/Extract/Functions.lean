import ChangeLens.Extract.Complexity
import ChangeLens.Extract.Context
import ChangeLens.TypeText

/-!
# `ChangeLens.Extract.Functions`: functions and their overload signatures

Every function node gives one site. Signatures without a body give none; they are counted on the
function that shares their identity.
-/

set_option autoImplicit false

namespace ChangeLens.Extract

open ChangeLens.Text

/-- The text of a type annotation without its colon, or of a bare type node. -/
def writtenType (source : Source) (node : Tree) : String :=
  match node.parts with
  | inner :: _ =>
    if endsWith "type_annotation" node.kind then source.normalized inner else source.normalized node
  | [] => source.normalized node

/-- The canonical type that an annotation gives; `any` without one. -/
def annotatedType (source : Source) : Option Tree → String
  | some node => TypeText.canonical (writtenType source node)
  | none => "any"

/-- The text after the keyword of a constraint or a default. -/
def innerType (source : Source) : Option Tree → String
  | some node => source.normalized (node.parts.head?.getD node)
  | none => ""

/-! ### Parameters -/

/-- The parameter nodes of a function. -/
def parameterNodes (node : Tree) : List Tree :=
  match node.field? "parameters" with
  | some list => list.parts
  | none => (node.field? "parameter").toList

/-- The pattern that the value of a pair binds, its default taken off. -/
def pairTarget? (pair : Tree) : Option Tree :=
  match pair.field? "value" with
  | some value => if value.kind == "assignment_pattern" then value.field? "left" else some value
  | none => none

/-- A field of a node is smaller than the node. -/
theorem size_lt_of_field? {node child : Tree} {name : String} (h : node.field? name = some child) :
    child.size < node.size :=
  Tree.size_lt_of_mem_children (List.mem_of_find?_eq_some h)

/-- What a pair binds is smaller than the pair. -/
theorem size_lt_of_pairTarget? {pair target : Tree} (h : pairTarget? pair = some target) :
    target.size < pair.size := by
  unfold pairTarget? at h
  split at h
  · rename_i value hv
    split at h
    · exact Nat.lt_trans (size_lt_of_field? h) (size_lt_of_field? hv)
    · cases h
      exact size_lt_of_field? hv
  · cases h

/-- The key paths that an object pattern takes apart; nested keys follow their key, joined to it by
a dot. -/
def patternKeys (source : Source) (before : String) (pattern : Tree) : List String :=
  pattern.parts.attach.flatMap fun ⟨child, _mem⟩ =>
    if child.kind == "shorthand_property_identifier_pattern" then [before ++ source.textOf child]
    else if child.kind == "object_assignment_pattern" then
      [before ++ source.normalized? (child.field? "left")]
    else if child.kind == "rest_pattern" then [before ++ source.normalized child]
    else if child.kind == "pair_pattern" then
      let key := before ++ trimChars ['\x27', '"'] (source.normalized? (child.field? "key"))
      match _h : pairTarget? child with
      | some target =>
        if target.kind == "object_pattern" then key :: patternKeys source (key ++ ".") target
        else [key]
      | none => [key]
    else []
termination_by pattern.size
decreasing_by
  exact Nat.lt_trans (size_lt_of_pairTarget? (by assumption))
    (Tree.size_lt_of_mem_children (List.mem_filter.1 (by assumption)).1)

/-- The parameter that a node declares. -/
def parameterOf (source : Source) (node : Tree) : Parameter :=
  if node.kind == "required_parameter" || node.kind == "optional_parameter" then
    let pattern := node.field? "pattern"
    let isRest := pattern.any (·.kind == "rest_pattern")
    let name := source.normalized? pattern
    { name := if isRest && startsWith "..." name then dropFirst 3 name else name
      typeText := annotatedType source (node.field? "type")
      optional := node.kind == "optional_parameter"
      rest := isRest
      hasDefault := (node.field? "value").isSome
      destructured := (pattern.filter (·.kind == "object_pattern")).map (patternKeys source "") }
  else { name := source.normalized node }

/-- The type parameters of a function. -/
def typeParametersOf (source : Source) (node : Tree) : List TypeParameter :=
  match node.field? "type_parameters" with
  | none => []
  | some list =>
    (list.parts.filter (·.kind == "type_parameter")).map fun parameter =>
      { name := source.normalized? (parameter.field? "name")
        constraint := TypeText.canonical (innerType source (parameter.field? "constraint"))
        default := TypeText.canonical (innerType source (parameter.field? "value")) }

/-! ### Sites -/

/-- Whether the statement around a function exports it, directly or as the value of a variable. -/
def isExportedAt (cursor : Cursor) : Bool :=
  match cursor.ancestors with
  | [] => false
  | parent :: rest =>
    if parent.kind == "variable_declarator" then
      -- Between the declarator and the statement stands the declaration.
      (rest.drop 1).head?.any (·.kind == "export_statement")
    else parent.kind == "export_statement"

/-- The signature of a function as reports show it. -/
def signatureText (source : Source) (name returnType : String) (parameters : List Tree) : String :=
  let shown := if endsWith ".constructor" name then "constructor" else name
  shown ++ "(" ++ join ", " (parameters.map source.normalized) ++ "): " ++ returnType

/-- The function at a cursor, its overloads not yet counted. -/
def functionAt (source : Source) (cursor : Cursor) : FunctionSite :=
  let node := cursor.node
  let name := nameAt source cursor
  let context := contextOf source cursor.ancestors
  let modifiers := modifiersAt source cursor
  let parameters := parameterNodes node
  let returnType := annotatedType source (node.field? "return_type")
  { name := name
    identity := identityText name context modifiers
    context := context
    span := source.span node
    parameters := parameters.map (parameterOf source)
    returnType := returnType
    typeParameters := typeParametersOf source node
    isStatic := modifiers.isStatic
    visibility := modifiers.visibility
    isAsync := node.hasChild "async"
    isExported := isExportedAt cursor
    bodyText := source.normalized? (node.field? "body")
    complexity := complexity node
    signature := signatureText source name returnType parameters }

/-- The identity of an overload signature: a function signature, or a method signature in the body
of a class. -/
def overloadAt? (source : Source) (cursor : Cursor) : Option String :=
  if cursor.kind == "function_signature" ||
      (cursor.kind == "method_signature" && cursor.parent?.any (·.kind == "class_body")) then
    some (identityAt source (source.textOf? (cursor.node.field? "name")) cursor)
  else none

/-- The named nodes of a source, in pre-order. -/
def namedCursors (source : Source) : List Cursor :=
  source.cursors.filter (·.node.label.named)

/-- The identities of all overload signatures. -/
def overloads (source : Source) : List String :=
  (namedCursors source).filterMap (overloadAt? source)

/-- The functions of a source, each with the number of its overload signatures. -/
def functions (source : Source) : List FunctionSite :=
  let counted := overloads source
  ((namedCursors source).filter (Source.isFunctionKind ·.kind)).map fun cursor =>
    let site := functionAt source cursor
    { site with overloads := counted.count site.identity }

end ChangeLens.Extract
