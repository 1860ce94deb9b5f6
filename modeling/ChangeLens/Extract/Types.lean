import ChangeLens.Extract.Functions

/-!
# `ChangeLens.Extract.Types`: aliases, interfaces and enumerations

The canonical text of a definition with members lists them in ascending order, so that their order
in the source does not matter.
-/

set_option autoImplicit false

namespace ChangeLens.Extract

open ChangeLens.Text

/-- The member that a node of an object type declares, if it declares a property or a method. -/
def memberOf? (source : Source) (node : Tree) : Option TypeMember :=
  if node.kind == "property_signature" then
    some
      { name := source.normalized? (node.field? "name")
        typeText := annotatedType source (node.field? "type")
        optional := node.hasChild "?" }
  else if node.kind == "method_signature" then
    some
      { name := source.normalized? (node.field? "name")
        typeText := TypeText.normalize (source.normalized node)
        optional := node.hasChild "?"
        isMethod := true }
  else none

/-- The members of an object type or the body of an interface. -/
def membersOf (source : Source) : Option Tree → List TypeMember
  | some body =>
    if body.kind == "object_type" || body.kind == "interface_body" then
      body.parts.filterMap (memberOf? source)
    else []
  | none => []

/-- The text of members in ascending order. -/
def membersText (members : List TypeMember) : String :=
  let texts := members.map fun member =>
    member.name ++ (if member.optional then "?" else "") ++ ":" ++ member.typeText
  "\x7b" ++ join ";" (sorted texts) ++ "\x7d"

/-- The normalized type parameters of a definition. -/
def genericHead (source : Source) (node : Tree) : String :=
  match node.field? "type_parameters" with
  | some parameters => TypeText.normalize (source.normalized parameters)
  | none => ""

/-- The type alias at a node. -/
def aliasAt (source : Source) (node : Tree) : TypeSite :=
  let value := node.field? "value"
  let valueText := source.normalized? value
  let members := membersOf source value
  let head := genericHead source node
  { name := source.textOf? (node.field? "name")
    form := .aliasType
    definition := head ++ "=" ++ TypeText.normalize valueText
    canonical := head ++ "=" ++
      (if members.isEmpty then TypeText.canonical valueText else membersText members)
    span := source.span node
    members := members }

/-- The interfaces that an interface extends. -/
def parentsOf (source : Source) (node : Tree) : List String :=
  match (node.parts.filter (·.kind == "extends_type_clause")).getLast? with
  | some clause => clause.parts.map source.normalized
  | none => []

/-- The type that an interface declaration defines. -/
def interfaceTypeAt (source : Source) (node : Tree) : TypeSite :=
  let members := membersOf source (node.field? "body")
  { name := source.textOf? (node.field? "name")
    form := .interfaceType
    definition := TypeText.normalize (source.normalized node)
    canonical := genericHead source node ++ ":" ++ join "," (sorted (parentsOf source node)) ++
      "=" ++ membersText members
    span := source.span node
    members := members }

/-- The interface at a node. -/
def interfaceAt (source : Source) (node : Tree) : InterfaceSite :=
  let members := membersOf source (node.field? "body")
  { name := source.textOf? (node.field? "name")
    span := source.span node
    parents := parentsOf source node
    properties := members.filter (!·.isMethod)
    methods := (members.filter (·.isMethod)).map (·.name) }

/-- One member of an enumeration. -/
def enumMember (source : Source) (node : Tree) : TypeMember :=
  if node.kind == "enum_assignment" then
    { name := source.normalized? (node.field? "name")
      typeText := source.normalized? (node.field? "value") }
  else { name := source.normalized node, typeText := "" }

/-- The enumeration at a node. -/
def enumAt (source : Source) (node : Tree) : TypeSite :=
  let definition := TypeText.normalize (source.normalized node)
  { name := source.textOf? (node.field? "name")
    form := .enumType
    definition := definition
    canonical := definition
    span := source.span node
    members := ((node.field? "body").elim [] Tree.parts).map (enumMember source) }

/-- The type definition at a node, if it is one. -/
def typeAt? (source : Source) (node : Tree) : Option TypeSite :=
  if node.kind == "type_alias_declaration" then some (aliasAt source node)
  else if node.kind == "interface_declaration" then some (interfaceTypeAt source node)
  else if node.kind == "enum_declaration" then some (enumAt source node)
  else none

/-- The type definitions of a source. -/
def types (source : Source) : List TypeSite :=
  (namedCursors source).filterMap fun cursor => typeAt? source cursor.node

/-- The interfaces of a source. -/
def interfaces (source : Source) : List InterfaceSite :=
  ((namedCursors source).filter (·.kind == "interface_declaration")).map fun cursor =>
    interfaceAt source cursor.node

end ChangeLens.Extract
