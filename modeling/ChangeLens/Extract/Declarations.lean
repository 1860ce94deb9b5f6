import ChangeLens.Extract.Functions

/-!
# `ChangeLens.Extract.Declarations`: classes, variables and destructuring declarations
-/

set_option autoImplicit false

namespace ChangeLens.Extract

open ChangeLens.Text

/-! ### Classes -/

/-- The clauses of the heritage of a class. -/
def heritageClauses (node : Tree) : List Tree :=
  (node.parts.filter (·.kind == "class_heritage")).flatMap Tree.parts

/-- The class that a class extends; the last clause counts. -/
def superclass? (source : Source) (node : Tree) : Option String :=
  ((heritageClauses node).filter (·.kind == "extends_clause")).getLast?.map fun clause =>
    let text := source.normalized clause
    if startsWith "extends" text then trim (dropFirst 7 text) else text

/-- The interfaces that a class implements; the last clause counts. -/
def implementsOf (source : Source) (node : Tree) : List String :=
  ((heritageClauses node).filter (·.kind == "implements_clause")).getLast?.elim [] fun clause =>
    clause.parts.map source.normalized

/-- The names of the members of a class with one of these kinds. -/
def memberNames (source : Source) (node : Tree) (kinds : List String) : List String :=
  ((node.field? "body").elim [] Tree.parts).filterMap fun member =>
    if kinds.contains member.kind then (member.field? "name").map source.normalized else none

/-- The class at a node, if it has a name. -/
def classAt? (source : Source) (node : Tree) : Option ClassSite :=
  (node.field? "name").map fun name =>
    { name := source.textOf name
      span := source.span node
      parent? := superclass? source node
      implements := implementsOf source node
      methods :=
        (memberNames source node ["method_definition", "abstract_method_signature"]).eraseDups
      properties := memberNames source node ["public_field_definition"] }

/-- The classes of a source. -/
def classes (source : Source) : List ClassSite :=
  (namedCursors source).filterMap fun cursor =>
    if cursor.kind == "class_declaration" || cursor.kind == "abstract_class_declaration" then
      classAt? source cursor.node
    else none

/-! ### Variables -/

/-- The declarators of a source with the declaration each one stands in. -/
def declared (source : Source) : List (Tree × Tree) :=
  (namedCursors source).flatMap fun cursor =>
    if cursor.kind == "lexical_declaration" || cursor.kind == "variable_declaration" then
      (cursor.node.parts.filter (·.kind == "variable_declarator")).map fun declarator =>
        (cursor.node, declarator)
    else []

/-- The variable that a declarator binds as a plain identifier. -/
def variableOf? (source : Source) (declaration declarator : Tree) : Option VariableSite :=
  (declarator.field? "name").bind fun name =>
    if name.kind == "identifier" then
      some
        { name := source.textOf name
          span := source.span declarator
          typeText := annotatedType source (declarator.field? "type")
          isConst := declaration.children.head?.any (·.kind == "const")
          hasInitializer := (declarator.field? "value").isSome }
    else none

/-- The pattern that a declarator takes its value apart with. -/
def destructuringOf? (source : Source) (declarator : Tree) : Option DestructuringSite := do
  let name ← declarator.field? "name"
  let value ← declarator.field? "value"
  let kind : CollectionKind ←
    if name.kind == "object_pattern" then some .object
    else if name.kind == "array_pattern" then some .array
    else none
  some ⟨kind, source.normalized name, source.normalized value, source.span declarator⟩

/-- The variables of a source. -/
def variableSites (source : Source) : List VariableSite :=
  (declared source).filterMap fun (declaration, declarator) =>
    variableOf? source declaration declarator

/-- The destructuring declarations of a source. -/
def destructurings (source : Source) : List DestructuringSite :=
  (declared source).filterMap fun (_, declarator) => destructuringOf? source declarator

end ChangeLens.Extract
