import ChangeLens.Extract.Functions

/-!
# `ChangeLens.Extract.Modules`: imports and exports
-/

set_option autoImplicit false

namespace ChangeLens.Extract

open ChangeLens.Text

/-- The value of a string literal. -/
def stringValue (source : Source) (node : Tree) : String :=
  match node.namedChildren.filter (·.kind == "string_fragment") with
  | [] => trimChars ['\x27', '"', '\x60'] (source.textOf node)
  | fragments => join "" (fragments.map source.textOf)

/-! ### Imports -/

/-- The names that one part of an import clause binds. -/
def specifiersOf (source : Source) (part : Tree) : List ImportSpecifier :=
  if part.kind == "identifier" then [{ name := source.textOf part }]
  else if part.kind == "namespace_import" then
    let bound := (part.namedChildren.filter (·.kind == "identifier")).head?
    [{ name := "*", renamed := bound.map source.textOf }]
  else if part.kind == "named_imports" then
    (part.parts.filter (·.kind == "import_specifier")).map fun specifier =>
      { name := source.normalized? (specifier.field? "name")
        renamed := (specifier.field? "alias").map source.normalized
        isTypeOnly := specifier.hasChild "type" }
  else []

/-- The import statement at a node, if it names a module. -/
def importAt? (source : Source) (node : Tree) : Option ImportSite :=
  (node.field? "source").map fun moduleNode =>
    let parts := (node.parts.filter (·.kind == "import_clause")).flatMap Tree.parts
    let specifiers := parts.flatMap (specifiersOf source)
    { moduleName := stringValue source moduleNode
      span := source.span node
      specifiers := specifiers
      isDefault := parts.any (·.kind == "identifier")
      isNamespace := parts.any (·.kind == "namespace_import")
      isTypeOnly := node.hasChild "type" ||
        (!specifiers.isEmpty && specifiers.all (·.isTypeOnly)) }

/-- The imports of a source, numbered in their order. -/
def imports (source : Source) : List ImportSite :=
  let statements := (namedCursors source).filter (·.kind == "import_statement")
  (statements.filterMap fun cursor => importAt? source cursor.node).zipIdx.map
    fun (site, order) => { site with order := order }

/-! ### Exports -/

/-- What a declaration of this kind exports. -/
def declarationExport : String → ExportKind
  | "function_declaration" | "generator_function_declaration" | "function_signature" =>
    .functionExport
  | "class_declaration" | "abstract_class_declaration" => .classExport
  | "interface_declaration" => .interfaceExport
  | "type_alias_declaration" => .typeExport
  | "enum_declaration" => .enumExport
  | "internal_module" | "module" => .namespaceExport
  | _ => .variableExport

/-- The names that an export of a declaration gives away. -/
def exportedDeclaration (source : Source) (span : Span) (isDefault : Bool) (declaration : Tree) :
    List ExportSite :=
  if declaration.kind == "lexical_declaration" || declaration.kind == "variable_declaration" then
    declaration.parts.filterMap fun declarator =>
      (source.declaredName? declarator).map fun name => ⟨name, .variableExport, span, isDefault⟩
  else
    let name := (declaration.field? "name").elim "default" source.normalized
    [⟨name, declarationExport declaration.kind, span, isDefault⟩]

/-- The default export of a value, which may be missing in damaged sources. -/
def exportedValue (span : Span) (value : Option Tree) : ExportSite :=
  let kind : ExportKind :=
    match value with
    | some value =>
      if value.kind == "class" then .classExport
      else if Source.isFunctionKind value.kind then .functionExport
      else .variableExport
    | none => .variableExport
  ⟨"default", kind, span, true⟩

/-- The names that a list of exports or the export of a whole module gives away. -/
def exportedList (source : Source) (span : Span) (node : Tree) : List ExportSite :=
  if node.kind == "export_clause" then
    (node.parts.filter (·.kind == "export_specifier")).map fun specifier =>
      let name := (specifier.field? "alias").or (specifier.field? "name")
      ⟨source.normalized? name, .variableExport, span, false⟩
  else [⟨node.parts.getLast?.elim "*" source.normalized, .namespaceExport, span, false⟩]

/-- The names that the export statement at a node gives away. -/
def exportsAt (source : Source) (node : Tree) : List ExportSite :=
  let span := source.span node
  let isDefault := node.hasChild "default"
  match node.field? "declaration" with
  | some declaration => exportedDeclaration source span isDefault declaration
  | none =>
    let value := node.field? "value"
    if value.isSome || isDefault then [exportedValue span value]
    else
      let isList (child : Tree) := child.kind == "export_clause" || child.kind == "namespace_export"
      match node.parts.find? isList with
      | some list => exportedList source span list
      | none =>
        match node.field? "source" with
        | some moduleNode =>
          [⟨"* from " ++ stringValue source moduleNode, .reexport, span, false⟩]
        | none => []

/-- The exports of a source. -/
def exports (source : Source) : List ExportSite :=
  ((namedCursors source).filter (·.kind == "export_statement")).flatMap fun cursor =>
    exportsAt source cursor.node

end ChangeLens.Extract
