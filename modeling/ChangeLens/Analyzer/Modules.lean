import ChangeLens.Analyzer
import ChangeLens.Pairing

/-!
# `ChangeLens.Analyzer.Modules`: imports and exports

Imports that are erased at compile time are not reported. The names that a module's imports bind are
compared as sets, whatever statements they are spread over; the order of imports matters only for
those that bind nothing.
-/

set_option autoImplicit false

namespace ChangeLens.Analyzer

open ChangeLens.Pairing

/-! ### Imports -/

/-- The imports that are not erased at compile time. -/
def valueImports (model : Model) : List ImportSite :=
  model.imports.filter (!·.isTypeOnly)

/-- What an import binds, as reports name it. -/
def specifierKey (specifier : ImportSpecifier) : String :=
  if specifier.name == "*" then "* as " ++ specifier.localName else specifier.localName

/-- What the imports of one module bind. -/
def boundBy (imports : List ImportSite) (moduleName : String) : List String :=
  (imports.filter (·.moduleName == moduleName)).flatMap fun site =>
    (site.specifiers.filter (!·.isTypeOnly)).map specifierKey

/-- A record about an import. -/
def importRecord (target : Target) (kind : ChangeKind) (severity : Severity) (site : ImportSite)
    (detail : String) (context : Option String) : Record :=
  target.report kind severity site.span "ImportDeclaration" detail context

/-- A module that is imported now; `site` is its first import. -/
def moduleAdded (target : Target) (site : ImportSite) : Except PatternFault (List Record) := do
  let configured ← target.config.sideEffectModules.matches site.moduleName
  .ok (importRecord target .importAdded .low site s!"Import added: {site.moduleName}" none ::
    if configured then
      [importRecord target .sideEffectImportAdded .medium site
        s!"Side-effect import added: {site.moduleName}" none]
    else [])

/-- The names bound from a module that both versions import; `site` is its first import. -/
def moduleChanges (target : Target) (site : ImportSite) (before after : List String) :
    List Record :=
  (sortedWithout before after).map (fun key =>
    importRecord target .importStructureChanged .medium site
      s!"Import specifier '{key}' removed from {site.moduleName}" none) ++
  (sortedWithout after before).map (fun key =>
    importRecord target .importStructureChanged .low site
      s!"Import specifier '{key}' added to {site.moduleName}" none)

/-- The modules whose imports only run them, in order. -/
def sideEffectModules (imports : List ImportSite) : List String :=
  (imports.filter (·.isSideEffectOnly)).map (·.moduleName)

/-- A list of modules in brackets. -/
def bracketed (modules : List String) : String :=
  "[" ++ Text.join ", " modules ++ "]"

/-- The order of the imports that only run their modules, when these are the same. -/
def orderChanges (target : Target) (base head : List ImportSite) : List Record :=
  let before := sideEffectModules base
  let after := sideEffectModules head
  match head.find? (·.isSideEffectOnly) with
  | some anchor =>
    if !sameOrder before after && sameItems before after then
      [importRecord target .importStructureChanged .medium anchor "Side-effect import order changed"
        (some ("Order changed from " ++ bracketed before ++ " to " ++ bracketed after))]
    else []
  | none => []

/-- Whether some import is of this module. -/
def importsModule (imports : List ImportSite) (moduleName : String) : Bool :=
  imports.any (·.moduleName == moduleName)

/-- What became of a module that is imported now; `site` is its first import. -/
def currentModule (target : Target) (before after : List ImportSite) (site : ImportSite) :
    Except PatternFault (List Record) :=
  if importsModule before site.moduleName then
    .ok (moduleChanges target site (boundBy before site.moduleName) (boundBy after site.moduleName))
  else moduleAdded target site

/-- The modules that are not imported any more. -/
def modulesRemoved (target : Target) (before after : List ImportSite) : List Record :=
  ((firstOfEach ImportSite.moduleName before).filter (!importsModule after ·.moduleName)).map
    fun site =>
      importRecord target .importRemoved .medium site s!"Import removed: {site.moduleName}" none

/-- The differences between the imports of two versions. -/
def compareImports : PartialComparison := fun target base head => do
  let before := valueImports base
  let after := valueImports head
  let current ←
    (firstOfEach ImportSite.moduleName after).flatMapM (currentModule target before after)
  .ok (current ++ modulesRemoved target before after ++ orderChanges target before after)

/-- Imports. -/
def imports : Analyzer :=
  .ofPartial "imports" (some .importsExports) compareImports

/-! ### Exports -/

/-- A record about an export. -/
def exportRecord (target : Target) (kind : ChangeKind) (severity : Severity) (site : ExportSite)
    (detail : String) (context : Option String) : Record :=
  target.report kind severity site.span "ExportDeclaration" detail context

/-- The kind of an export, as reports name it. -/
def exportText (site : ExportSite) : String :=
  (if site.isDefault then "default " else "") ++ site.kind.name

/-- The type of the last variable of a name. -/
def variableType? (model : Model) (name : String) : Option String :=
  (lastWith? VariableSite.name name model.declared).map (·.typeText)

/-- What became of an export that both versions have. -/
def exportChanges (target : Target) (base head : Model) (before after : ExportSite) :
    List Record :=
  if before.kind ≠ after.kind ∨ before.isDefault ≠ after.isDefault then
    [exportRecord target .exportSignatureChanged .high after
      s!"Export signature changed: {after.name}"
      (some (arrow (exportText before) (exportText after)))]
  else if after.kind = .variableExport then
    match variableType? base after.name, variableType? head after.name with
    | some old, some new =>
      if old = new then []
      else
        [exportRecord target .exportSignatureChanged .medium after
          s!"Export signature changed: {after.name} ({arrow old new})" none]
    | _, _ => []
  else []

/-- The differences between the exports of two versions. The first export of a name counts. -/
def compareExports : Comparison := fun target base head =>
  let before := firstOfEach ExportSite.name base.exports
  let after := firstOfEach ExportSite.name head.exports
  let current := after.flatMap fun site =>
    match before.find? (·.name == site.name) with
    | none =>
      [exportRecord target .exportAdded .medium site
        s!"Export added: {site.name} ({site.kind.name})" none]
    | some old => exportChanges target base head old site
  let gone := before.filter fun site => !after.any (·.name == site.name)
  current ++ gone.map fun site =>
    exportRecord target .exportRemoved .high site s!"Export removed: {site.name}" none

/-- Exports. -/
def exports : Analyzer :=
  .of "exports" (some .coreStructural) compareExports

end ChangeLens.Analyzer
