import ChangeLens.ChangeKind

/-!
# `ChangeLens.Group`: groups of change kinds

Kinds are organised in groups that are switched on and off as a unit. A kind belongs to at most one
group; `stateManagementChanged` belongs to none.
-/

set_option autoImplicit false

namespace ChangeLens

/-- A group of change kinds. -/
inductive Group where
  | coreStructural
  | dataFlow
  | controlFlow
  | reactHooks
  | jsxRendering
  | jsxLogic
  | importsExports
  | asyncPatterns
  | typeSystem
  | sideEffects
  | complexity
  | errorHandling
deriving Repr, DecidableEq

namespace Group

/-- All groups, in the order of the vocabulary. -/
def all : List Group :=
  [coreStructural, dataFlow, controlFlow, reactHooks, jsxRendering, jsxLogic, importsExports,
   asyncPatterns, typeSystem, sideEffects, complexity, errorHandling]

/-- The name of a group in configuration files and reports. -/
def name : Group → String
  | coreStructural => "core-structural"
  | dataFlow => "data-flow"
  | controlFlow => "control-flow"
  | reactHooks => "react-hooks"
  | jsxRendering => "jsx-rendering"
  | jsxLogic => "jsx-logic"
  | importsExports => "imports-exports"
  | asyncPatterns => "async-patterns"
  | typeSystem => "type-system"
  | sideEffects => "side-effects"
  | complexity => "complexity"
  | errorHandling => "error-handling"

/-- The group with this name. -/
def ofName? (text : String) : Option Group :=
  all.find? fun group => group.name == text

/-- The kinds of a group, in their order of presentation. -/
def kinds : Group → List ChangeKind
  | coreStructural =>
    [.functionAdded, .functionRemoved, .functionSignatureChanged, .classStructureChanged,
     .exportAdded, .exportRemoved, .exportSignatureChanged, .interfaceModified]
  | dataFlow =>
    [.variableDeclarationChanged, .variableAssignmentChanged, .destructuringAdded,
     .destructuringRemoved, .arrayMutation, .objectMutation]
  | controlFlow =>
    [.conditionalAdded, .conditionalModified, .conditionalRemoved, .loopAdded, .loopModified,
     .loopRemoved, .logicalOperatorChanged, .comparisonOperatorChanged, .ternaryAdded,
     .ternaryRemoved]
  | reactHooks =>
    [.hookAdded, .hookRemoved, .hookDependencyChanged]
  | jsxRendering =>
    [.jsxElementAdded, .jsxElementRemoved, .jsxPropsChanged, .componentReferenceChanged,
     .componentStructureChanged]
  | jsxLogic =>
    [.jsxLogicAdded, .eventHandlerChanged]
  | importsExports =>
    [.importAdded, .importRemoved, .importStructureChanged, .sideEffectImportAdded]
  | asyncPatterns =>
    [.asyncAwaitAdded, .asyncAwaitRemoved, .promiseAdded, .promiseRemoved, .effectAdded,
     .effectRemoved]
  | typeSystem =>
    [.typeDefinitionChanged]
  | sideEffects =>
    [.functionCallAdded, .functionCallChanged, .functionCallModified, .functionCallRemoved]
  | complexity =>
    [.functionComplexityChanged, .spreadOperatorAdded, .spreadOperatorRemoved]
  | errorHandling =>
    [.throwAdded, .throwRemoved, .tryCatchAdded, .tryCatchModified]

end Group

/-- The group of a kind, if it belongs to one. -/
def ChangeKind.group? (kind : ChangeKind) : Option Group :=
  Group.all.find? fun group => group.kinds.contains kind

end ChangeLens
