import ChangeLens.Severity

/-!
# `ChangeLens.ChangeKind`: the closed vocabulary of semantic changes

Every record has one of these kinds. Their names are stable identifiers: they appear verbatim in
reports, annotations and configuration files.
-/

set_option autoImplicit false

namespace ChangeLens

/-- Every category of semantic change that can be reported. -/
inductive ChangeKind where
  | arrayMutation
  | asyncAwaitAdded
  | asyncAwaitRemoved
  | classStructureChanged
  | comparisonOperatorChanged
  | componentReferenceChanged
  | componentStructureChanged
  | conditionalAdded
  | conditionalModified
  | conditionalRemoved
  | destructuringAdded
  | destructuringRemoved
  | effectAdded
  | effectRemoved
  | eventHandlerChanged
  | exportAdded
  | exportRemoved
  | exportSignatureChanged
  | functionAdded
  | functionCallAdded
  | functionCallChanged
  | functionCallModified
  | functionCallRemoved
  | functionComplexityChanged
  | functionRemoved
  | functionSignatureChanged
  | hookAdded
  | hookDependencyChanged
  | hookRemoved
  | importAdded
  | importRemoved
  | importStructureChanged
  | interfaceModified
  | jsxElementAdded
  | jsxElementRemoved
  | jsxLogicAdded
  | jsxPropsChanged
  | logicalOperatorChanged
  | loopAdded
  | loopModified
  | loopRemoved
  | objectMutation
  | promiseAdded
  | promiseRemoved
  | sideEffectImportAdded
  | spreadOperatorAdded
  | spreadOperatorRemoved
  | stateManagementChanged
  | ternaryAdded
  | ternaryRemoved
  | throwAdded
  | throwRemoved
  | tryCatchAdded
  | tryCatchModified
  | typeDefinitionChanged
  | variableAssignmentChanged
  | variableDeclarationChanged
deriving Repr, DecidableEq

namespace ChangeKind

/-- All kinds, in the order of the vocabulary. -/
def all : List ChangeKind :=
  [arrayMutation, asyncAwaitAdded, asyncAwaitRemoved, classStructureChanged,
   comparisonOperatorChanged, componentReferenceChanged, componentStructureChanged,
   conditionalAdded, conditionalModified, conditionalRemoved, destructuringAdded,
   destructuringRemoved, effectAdded, effectRemoved, eventHandlerChanged, exportAdded,
   exportRemoved, exportSignatureChanged, functionAdded, functionCallAdded, functionCallChanged,
   functionCallModified, functionCallRemoved, functionComplexityChanged, functionRemoved,
   functionSignatureChanged, hookAdded, hookDependencyChanged, hookRemoved, importAdded,
   importRemoved, importStructureChanged, interfaceModified, jsxElementAdded, jsxElementRemoved,
   jsxLogicAdded, jsxPropsChanged, logicalOperatorChanged, loopAdded, loopModified, loopRemoved,
   objectMutation, promiseAdded, promiseRemoved, sideEffectImportAdded, spreadOperatorAdded,
   spreadOperatorRemoved, stateManagementChanged, ternaryAdded, ternaryRemoved, throwAdded,
   throwRemoved, tryCatchAdded, tryCatchModified, typeDefinitionChanged,
   variableAssignmentChanged, variableDeclarationChanged]

/-- The name of a kind in every output format. -/
def name : ChangeKind → String
  | arrayMutation => "arrayMutation"
  | asyncAwaitAdded => "asyncAwaitAdded"
  | asyncAwaitRemoved => "asyncAwaitRemoved"
  | classStructureChanged => "classStructureChanged"
  | comparisonOperatorChanged => "comparisonOperatorChanged"
  | componentReferenceChanged => "componentReferenceChanged"
  | componentStructureChanged => "componentStructureChanged"
  | conditionalAdded => "conditionalAdded"
  | conditionalModified => "conditionalModified"
  | conditionalRemoved => "conditionalRemoved"
  | destructuringAdded => "destructuringAdded"
  | destructuringRemoved => "destructuringRemoved"
  | effectAdded => "effectAdded"
  | effectRemoved => "effectRemoved"
  | eventHandlerChanged => "eventHandlerChanged"
  | exportAdded => "exportAdded"
  | exportRemoved => "exportRemoved"
  | exportSignatureChanged => "exportSignatureChanged"
  | functionAdded => "functionAdded"
  | functionCallAdded => "functionCallAdded"
  | functionCallChanged => "functionCallChanged"
  | functionCallModified => "functionCallModified"
  | functionCallRemoved => "functionCallRemoved"
  | functionComplexityChanged => "functionComplexityChanged"
  | functionRemoved => "functionRemoved"
  | functionSignatureChanged => "functionSignatureChanged"
  | hookAdded => "hookAdded"
  | hookDependencyChanged => "hookDependencyChanged"
  | hookRemoved => "hookRemoved"
  | importAdded => "importAdded"
  | importRemoved => "importRemoved"
  | importStructureChanged => "importStructureChanged"
  | interfaceModified => "interfaceModified"
  | jsxElementAdded => "jsxElementAdded"
  | jsxElementRemoved => "jsxElementRemoved"
  | jsxLogicAdded => "jsxLogicAdded"
  | jsxPropsChanged => "jsxPropsChanged"
  | logicalOperatorChanged => "logicalOperatorChanged"
  | loopAdded => "loopAdded"
  | loopModified => "loopModified"
  | loopRemoved => "loopRemoved"
  | objectMutation => "objectMutation"
  | promiseAdded => "promiseAdded"
  | promiseRemoved => "promiseRemoved"
  | sideEffectImportAdded => "sideEffectImportAdded"
  | spreadOperatorAdded => "spreadOperatorAdded"
  | spreadOperatorRemoved => "spreadOperatorRemoved"
  | stateManagementChanged => "stateManagementChanged"
  | ternaryAdded => "ternaryAdded"
  | ternaryRemoved => "ternaryRemoved"
  | throwAdded => "throwAdded"
  | throwRemoved => "throwRemoved"
  | tryCatchAdded => "tryCatchAdded"
  | tryCatchModified => "tryCatchModified"
  | typeDefinitionChanged => "typeDefinitionChanged"
  | variableAssignmentChanged => "variableAssignmentChanged"
  | variableDeclarationChanged => "variableDeclarationChanged"

/-- The kind with this name. -/
def ofName? (text : String) : Option ChangeKind :=
  all.find? fun kind => kind.name == text

/-- Kinds that say that something is gone. Their records lie in the base version of the file; those
of all other kinds lie in the head version. -/
def isRemoval : ChangeKind → Bool
  | asyncAwaitRemoved | conditionalRemoved | destructuringRemoved | effectRemoved
  | exportRemoved | functionCallRemoved | functionRemoved | hookRemoved | importRemoved
  | jsxElementRemoved | loopRemoved | promiseRemoved | spreadOperatorRemoved | ternaryRemoved
  | throwRemoved => true
  | _ => false

/-- Kinds about markup elements and the components they refer to. -/
def isMarkup : ChangeKind → Bool
  | componentReferenceChanged | componentStructureChanged | jsxElementAdded | jsxElementRemoved
  | jsxLogicAdded | jsxPropsChanged => true
  | _ => false

/-- The severity of a kind in the absence of further evidence. -/
def defaultSeverity : ChangeKind → Severity
  | classStructureChanged | conditionalAdded | conditionalModified | exportRemoved
  | exportSignatureChanged | functionCallAdded | functionComplexityChanged
  | functionSignatureChanged | hookDependencyChanged | interfaceModified | loopAdded
  | loopModified => .high
  | arrayMutation | asyncAwaitAdded | asyncAwaitRemoved | comparisonOperatorChanged
  | componentReferenceChanged | conditionalRemoved | exportAdded | functionAdded
  | functionCallChanged | functionCallModified | functionCallRemoved | functionRemoved
  | hookAdded | hookRemoved | jsxLogicAdded | logicalOperatorChanged | loopRemoved
  | objectMutation | promiseAdded | promiseRemoved | sideEffectImportAdded
  | stateManagementChanged | throwAdded | throwRemoved | tryCatchAdded | tryCatchModified
  | typeDefinitionChanged | variableAssignmentChanged => .medium
  | componentStructureChanged | destructuringAdded | destructuringRemoved | effectAdded
  | effectRemoved | eventHandlerChanged | importAdded | importRemoved | importStructureChanged
  | jsxElementAdded | jsxElementRemoved | jsxPropsChanged | spreadOperatorAdded
  | spreadOperatorRemoved | ternaryAdded | ternaryRemoved | variableDeclarationChanged => .low

end ChangeKind

end ChangeLens
