import ChangeLens.Site

/-!
# `ChangeLens.Model`: the structural model of one version of a file

A model holds the sites of a file, list by list, in the order of the text, and the complexity of the
whole file. Models are what analyzers compare.
-/

set_option autoImplicit false

namespace ChangeLens

/-- The structural model of one version of a file. `parsed` is false when the text could not be
parsed at all; then there are no sites, and only the text remains. -/
structure Model where
  /-- The dialect the text was read in. -/
  dialect : String
  /-- The text. -/
  text : String
  /-- Whether the text could be parsed. -/
  parsed : Bool := true
  /-- Functions, methods and function-valued bindings. -/
  functions : List FunctionSite := []
  /-- Type definitions. -/
  types : List TypeSite := []
  /-- Calls. -/
  calls : List CallSite := []
  /-- Import statements. -/
  imports : List ImportSite := []
  /-- Exported names. -/
  exports : List ExportSite := []
  /-- Class declarations. -/
  classes : List ClassSite := []
  /-- Interface declarations. -/
  interfaces : List InterfaceSite := []
  /-- Declared variables. -/
  declared : List VariableSite := []
  /-- Hook calls. -/
  hooks : List HookSite := []
  /-- Markup elements. -/
  elements : List ElementSite := []
  /-- Event handlers. -/
  handlers : List HandlerSite := []
  /-- Markup rendered on a condition. -/
  renders : List RenderSite := []
  /-- Calls that change an array in place. -/
  arrayMutations : List ArrayMutationSite := []
  /-- Assignments to properties. -/
  objectMutations : List ObjectMutationSite := []
  /-- Return statements. -/
  returns : List ReturnSite := []
  /-- Conditional expressions. -/
  ternaries : List TernarySite := []
  /-- If statements. -/
  conditionals : List ConditionalSite := []
  /-- Loops. -/
  loops : List LoopSite := []
  /-- Try statements. -/
  tries : List TrySite := []
  /-- Throw statements. -/
  throws : List ThrowSite := []
  /-- Comparison and logical operators. -/
  operators : List OperatorSite := []
  /-- Spread elements. -/
  spreads : List SpreadSite := []
  /-- Declarations that take a value apart. -/
  destructurings : List DestructuringSite := []
  /-- Assignments to variables. -/
  assignments : List AssignmentSite := []
  /-- The cyclomatic complexity of the file. -/
  complexity : Nat := 1
deriving Repr, DecidableEq

/-- The functions that have a name. -/
def Model.namedFunctions (model : Model) : List FunctionSite :=
  model.functions.filter (!·.isAnonymous)

/-- The hooks of one type. -/
def Model.hooksOfType (model : Model) (hookType : String) : List HookSite :=
  model.hooks.filter (·.hookType == hookType)

end ChangeLens
