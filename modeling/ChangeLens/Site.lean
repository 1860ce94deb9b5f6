import ChangeLens.CalleePath
import ChangeLens.Span
import ChangeLens.Text.Search
import ChangeLens.Text.Uppercase

/-!
# `ChangeLens.Site`: what a source file is made of, as far as changes are concerned

A *site* is one function, type, call, import, statement or markup element of a file, with the texts
that comparisons need and the span where it stands. Texts are normalized: two sites that differ in
layout or comments alone differ in their spans alone.
-/

set_option autoImplicit false

namespace ChangeLens

/-! ### Functions -/

/-- One formal parameter. -/
structure Parameter where
  /-- The text of the binding, an identifier or a pattern. -/
  name : String
  /-- The canonical type; `any` when none is written. -/
  typeText : String := "any"
  /-- Declared with a question mark. -/
  optional : Bool := false
  /-- Takes the remaining arguments. -/
  rest : Bool := false
  /-- Has a default value. -/
  hasDefault : Bool := false
  /-- The key paths that an object pattern takes apart. -/
  destructured : Option (List String) := none
deriving Repr, DecidableEq

/-- What a caller sees of a parameter: names and default values are no part of it. -/
structure ParameterShape where
  /-- The canonical type. -/
  typeText : String
  /-- Declared with a question mark. -/
  optional : Bool
  /-- Takes the remaining arguments. -/
  rest : Bool
deriving Repr, DecidableEq

/-- What a caller sees of a parameter. -/
def Parameter.shape (parameter : Parameter) : ParameterShape :=
  ⟨parameter.typeText, parameter.optional, parameter.rest⟩

/-- One type parameter of a generic function. -/
structure TypeParameter where
  /-- Its name. -/
  name : String
  /-- The canonical constraint; empty when there is none. -/
  constraint : String := ""
  /-- The canonical default; empty when there is none. -/
  default : String := ""
deriving Repr, DecidableEq

/-- Containers that functions can stand in. -/
inductive ContainerKind where
  | classContainer
  | namespaceContainer
  | interfaceContainer
  | functionContainer
deriving Repr, DecidableEq

/-- The word for a container in identities and reports. -/
def ContainerKind.name : ContainerKind → String
  | classContainer => "class"
  | namespaceContainer => "namespace"
  | interfaceContainer => "interface"
  | functionContainer => "nested"

/-- What a function stands in. -/
inductive FunctionContext where
  /-- Nothing but the file. -/
  | topLevel
  /-- A container with a name, which may be empty in damaged sources. -/
  | inside (kind : ContainerKind) (name : String)
deriving Repr, DecidableEq

namespace FunctionContext

/-- The word for the context. -/
def kindName : FunctionContext → String
  | topLevel => "global"
  | inside kind _ => kind.name

/-- The name of the container. -/
def container? : FunctionContext → Option String
  | topLevel => none
  | inside _ name => some name

/-- The name of the container, if it has one that is not empty. -/
def namedContainer? (context : FunctionContext) : Option String :=
  context.container?.filter (!·.isEmpty)

/-- The context as it appears in the identity of a function. -/
def render (context : FunctionContext) : String :=
  match context.namedContainer? with
  | some name => context.kindName ++ ":" ++ name
  | none => context.kindName

end FunctionContext

/-- The name of functions without a name. -/
def anonymous : String :=
  "<anonymous>"

/-- A function, method, constructor or function-valued binding. -/
structure FunctionSite where
  /-- The declared name; `Class.constructor` for constructors. -/
  name : String
  /-- Name, context, static flag and visibility: what functions are matched by. -/
  identity : String
  /-- What the function stands in. -/
  context : FunctionContext
  /-- Where it stands. -/
  span : Span
  /-- Its parameters. -/
  parameters : List Parameter := []
  /-- The canonical return type; `any` when none is written. -/
  returnType : String := "any"
  /-- Its type parameters. -/
  typeParameters : List TypeParameter := []
  /-- A static member of a class. -/
  isStatic : Bool := false
  /-- The visibility of a class member. -/
  visibility : Option String := none
  /-- Declared `async`. -/
  isAsync : Bool := false
  /-- Exported by the statement it stands in. -/
  isExported : Bool := false
  /-- The normalized body. -/
  bodyText : String := ""
  /-- The cyclomatic complexity. -/
  complexity : Nat := 1
  /-- The signature as reports show it. -/
  signature : String := ""
  /-- The number of signatures without a body that share the identity. -/
  overloads : Nat := 0
deriving Repr, DecidableEq

/-- Whether a function has no name. -/
def FunctionSite.isAnonymous (site : FunctionSite) : Bool :=
  site.name == anonymous

/-! ### Types -/

/-- One member of an object type, interface or enumeration. -/
structure TypeMember where
  /-- Its name. -/
  name : String
  /-- Its type. -/
  typeText : String := "any"
  /-- Declared with a question mark. -/
  optional : Bool := false
  /-- A method rather than a property. -/
  isMethod : Bool := false
deriving Repr, DecidableEq

/-- The three ways to define a type. -/
inductive TypeForm where
  | aliasType
  | interfaceType
  | enumType
deriving Repr, DecidableEq

/-- The word for a form of type definition. -/
def TypeForm.name : TypeForm → String
  | aliasType => "type"
  | interfaceType => "interface"
  | enumType => "enum"

/-- A type alias, interface or enumeration. -/
structure TypeSite where
  /-- Its name. -/
  name : String
  /-- How it is defined. -/
  form : TypeForm
  /-- The normalized text of the definition. -/
  definition : String
  /-- The definition with the order of members folded. -/
  canonical : String
  /-- Where it stands. -/
  span : Span
  /-- Its members. -/
  members : List TypeMember := []
deriving Repr, DecidableEq

/-! ### Calls and modules -/

/-- A call, a `new` expression or a tagged template. -/
structure CallSite where
  /-- The callee as written, without layout. -/
  callee : String
  /-- The callee as a dotted path. -/
  path : String
  /-- Where the call stands. -/
  span : Span
  /-- The normalized arguments. -/
  arguments : List String := []
  /-- A `new` expression. -/
  isNew : Bool := false
  /-- A tagged template. -/
  isTagged : Bool := false
  /-- The template of a tagged template. -/
  templateText : String := ""
  /-- The entries of the dependency list of a hook call, if one is passed. -/
  dependencies : Option (List String) := none
deriving Repr, DecidableEq

/-- The last segment of the callee. -/
def CallSite.simpleName (call : CallSite) : String :=
  CalleePath.lastSegment call.path

/-- Whether `name` starts with `start` and a capital letter. -/
def hasVerbStart (start name : String) : Bool :=
  start.toList.isPrefixOf name.toList && (name.toList.drop start.length).head?.any Char.isUpper

/-- Names of hooks: `use` and a capital letter. -/
def isHookName (name : String) : Bool :=
  hasVerbStart "use" name

/-- Names of event handler attributes: `on` and a capital letter. -/
def isEventName (name : String) : Bool :=
  hasVerbStart "on" name

/-- One name that an import binds. -/
structure ImportSpecifier where
  /-- The name in the module; `*` for all of it. -/
  name : String
  /-- The name it gets here. -/
  renamed : Option String := none
  /-- Erased at compile time. -/
  isTypeOnly : Bool := false
deriving Repr, DecidableEq

/-- The name that an import binds here. -/
def ImportSpecifier.localName (specifier : ImportSpecifier) : String :=
  (specifier.renamed.filter (!·.isEmpty)).getD specifier.name

/-- An import statement. -/
structure ImportSite where
  /-- The module. -/
  moduleName : String
  /-- Where the statement stands. -/
  span : Span
  /-- The names it binds. -/
  specifiers : List ImportSpecifier := []
  /-- Binds the default export. -/
  isDefault : Bool := false
  /-- Binds the whole module. -/
  isNamespace : Bool := false
  /-- Erased at compile time. -/
  isTypeOnly : Bool := false
  /-- Its place among the imports, from zero. -/
  order : Nat := 0
deriving Repr, DecidableEq

/-- Whether an import only runs its module. -/
def ImportSite.isSideEffectOnly (site : ImportSite) : Bool :=
  site.specifiers.isEmpty

/-- What kind of thing an export gives away. -/
inductive ExportKind where
  | functionExport
  | classExport
  | interfaceExport
  | typeExport
  | enumExport
  | namespaceExport
  | variableExport
  | reexport
deriving Repr, DecidableEq

/-- The word for a kind of export. -/
def ExportKind.name : ExportKind → String
  | functionExport => "function"
  | classExport => "class"
  | interfaceExport => "interface"
  | typeExport => "type"
  | enumExport => "enum"
  | namespaceExport => "namespace"
  | variableExport => "variable"
  | reexport => "reexport"

/-- One exported name. -/
structure ExportSite where
  /-- The name. -/
  name : String
  /-- What it stands for. -/
  kind : ExportKind
  /-- Where the export statement stands. -/
  span : Span
  /-- The default export. -/
  isDefault : Bool := false
deriving Repr, DecidableEq

/-! ### Declarations -/

/-- A class declaration. -/
structure ClassSite where
  /-- Its name. -/
  name : String
  /-- Where it stands. -/
  span : Span
  /-- The class it extends. -/
  parent? : Option String := none
  /-- The interfaces it implements. -/
  implements : List String := []
  /-- The names of its methods, each once. -/
  methods : List String := []
  /-- The names of its fields. -/
  properties : List String := []
deriving Repr, DecidableEq

/-- An interface declaration. -/
structure InterfaceSite where
  /-- Its name. -/
  name : String
  /-- Where it stands. -/
  span : Span
  /-- The interfaces it extends. -/
  parents : List String := []
  /-- Its properties. -/
  properties : List TypeMember := []
  /-- The names of its methods. -/
  methods : List String := []
deriving Repr, DecidableEq

/-- A declared variable. -/
structure VariableSite where
  /-- Its name. -/
  name : String
  /-- Where its declarator stands. -/
  span : Span
  /-- The canonical type; `any` when none is written. -/
  typeText : String := "any"
  /-- Declared `const`. -/
  isConst : Bool := false
  /-- Starts with a value. -/
  hasInitializer : Bool := false
deriving Repr, DecidableEq

/-- A hook called by its bare name. -/
structure HookSite where
  /-- The name of the hook. -/
  name : String
  /-- The built-in hook it is, or `custom`. -/
  hookType : String
  /-- The call. -/
  call : CallSite
deriving Repr, DecidableEq

/-- Where a hook stands. -/
def HookSite.span (hook : HookSite) : Span :=
  hook.call.span

/-! ### Markup -/

/-- How the value of an attribute is written. -/
inductive PropForm where
  | literal
  | expression
  | spread
deriving Repr, DecidableEq

/-- The word for a form of attribute. -/
def PropForm.name : PropForm → String
  | literal => "literal"
  | expression => "expression"
  | spread => "spread"

/-- One attribute of a markup element. -/
structure Attribute where
  /-- Its name; three dots for a spread. -/
  name : String
  /-- How its value is written. -/
  form : PropForm
  /-- Its value. -/
  value : String := ""
deriving Repr, DecidableEq

/-- A markup element. -/
structure ElementSite where
  /-- The tag. -/
  tag : String
  /-- Where it stands. -/
  span : Span
  /-- Its attributes. -/
  props : List Attribute := []
  /-- Whether it holds anything that is shown. -/
  hasChildren : Bool := false
deriving Repr, DecidableEq

/-- Whether a tag names a component: it starts with a capital letter. -/
def ElementSite.isComponent (site : ElementSite) : Bool :=
  site.tag.toList.head?.any Text.isUppercase

/-- An event handler attribute. -/
structure HandlerSite where
  /-- The tag of the element. -/
  element : String
  /-- The name of the attribute. -/
  event : String
  /-- Where the attribute stands. -/
  span : Span
  /-- The normalized handler. -/
  text : String := ""
  /-- The handler is a function written in place. -/
  isInline : Bool := false
  /-- The cyclomatic complexity of the handler. -/
  complexity : Nat := 1
deriving Repr, DecidableEq

/-- The two ways to render on a condition. -/
inductive RenderForm where
  | ternary
  | logical
deriving Repr, DecidableEq

/-- The word for a way to render on a condition. -/
def RenderForm.name : RenderForm → String
  | ternary => "ternary"
  | logical => "logical"

/-- Markup that is rendered on a condition. -/
structure RenderSite where
  /-- How the condition is written. -/
  form : RenderForm
  /-- The normalized expression. -/
  text : String
  /-- Where it stands. -/
  span : Span
deriving Repr, DecidableEq

/-! ### Statements and expressions -/

/-- A call that changes an array in place. -/
structure ArrayMutationSite where
  /-- The array. -/
  target : String
  /-- The method called on it. -/
  method : String
  /-- Where the call stands. -/
  span : Span
deriving Repr, DecidableEq

/-- What array mutations are matched by. -/
def ArrayMutationSite.key (site : ArrayMutationSite) : String :=
  site.target ++ "." ++ site.method

/-- An assignment to a property. -/
structure ObjectMutationSite where
  /-- The property. -/
  target : String
  /-- The assignment operator. -/
  operator : String
  /-- Where the assignment stands. -/
  span : Span
deriving Repr, DecidableEq

/-- A return statement. -/
structure ReturnSite where
  /-- The normalized value; empty when there is none. -/
  text : String
  /-- Whether the value looks like a promise. -/
  returnsPromise : Bool
  /-- Where the statement stands. -/
  span : Span
deriving Repr, DecidableEq

/-- A conditional expression. -/
structure TernarySite where
  /-- The condition. -/
  condition : String
  /-- The value if the condition holds. -/
  whenTrue : String
  /-- The value otherwise. -/
  whenFalse : String
  /-- Where the expression stands. -/
  span : Span
deriving Repr, DecidableEq

/-- An if statement. -/
structure ConditionalSite where
  /-- The named function or class around it. -/
  scope : String
  /-- The condition. -/
  condition : String
  /-- The first branch. -/
  thenText : String
  /-- The other branch; empty when there is none. -/
  elseText : String
  /-- Where the statement stands. -/
  span : Span
deriving Repr, DecidableEq

/-- Scope and branches: what if statements are matched by. -/
def ConditionalSite.fingerprint (site : ConditionalSite) : String :=
  site.scope ++ "::" ++ site.thenText ++ "::" ++ site.elseText

/-- A loop. -/
structure LoopSite where
  /-- The word for the loop. -/
  kind : String
  /-- The normalized loop. -/
  text : String
  /-- Where the loop stands. -/
  span : Span
  /-- The node label for records. -/
  nodeLabel : String := "IterationStatement"
deriving Repr, DecidableEq

/-- A try statement. -/
structure TrySite where
  /-- The guarded block. -/
  tryText : String
  /-- The handler; empty when there is none. -/
  catchText : String
  /-- The final block; empty when there is none. -/
  finallyText : String
  /-- Where the statement stands. -/
  span : Span
deriving Repr, DecidableEq

/-- A throw statement. -/
structure ThrowSite where
  /-- The normalized statement. -/
  text : String
  /-- Where the statement stands. -/
  span : Span
deriving Repr, DecidableEq

/-- The two classes of operators that are compared. -/
inductive OperatorClass where
  | comparison
  | logical
deriving Repr, DecidableEq

/-- The word for a class of operators. -/
def OperatorClass.name : OperatorClass → String
  | comparison => "comparison"
  | logical => "logical"

/-- A comparison or logical operator between two operands. -/
structure OperatorSite where
  /-- The operator. -/
  operator : String
  /-- Its class. -/
  category : OperatorClass
  /-- The left operand. -/
  left : String
  /-- The right operand. -/
  right : String
  /-- Where the operator itself stands. -/
  span : Span
deriving Repr, DecidableEq

/-- What a spread or a pattern is about. -/
inductive CollectionKind where
  | object
  | array
deriving Repr, DecidableEq

/-- The word for a kind of collection. -/
def CollectionKind.name : CollectionKind → String
  | object => "object"
  | array => "array"

/-- A spread element. -/
structure SpreadSite where
  /-- What it is spread into. -/
  kind : CollectionKind
  /-- The normalized element. -/
  text : String
  /-- Where it stands. -/
  span : Span
deriving Repr, DecidableEq

/-- What spreads are matched by. -/
def SpreadSite.key (site : SpreadSite) : String :=
  site.kind.name ++ ":" ++ site.text

/-- A declaration that takes a value apart. -/
structure DestructuringSite where
  /-- What the pattern takes apart. -/
  kind : CollectionKind
  /-- The pattern. -/
  pattern : String
  /-- The value. -/
  initializer : String
  /-- Where the declarator stands. -/
  span : Span
deriving Repr, DecidableEq

/-- Pattern and value of a destructuring. -/
def DestructuringSite.key (site : DestructuringSite) : String :=
  site.pattern ++ "::" ++ site.initializer

/-- An assignment to a variable. -/
structure AssignmentSite where
  /-- The variable. -/
  target : String
  /-- The normalized value. -/
  value : String
  /-- Where the assignment stands. -/
  span : Span
deriving Repr, DecidableEq

end ChangeLens
