import ChangeLens.Analyzer
import ChangeLens.Pairing

/-!
# `ChangeLens.Analyzer.Functions`: added, removed, renamed and re-signed functions

Functions are matched by identity. Of a pair, what callers see is compared: return type, shape of
each parameter, destructured keys, type parameters, number of overloads and the async flag.
Parameter names and default values are no part of it.
-/

set_option autoImplicit false

namespace ChangeLens.Analyzer

open ChangeLens.Pairing

/-- Two bodies or definitions count as the same under another name above this many tenths. -/
def renameTenths : Nat := 7

/-- Complexities that differ by no more than this count as equal. -/
def complexityTolerance : Nat := 3

/-- The node label of a function. -/
def functionLabel (site : FunctionSite) : String :=
  if Text.endsWith ".constructor" site.name then "Constructor"
  else
    match site.context with
    | .inside .classContainer _ | .inside .interfaceContainer _ => "MethodDeclaration"
    | _ => "FunctionDeclaration"

/-- The container of a function, as a report names it. -/
def functionPlace (site : FunctionSite) : String :=
  match site.context.namedContainer? with
  | some name => s!" in {site.context.kindName} '{name}'"
  | none => ""

/-- The two signatures of a pair. -/
def signatures (base head : FunctionSite) : Option String :=
  some (arrow base.signature head.signature)

/-- A changed signature of a pair. -/
def signatureRecord (target : Target) (head : FunctionSite) (severity : Severity)
    (label detail : String) (context : Option String) : Record :=
  target.report .functionSignatureChanged severity head.span label detail context

/-- Return type and parameter shapes. -/
def shapeChanges (target : Target) (base head : FunctionSite) : List Record :=
  if base.returnType = head.returnType ∧
      base.parameters.map Parameter.shape = head.parameters.map Parameter.shape then []
  else
    [signatureRecord target head .high (functionLabel head)
      s!"Function signature changed: '{head.name}'" (signatures base head)]

/-- The destructured keys of one parameter position. -/
def keyChanges (target : Target) (head : FunctionSite) (position : Nat)
    (before after : Parameter) : List Record :=
  match before.destructured, after.destructured with
  | some old, some new =>
    (sortedWithout old new).map (fun key =>
      signatureRecord target head .high "Parameter"
        s!"Destructured property '{key}' removed in '{head.name}'"
        (some s!"Param {position}: key '{key}' removed")) ++
    (sortedWithout new old).map (fun key =>
      signatureRecord target head .medium "Parameter"
        s!"Destructured property '{key}' added in '{head.name}'"
        (some s!"Param {position}: key '{key}' added"))
  | _, _ => []

/-- The destructured keys of all parameter positions that both sides have. -/
def destructuredChanges (target : Target) (base head : FunctionSite) : List Record :=
  (base.parameters.zip head.parameters).zipIdx.flatMap fun ((before, after), position) =>
    keyChanges target head position before after

/-- What callers see of the type parameters: names are no part of it. -/
def genericSurface (site : FunctionSite) : List (String × String) :=
  site.typeParameters.map fun parameter => (parameter.constraint, parameter.default)

/-- Constraints and defaults of type parameters. -/
def genericChanges (target : Target) (base head : FunctionSite) : List Record :=
  if genericSurface base = genericSurface head then []
  else
    [signatureRecord target head .high (functionLabel head)
      s!"Generic constraints changed for '{head.name}'" (signatures base head)]

/-- The number of overload signatures. -/
def overloadChanges (target : Target) (base head : FunctionSite) : List Record :=
  if base.overloads = head.overloads then []
  else
    [signatureRecord target head .high (functionLabel head)
      s!"Function overload signatures changed for '{head.name}'"
      (some s!"Overload count changed: {base.overloads} -> {head.overloads}")]

/-- The async flag. -/
def asyncChanges (target : Target) (base head : FunctionSite) : List Record :=
  if !base.isAsync && head.isAsync then
    [target.report .asyncAwaitAdded .medium head.span (functionLabel head)
      s!"Function '{head.name}' became async"]
  else if base.isAsync && !head.isAsync then
    [target.report .asyncAwaitRemoved .medium base.span (functionLabel base)
      s!"Function '{base.name}' is no longer async"]
  else []

/-- The distance of two numbers. -/
def difference (a b : Nat) : Nat :=
  (a - b) + (b - a)

/-- The complexity. -/
def complexityChanges (target : Target) (base head : FunctionSite) : List Record :=
  if difference head.complexity base.complexity ≤ complexityTolerance then []
  else
    [target.report .functionComplexityChanged .medium head.span (functionLabel head)
      s!"Complexity of '{head.name}' changed from {base.complexity} to {head.complexity}"]

/-- All that callers see of a pair. -/
def functionChanges (target : Target) (base head : FunctionSite) : List Record :=
  shapeChanges target base head ++ destructuredChanges target base head ++
    genericChanges target base head ++ overloadChanges target base head ++
    asyncChanges target base head ++ complexityChanges target base head

/-- One function that is gone and one that is new may be the same one under another name. -/
def functionRename? (target : Target) (old new : FunctionSite) : Option Record :=
  if (target.similarity old.bodyText new.bodyText).exceeds renameTenths then
    some (signatureRecord target new .medium (functionLabel new)
      s!"Function '{old.name}' was likely renamed to '{new.name}'" (signatures old new))
  else if old.parameters.length ≠ new.parameters.length then
    some (signatureRecord target new .high (functionLabel new)
      s!"Function signature changed with rename from '{old.name}' to '{new.name}'"
      (signatures old new))
  else none

/-- A function that is gone. -/
def functionRemoved (target : Target) (site : FunctionSite) : Record :=
  target.report .functionRemoved .high site.span (functionLabel site)
    s!"Function '{site.name}' was removed" (some site.signature)

/-- A function that is new. -/
def functionAdded (target : Target) (site : FunctionSite) : Record :=
  target.report .functionAdded .medium site.span (functionLabel site)
    s!"Function '{site.name}' was added{functionPlace site}" (some site.signature)

/-- The functions without a partner: a likely rename, or each on its own. -/
def functionLeftovers (target : Target) (removed added : List FunctionSite) : List Record :=
  let apart := removed.map (functionRemoved target) ++ added.map (functionAdded target)
  match removed, added with
  | [old], [new] => (functionRename? target old new).elim apart fun record => [record]
  | _, _ => apart

/-- The differences between the named functions of two versions. -/
def compareFunctions : Comparison := fun target base head =>
  let paired := pairBy FunctionSite.identity base.namedFunctions head.namedFunctions
  paired.pairs.flatMap (fun (b, h) => functionChanges target b h) ++
    functionLeftovers target paired.base paired.head

/-- Function surface. -/
def functions : Analyzer :=
  .of "functions" (some .coreStructural) compareFunctions

end ChangeLens.Analyzer
