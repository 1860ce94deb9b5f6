import ChangeLens.Analyzer
import ChangeLens.Pairing

/-!
# `ChangeLens.Analyzer.Declarations`: classes, interfaces and variables

Only additions and changes are reported: what is removed shows in the functions and types.
-/

set_option autoImplicit false

namespace ChangeLens.Analyzer

open ChangeLens.Pairing

/-! ### Classes -/

/-- A changed class. -/
def classRecord (target : Target) (severity : Severity) (site : ClassSite) (label detail : String)
    (context : Option String) : Record :=
  target.report .classStructureChanged severity site.span label detail context

/-- The name of a superclass, as reports show it. -/
def superclassText (site : ClassSite) : String :=
  (site.parent?.filter (!·.isEmpty)).getD "(none)"

/-- What a class has that it had not before. -/
def classChanges (target : Target) (before after : ClassSite) : List Record :=
  let inheritance :=
    if before.parent? = after.parent? then []
    else
      [classRecord target .high after "ClassDeclaration"
        s!"Class inheritance changed: {after.name}"
        (some (arrow (superclassText before) (superclassText after)))]
  let methods := after.methods.filter (!before.methods.contains ·)
  let properties := after.properties.filter (!before.properties.contains ·)
  inheritance ++
    methods.map (fun name =>
      classRecord target .high after "MethodDeclaration"
        s!"Method added to class: {after.name}.{name}" none) ++
    properties.map (fun name =>
      classRecord target .medium after "PropertyDeclaration"
        s!"Property added to class: {after.name}.{name}" none)

/-- The differences between the classes of two versions. The last class of a name counts in the base
version. -/
def compareClasses : Comparison := fun target base head =>
  head.classes.flatMap fun site =>
    match lastWith? ClassSite.name site.name base.classes with
    | none => [classRecord target .high site "ClassDeclaration" s!"Class added: {site.name}" none]
    | some before => classChanges target before site

/-- Classes. -/
def classes : Analyzer :=
  .of "classes" (some .coreStructural) compareClasses

/-! ### Interfaces -/

/-- A changed interface. -/
def interfaceRecord (target : Target) (severity : Severity) (site : InterfaceSite)
    (label detail : String) (context : Option String) : Record :=
  target.report .interfaceModified severity site.span label detail context

/-- The type of a property, as reports show it. -/
def propertyText (member : TypeMember) : String :=
  member.typeText ++ (if member.optional then "?" else "")

/-- What became of one property of an interface. -/
def propertyChanges (target : Target) (before site : InterfaceSite) (property : TypeMember) :
    List Record :=
  match lastWith? TypeMember.name property.name before.properties with
  | none =>
    [interfaceRecord target .medium site "PropertySignature"
      s!"Property added to interface: {site.name}.{property.name}" none]
  | some old =>
    if old.typeText = property.typeText ∧ old.optional = property.optional then []
    else
      [interfaceRecord target .high site "PropertySignature"
        s!"Property type changed in interface: {site.name}.{property.name}"
        (some (arrow (propertyText old) (propertyText property)))]

/-- What an interface has that it had not before. -/
def interfaceChanges (target : Target) (before site : InterfaceSite) : List Record :=
  let methods := site.methods.filter (!before.methods.contains ·)
  site.properties.flatMap (propertyChanges target before site) ++
    methods.map fun name =>
      interfaceRecord target .high site "MethodSignature"
        s!"Method added to interface: {site.name}.{name}" none

/-- The differences between the interfaces of two versions. The last interface of a name counts in
the base version. -/
def compareInterfaces : Comparison := fun target base head =>
  head.interfaces.flatMap fun site =>
    match lastWith? InterfaceSite.name site.name base.interfaces with
    | none =>
      [interfaceRecord target .medium site "InterfaceDeclaration" s!"Interface added: {site.name}"
        none]
    | some before => interfaceChanges target before site

/-- Interfaces. -/
def interfaces : Analyzer :=
  .of "interfaces" (some .coreStructural) compareInterfaces

/-! ### Variables -/

/-- A changed variable. -/
def variableRecord (target : Target) (severity : Severity) (site : VariableSite) (detail : String)
    (context : Option String) : Record :=
  target.report .variableDeclarationChanged severity site.span "VariableDeclaration" detail context

/-- The differences between the variables of two versions. -/
def compareVariables : Comparison := fun target base head =>
  let paired := pairBy VariableSite.name base.declared head.declared
  let retyped := paired.pairs.filter fun (before, after) => before.typeText != after.typeText
  paired.head.map (fun site =>
    variableRecord target .low site s!"Variable added: {site.name}" none) ++
  retyped.map fun (before, after) =>
    variableRecord target .medium after s!"Variable type changed: {after.name}"
      (some (arrow before.typeText after.typeText))

/-- Variables. -/
def declared : Analyzer :=
  .of "variables" (some .dataFlow) compareVariables

end ChangeLens.Analyzer
