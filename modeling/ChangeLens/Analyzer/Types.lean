import ChangeLens.Analyzer.Functions
import ChangeLens.TypeText

/-!
# `ChangeLens.Analyzer.Types`: aliases, interfaces and enumerations

Definitions are compared by their canonical text. Where it differs, members are compared one by one.
A change breaks users, and counts as high, when a required member is on one side only or a
literal-typed member takes another value.
-/

set_option autoImplicit false

namespace ChangeLens.Analyzer

/-- The node label of a type definition. -/
def typeLabel (site : TypeSite) : String :=
  match site.form with
  | .aliasType => "TypeAliasDeclaration"
  | .interfaceType => "InterfaceDeclaration"
  | .enumType => "EnumDeclaration"

/-- A changed type. -/
def typeRecord (target : Target) (severity : Severity) (span : Span) (label detail context : String) :
    Record :=
  target.report .typeDefinitionChanged severity span label detail (some context)

/-- The word for whether a member has to be there. -/
def requirement (member : TypeMember) : String :=
  if member.optional then "optional" else "required"

/-- A required member on one side only breaks users. -/
def requirementSeverity (member : TypeMember) : Severity :=
  if member.optional then .medium else .high

/-- A literal type that changes breaks users. -/
def memberTypeSeverity (before after : TypeMember) : Severity :=
  if TypeText.isLiteral before.typeText || TypeText.isLiteral after.typeText then .high else .medium

/-- What became of a member of the base version. -/
def memberChanges (target : Target) (head : TypeSite) (before : TypeMember)
    (after? : Option TypeMember) : List Record :=
  let key := before.name
  let record (severity : Severity) := typeRecord target severity head.span "PropertySignature"
  match after? with
  | none =>
    [record (requirementSeverity before) s!"Property '{key}' removed from type '{head.name}'"
      s!"Removed {requirement before} property '{key}'"]
  | some after =>
    if before.typeText ≠ after.typeText then
      [record (memberTypeSeverity before after) s!"Property '{key}' type changed in '{head.name}'"
        s!"From '{before.typeText}' to '{after.typeText}'"]
    else if before.optional ≠ after.optional then
      let action := if after.optional then "made optional" else "made required"
      [record (if after.optional then .low else .medium)
        s!"Property '{key}' {action} in '{head.name}'" s!"Property '{key}' {action}"]
    else []

/-- A member that is new. -/
def memberAdded (target : Target) (head : TypeSite) (member : TypeMember) : Record :=
  typeRecord target (requirementSeverity member) head.span "PropertySignature"
    s!"Property '{member.name}' added to type '{head.name}'"
    s!"Added {requirement member} property '{member.name}'"

/-- The differences of two definitions whose canonical texts differ: member by member, or as a whole
when all members agree. The last member of a name counts. -/
def typeChanges (target : Target) (base head : TypeSite) : List Record :=
  let before := lastOfEach TypeMember.name base.members
  let after := lastOfEach TypeMember.name head.members
  let changed := before.flatMap fun member =>
    memberChanges target head member (after.find? (·.name == member.name))
  let added := after.filter fun member => !before.any (·.name == member.name)
  match changed ++ added.map (memberAdded target head) with
  | [] =>
    [typeRecord target .medium head.span (typeLabel head)
      s!"Type structure changed in '{head.name}'" (arrow base.canonical head.canonical)]
  | records => records

/-- A text without the first occurrence of another one. -/
def withoutFirst (needle : List Char) : List Char → List Char
  | [] => []
  | c :: rest =>
    if needle.isPrefixOf (c :: rest) then (c :: rest).drop needle.length
    else c :: withoutFirst needle rest

/-- What a definition says apart from its name. -/
def typeBody (site : TypeSite) : String :=
  let cs := site.definition.toList
  let body :=
    match site.form with
    | .aliasType => (Text.afterFirst ['='] cs).getD cs
    | _ => cs
  String.ofList (withoutFirst site.name.toList body)

/-- One type that is gone and one that is new: the same one under another name, or a migration. -/
def typeMigration (target : Target) (old new : TypeSite) : Record :=
  if (target.similarity (typeBody old) (typeBody new)).exceeds renameTenths then
    typeRecord target .medium new.span (typeLabel new)
      s!"Type '{old.name}' was likely renamed to '{new.name}'" "Detected possible rename"
  else
    typeRecord target .high new.span (typeLabel new)
      s!"API type/interface changed from '{old.name}' to '{new.name}'"
      "Detected possible API migration"

/-- A type that is gone. -/
def typeRemoved (target : Target) (site : TypeSite) : Record :=
  typeRecord target .medium site.span (typeLabel site) s!"Type '{site.name}' was removed"
    s!"Removed {site.form.name} '{site.name}'"

/-- A type that is new. -/
def typeAdded (target : Target) (site : TypeSite) : Record :=
  typeRecord target .low site.span (typeLabel site) s!"Type '{site.name}' was added"
    s!"Added {site.form.name} '{site.name}'"

/-- The types on one side only. -/
def typeLeftovers (target : Target) (removed added : List TypeSite) : List Record :=
  match removed, added with
  | [old], [new] => [typeMigration target old new]
  | _, _ => removed.map (typeRemoved target) ++ added.map (typeAdded target)

/-- The differences between the type definitions of two versions. The last definition of a name
counts. -/
def compareTypes : Comparison := fun target base head =>
  let before := lastOfEach TypeSite.name base.types
  let after := lastOfEach TypeSite.name head.types
  let changed := before.flatMap fun b =>
    match after.find? (·.name == b.name) with
    | some h => if b.canonical = h.canonical then [] else typeChanges target b h
    | none => []
  changed ++ typeLeftovers target (before.filter fun b => !after.any (·.name == b.name))
    (after.filter fun h => !before.any (·.name == h.name))

/-- Type definitions. -/
def types : Analyzer :=
  .of "types" (some .typeSystem) compareTypes

end ChangeLens.Analyzer
