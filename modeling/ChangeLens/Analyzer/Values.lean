import ChangeLens.Analyzer
import ChangeLens.Pairing

/-!
# `ChangeLens.Analyzer.Values`: mutations, assignments, destructuring and spreads

Most of these are counted per key: what the head version has beyond the base version is new, and
what the base version has beyond the head version is gone.
-/

set_option autoImplicit false

namespace ChangeLens.Analyzer

open ChangeLens.Pairing

/-- The head items that take no base item of their key. -/
def beyond {α κ : Type} [DecidableEq κ] (key : α → κ) (base head : List α) : List α :=
  (pairBy key head base).base

/-- The base items that no head item of their key takes, together by key. -/
def missing {α κ : Type} [DecidableEq κ] (key : α → κ) (base head : List α) : List α :=
  grouped key base (pairBy key head base).head

/-- New calls that change an array in place. -/
def compareArrayMutations : Comparison := fun target base head =>
  (beyond ArrayMutationSite.key base.arrayMutations head.arrayMutations).map fun site =>
    target.report .arrayMutation .medium site.span "CallExpression"
      s!"Array mutation added via {site.key}()"

/-- Array mutations. -/
def arrayMutations : Analyzer :=
  .of "array-mutations" (some .dataFlow) compareArrayMutations

/-- New assignments to properties. -/
def compareObjectMutations : Comparison := fun target base head =>
  (beyond (fun site : ObjectMutationSite => (site.target, site.operator)) base.objectMutations
    head.objectMutations).map fun site =>
    target.report .objectMutation .medium site.span "BinaryExpression"
      s!"Object property mutated: {site.target}"

/-- Object mutations. -/
def objectMutations : Analyzer :=
  .of "object-mutations" (some .dataFlow) compareObjectMutations

/-- What destructuring declarations are counted by. -/
def destructuringKey (site : DestructuringSite) : CollectionKind × String :=
  (site.kind, site.key)

/-- New and missing destructuring declarations. -/
def compareDestructurings : Comparison := fun target base head =>
  (beyond destructuringKey base.destructurings head.destructurings).map (fun site =>
    target.report .destructuringAdded ChangeKind.destructuringAdded.defaultSeverity site.span
      "VariableDeclaration" s!"Destructuring added: {site.pattern} from {site.initializer}") ++
  (missing destructuringKey base.destructurings head.destructurings).map (fun site =>
    target.report .destructuringRemoved ChangeKind.destructuringRemoved.defaultSeverity site.span
      "VariableDeclaration" s!"Destructuring removed: {site.pattern} from {site.initializer}")

/-- Destructuring. -/
def destructuring : Analyzer :=
  .of "destructuring" (some .dataFlow) compareDestructurings

/-- Assignments to the same variable at the same place with another value. -/
def compareAssignments : Comparison := fun target base head =>
  let paired := pairLocated (fun site : AssignmentSite => (site.target, site.value))
    (fun site => site.span.position) base.assignments head.assignments
  let changed := paired.pairs.filter fun (before, after) =>
    before.target == after.target && before.value != after.value
  changed.map fun (before, after) =>
    target.report .variableAssignmentChanged .medium after.span "BinaryExpression"
      s!"Assignment updated for {after.target}: {arrow before.value after.value}"

/-- Assignments. -/
def assignments : Analyzer :=
  .of "assignments" (some .dataFlow) compareAssignments

/-- A spread as reports show it. -/
def spreadText (site : SpreadSite) : String :=
  match site.kind with
  | .object => "\x7b" ++ site.text ++ "\x7d"
  | .array => site.text

/-- New and missing spreads. -/
def compareSpreads : Comparison := fun target base head =>
  (beyond SpreadSite.key base.spreads head.spreads).map (fun site =>
    target.report .spreadOperatorAdded ChangeKind.spreadOperatorAdded.defaultSeverity site.span
      "SpreadElement" s!"Spread operator added: {spreadText site}") ++
  (missing SpreadSite.key base.spreads head.spreads).map (fun site =>
    target.report .spreadOperatorRemoved ChangeKind.spreadOperatorRemoved.defaultSeverity site.span
      "SpreadElement" s!"Spread operator removed: {spreadText site}")

/-- Spreads. -/
def spreads : Analyzer :=
  .of "spreads" (some .complexity) compareSpreads

end ChangeLens.Analyzer
