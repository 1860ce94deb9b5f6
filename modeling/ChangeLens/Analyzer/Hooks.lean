import ChangeLens.Analyzer.Calls

/-!
# `ChangeLens.Analyzer.Hooks`: hooks and state management

Hooks are matched by type and name. The order of dependencies does not matter here.
-/

set_option autoImplicit false

namespace ChangeLens.Analyzer

open ChangeLens.Pairing

/-- What hooks are matched by. -/
def hookKey (hook : HookSite) : String :=
  hook.hookType ++ ":" ++ hook.name

/-- A record about a hook. -/
def hookRecord (target : Target) (kind : ChangeKind) (severity : Severity) (hook : HookSite)
    (detail : String) (context : Option String) : Record :=
  target.report kind severity hook.span "CallExpression" detail context

/-- The dependency lists of a pair of hooks, their order left aside. -/
def hookChanges (target : Target) (before after : HookSite) : List Record :=
  let old := before.call.dependencies
  let new := after.call.dependencies
  if old.map Text.sorted = new.map Text.sorted then []
  else
    [hookRecord target .hookDependencyChanged .high after (dependencyDetail after.name)
      (dependencyContext old new)]

/-- A hook that is new. One more `useState` among others is a matter of state management. -/
def hookAdded (target : Target) (baseHasState : Bool) (hook : HookSite) : List Record :=
  if hook.hookType == "useState" && baseHasState then []
  else if hook.hookType == "useEffect" then
    [hookRecord target .effectAdded .medium hook "Effect added via useEffect" none]
  else [hookRecord target .hookAdded .medium hook s!"React hook added: {hook.name}" none]

/-- A hook that is gone. -/
def hookRemoved (target : Target) (hook : HookSite) : Record :=
  let deps := hook.call.dependencies
  let context :=
    if deps.any (!·.isEmpty) then some ("dependencies were " ++ dependencyText deps) else none
  if hook.hookType == "useEffect" then
    hookRecord target .effectRemoved .high hook "Effect removed: useEffect call missing" context
  else hookRecord target .hookRemoved .medium hook s!"React hook removed: {hook.name}" context

/-- The differences between the hooks of two versions. -/
def compareHooks : Comparison := fun target base head =>
  let baseHasState := base.hooks.any (·.hookType == "useState")
  let (taken, left) :=
    claims (fun after before => hookKey before == hookKey after) head.hooks base.hooks
  taken.flatMap (fun (hook, before?) =>
    match before? with
    | some before => hookChanges target before hook
    | none => hookAdded target baseHasState hook) ++
  (grouped hookKey base.hooks left).map (hookRemoved target)

/-- Hooks. -/
def hooks : Analyzer :=
  .of "hooks" (some .reactHooks) compareHooks

/-! ### State management -/

/-- The hooks that hold state. -/
def stateHooks : List String :=
  ["useState", "useReducer"]

/-- The number of hooks of one type, when it changes, with the hook that shows it. -/
def stateChange? (base head : Model) (hookType : String) : Option (String × Span) :=
  let before := base.hooksOfType hookType
  let after := head.hooksOfType hookType
  let anchor? := if before.length < after.length then after.head? else before.head?
  if before.length = after.length then none
  else
    anchor?.map fun anchor =>
      (s!"{hookType}: {before.length} -> {after.length}", anchor.span)

/-- One record when the number of state hooks changes; it stands at the last type that changed. -/
def compareState : Comparison := fun target base head =>
  let changes := stateHooks.filterMap (stateChange? base head)
  match changes.getLast? with
  | none => []
  | some (_, span) =>
    [target.report .stateManagementChanged .high span "CallExpression"
      ("State management hooks changed: " ++ Text.join ", " (changes.map (·.1)))]

/-- State management. -/
def stateManagement : Analyzer :=
  .of "state-management" none compareState

end ChangeLens.Analyzer
