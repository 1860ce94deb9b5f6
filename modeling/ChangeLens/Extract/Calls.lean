import ChangeLens.Dependencies
import ChangeLens.Extract.Functions

/-!
# `ChangeLens.Extract.Calls`: calls, hooks and array mutations

A call node gives one call site when it has a callee. A hook call also gives a hook site, and a call
of a mutating array method an array mutation.
-/

set_option autoImplicit false

namespace ChangeLens.Extract

/-- Hooks that every component library provides. -/
def builtinHooks : List String :=
  ["useState", "useEffect", "useCallback", "useMemo", "useContext", "useReducer"]

/-- Methods that change an array in place. -/
def arrayMutators : List String :=
  ["push", "pop", "shift", "unshift", "splice", "sort", "reverse", "fill", "copyWithin"]

/-- The callee of a call as written, with a trailing mark for an optional call. -/
def calleeText (source : Source) (call function : Tree) : String :=
  let text := source.normalized function
  if call.hasChild "optional_chain" || call.hasChild "?." then text ++ "?." else text

/-- The arguments of a call; a template is not an argument. -/
def argumentCursors (cursor : Cursor) : List Cursor :=
  match cursor.field? "arguments" with
  | some arguments => if arguments.kind == "template_string" then [] else arguments.parts
  | none => []

/-- The call that a call node with this callee makes. -/
def callOf (source : Source) (cursor : Cursor) (function : Tree) : CallSite :=
  let callee := calleeText source cursor.node function
  let path := CalleePath.normalize callee
  let arguments := argumentCursors cursor
  let template := (cursor.node.field? "arguments").filter (·.kind == "template_string")
  { callee := callee
    path := path
    span := source.span cursor.node
    arguments := arguments.map fun argument => source.normalized argument.node
    isTagged := template.isSome
    templateText := source.textOf? template
    dependencies :=
      if isHookName (CalleePath.lastSegment path) then
        (arguments[1]?).map (source.dependencies [])
      else none }

/-- The call that a `new` expression makes. -/
def newOf (source : Source) (node function : Tree) : CallSite :=
  let callee := source.normalized function
  { callee := callee
    path := CalleePath.normalize callee
    span := source.span node
    arguments := ((node.field? "arguments").elim [] Tree.parts).map source.normalized
    isNew := true }

/-- The call at a cursor, if there is one. -/
def callAt? (source : Source) (cursor : Cursor) : Option CallSite :=
  if cursor.kind == "call_expression" then
    (cursor.node.field? "function").map (callOf source cursor)
  else if cursor.kind == "new_expression" then
    (cursor.node.field? "constructor").map (newOf source cursor.node)
  else none

/-- The hook call at a cursor, if there is one: the callee is a bare hook name. -/
def hookAt? (source : Source) (cursor : Cursor) : Option HookSite := do
  if cursor.kind != "call_expression" then none
  else
    let function ← cursor.node.field? "function"
    let call := callOf source cursor function
    if function.kind == "identifier" && isHookName call.callee then
      some
        { name := call.callee
          hookType := if builtinHooks.contains call.callee then call.callee else "custom"
          call := call }
    else none

/-- The array mutation at a cursor, if there is one. -/
def arrayMutationAt? (source : Source) (cursor : Cursor) : Option ArrayMutationSite := do
  if cursor.kind != "call_expression" then none
  else
    let function ← cursor.node.field? "function"
    let method := source.textOf? (function.field? "property")
    let object ← function.field? "object"
    if function.kind == "member_expression" && arrayMutators.contains method then
      some ⟨source.normalized object, method, source.span cursor.node⟩
    else none

/-- The calls of a source. -/
def calls (source : Source) : List CallSite :=
  (namedCursors source).filterMap (callAt? source)

/-- The hook calls of a source. -/
def hooks (source : Source) : List HookSite :=
  (namedCursors source).filterMap (hookAt? source)

/-- The array mutations of a source. -/
def arrayMutations (source : Source) : List ArrayMutationSite :=
  (namedCursors source).filterMap (arrayMutationAt? source)

end ChangeLens.Extract
