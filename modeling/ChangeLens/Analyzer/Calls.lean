import ChangeLens.Analyzer
import ChangeLens.Pairing

/-!
# `ChangeLens.Analyzer.Calls`: calls and calls with side effects

`pairCalls` matches calls in four passes, from the most certain to the least: the same callee text
once on each side, the same path and arguments, the same path, and the same path behind the receiver
with the same arguments.
-/

set_option autoImplicit false

namespace ChangeLens.Analyzer

open ChangeLens.Pairing

/-- A call as reports show it. -/
def callText (call : CallSite) : String :=
  call.callee ++ "(" ++ Text.join ", " call.arguments ++ ")"

/-- The node label of a call. -/
def callLabel (call : CallSite) : String :=
  if call.isNew then "NewExpression"
  else if call.isTagged then "TaggedTemplateExpression"
  else "CallExpression"

/-- The detail of a changed dependency list; calls and hooks share it, so that both reports count as
one. -/
def dependencyDetail (name : String) : String :=
  s!"Hook dependency array changed for '{name}'"

/-- A dependency list as reports show it. -/
def dependencyText : Option (List String) → String
  | none => "(none)"
  | some entries => "[" ++ Text.join ", " entries ++ "]"

/-- Two dependency lists, one a line. -/
def dependencyContext (before after : Option (List String)) : Option String :=
  some ("Before deps: " ++ dependencyText before ++ "\nAfter deps: " ++ dependencyText after)

/-- One more pass over what earlier passes left. -/
def andThen {α : Type} (first : Pairing α) (pass : List α → List α → Pairing α) : Pairing α :=
  let second := pass first.base first.head
  ⟨first.pairs ++ second.pairs, second.base, second.head⟩

/-- Matches calls, each by the first pass that fits. -/
def pairCalls (base head : List CallSite) : Pairing CallSite :=
  let unique := pairUnique CallSite.callee base head
  let exact := andThen unique (pairBy fun call => (call.path, call.arguments))
  let byPath := andThen exact (pairBy CallSite.path)
  andThen byPath (pairBy fun call => (CalleePath.suffix call.path, call.arguments))

/-- Whether an argument is `undefined` or `void 0`; one line end may follow. -/
def isUndefined (argument : String) : Bool :=
  let cs := argument.toList
  -- One line end at the very end does not count.
  let body := if cs.getLast? == some '\n' then cs.dropLast else cs
  let isValue (cs : List Char) :=
    cs == "undefined".toList ||
      ("void".toList.isPrefixOf cs && (cs.drop 4).dropWhile Text.isBlank == ['0'])
  isValue cs || isValue body

/-- A call and a `new` expression. -/
def newChanges (target : Target) (base head : CallSite) : List Record :=
  let shown (call : CallSite) := (if call.isNew then "new " else "") ++ base.callee
  if base.isNew = head.isNew then []
  else
    [target.report .functionCallChanged .high head.span (callLabel head)
      s!"Constructor vs function call changed for '{base.callee}'"
      (some ("Call kind changed: " ++ arrow (shown base) (shown head)))]

/-- The dependency lists of a hook. -/
def dependencyChanges (target : Target) (base head : CallSite) : List Record :=
  if isHookName head.simpleName && base.dependencies ≠ head.dependencies then
    [target.report .hookDependencyChanged .high head.span (callLabel head)
      (dependencyDetail head.callee) (dependencyContext base.dependencies head.dependencies)]
  else []

/-- The templates of tagged templates. -/
def templateChanges (target : Target) (base head : CallSite) : List Record :=
  if (base.isTagged || head.isTagged) && base.templateText ≠ head.templateText then
    [target.report .functionCallModified .medium head.span (callLabel head)
      s!"Tagged template invocation changed for '{base.callee}'"
      (some "Template literal contents changed")]
  else []

/-- Both calls of a pair, one a line. -/
def callContext (base head : CallSite) : Option String :=
  some ("Before: " ++ callText base ++ "\nAfter: " ++ callText head)

/-- The arguments: their order when their number is the same, else their number. Arguments that are
dropped at the end count only when one of them is not undefined. -/
def argumentChanges (target : Target) (base head : CallSite) : List Record :=
  let before := base.arguments
  let after := head.arguments
  let record (severity : Severity) (what : String) :=
    target.report .functionCallModified severity head.span (callLabel head)
      s!"Function call '{base.callee}' {what}" (callContext base head)
  let counts := s!"argument count changed ({before.length} -> {after.length})"
  if before.length = after.length then
    if !sameOrder before after && sameItems before after then
      [record .low "argument order changed"]
    else []
  else if after.length < before.length then
    if (before.drop after.length).all isUndefined then [] else [record .high counts]
  else [record .medium counts]

/-- All differences of a pair of calls. -/
def callChanges (target : Target) (base head : CallSite) : List Record :=
  newChanges target base head ++ dependencyChanges target base head ++
    templateChanges target base head ++ argumentChanges target base head

/-- A call that is gone. -/
def callRemoved (target : Target) (call : CallSite) : Record :=
  target.report .functionCallRemoved .medium call.span (callLabel call)
    s!"Function call '{call.callee}' was removed" (some ("Removed call: " ++ callText call))

/-- A call that is new. -/
def callAdded (target : Target) (call : CallSite) : Record :=
  target.report .functionCallAdded .medium call.span (callLabel call)
    s!"Function call '{call.callee}' was added" (some ("New call: " ++ callText call))

/-- The differences between the calls of two versions. -/
def compareCalls : Comparison := fun target base head =>
  let paired := pairCalls base.calls head.calls
  paired.pairs.flatMap (fun (b, h) => callChanges target b h) ++
    paired.base.map (callRemoved target) ++ paired.head.map (callAdded target)

/-- Calls. -/
def calls : Analyzer :=
  .of "calls" (some .sideEffects) compareCalls

/-! ### Side effects -/

/-- Calls of one path no further apart than this count as the same call. -/
def sideEffectWindow : Int := 2

/-- Whether a call of the base version stands near a call of the head version. -/
def isNear (head base : CallSite) : Bool :=
  base.path == head.path &&
    base.span.startLine - head.span.startLine ≤ sideEffectWindow &&
    head.span.startLine - base.span.startLine ≤ sideEffectWindow

/-- A call of a callee that is configured to have side effects. -/
def sideEffectAdded (target : Target) (call : CallSite) : Record :=
  target.report .functionCallAdded .high call.span (callLabel call)
    s!"Side effect call added: {call.path}" (some (callText call))

/-- What is reported about a call: it has to be new and to have side effects. Its callee is matched
first, be the call new or not. -/
def sideEffectChanges (target : Target) (base : Model) (call : CallSite) :
    Except PatternFault (List Record) := do
  let configured ← target.config.sideEffectCallees.matches call.path
  .ok (if configured && !base.calls.any (isNear call) then [sideEffectAdded target call] else [])

/-- New calls of callees that are configured to have side effects. -/
def compareSideEffects : PartialComparison := fun target base head =>
  head.calls.flatMapM (sideEffectChanges target base)

/-- Calls with side effects. -/
def sideEffects : Analyzer :=
  .ofPartial "side-effects" (some .sideEffects) compareSideEffects

end ChangeLens.Analyzer
