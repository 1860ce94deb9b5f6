import ChangeLens.Analyzer
import ChangeLens.Pairing
import ChangeLens.Text.Blank

/-!
# `ChangeLens.Analyzer.Outcomes`: promises returned, errors thrown and errors caught
-/

set_option autoImplicit false

namespace ChangeLens.Analyzer

open ChangeLens.Pairing

/-! ### Promises -/

/-- Return statements that resolve a promise now, and those that do no longer. -/
def comparePromises : Comparison := fun target base head =>
  let paired := pairLocated (fun site : ReturnSite => (site.text, site.returnsPromise))
    (fun site => site.span.position) base.returns head.returns
  let gained :=
    (paired.pairs.filter fun (before, after) => after.returnsPromise && !before.returnsPromise).map
      (·.2) ++ paired.head.filter (·.returnsPromise)
  let lost :=
    (paired.pairs.filter fun (before, after) => before.returnsPromise && !after.returnsPromise).map
      (·.1) ++ paired.base.filter (·.returnsPromise)
  gained.map (fun site =>
    target.report .promiseAdded .medium site.span "ReturnStatement"
      "Return value now resolves a Promise") ++
  lost.map (fun site =>
    target.report .promiseRemoved .medium site.span "ReturnStatement" "Promise return removed")

/-- Promises. -/
def promises : Analyzer :=
  .of "promises" (some .asyncPatterns) comparePromises

/-! ### Throw statements -/

/-- What a throw statement throws. -/
def thrownText (site : ThrowSite) : String :=
  if Text.startsWith "throw" site.text then
    let value := (Text.trim (Text.dropFirst 5 site.text)).toList
    String.ofList (Text.dropWhileEnd (· == ';') value)
  else site.text

/-- A record about a throw statement. -/
def throwRecord (target : Target) (kind : ChangeKind) (site : ThrowSite) (action : String) :
    Record :=
  let thrown := thrownText site
  target.report kind .high site.span "ThrowStatement"
    (if thrown.isEmpty then s!"Throw statement {action}" else s!"Throw {action}: {thrown}")

/-- The differences between the throw statements of two versions. -/
def compareThrows : Comparison := fun target base head =>
  let paired := pairLocated ThrowSite.text (fun site => site.span.position) base.throws head.throws
  paired.head.map (fun site => throwRecord target .throwAdded site "added") ++
    paired.base.map (fun site => throwRecord target .throwRemoved site "removed")

/-- Throw statements. -/
def throws : Analyzer :=
  .of "throws" (some .errorHandling) compareThrows

/-! ### Try statements -/

/-- The differences between the try statements of two versions. -/
def compareTries : Comparison := fun target base head =>
  let paired := pairLocated
    (fun site : TrySite => (site.tryText, site.catchText, site.finallyText))
    (fun site => site.span.position) base.tries head.tries
  paired.head.map (fun site =>
    target.report .tryCatchAdded .medium site.span "TryStatement" "try/catch block added") ++
  paired.pairs.map (fun (_, after) =>
    target.report .tryCatchModified .medium after.span "TryStatement" "try/catch block modified")

/-- Try statements. -/
def tries : Analyzer :=
  .of "try-catch" (some .errorHandling) compareTries

end ChangeLens.Analyzer
