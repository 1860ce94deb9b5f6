import ChangeLens.Analyzer.Registry
import ChangeLens.Extract
import ChangeLens.Hunk
import ChangeLens.Text.Scan

/-!
# `ChangeLens.Detect`: the semantic changes of one file

The analyzers compare the models of both versions. When none of them finds a changed signature,
coarser checks of parameter counts take over, tier by tier. The records then go through the policy,
are cut down to the hunks, freed of duplicates, joined by the inferred signature record when other
changes stand without a changed signature, and sorted.
-/

set_option autoImplicit false

namespace ChangeLens.Detect

open ChangeLens.Text

/-! ### Signature fallbacks -/

/-- Whether some record reports a changed signature. -/
def hasSignatureChange (records : List Record) : Bool :=
  records.any (·.kind == .functionSignatureChanged)

/-- The named head functions whose number of parameters differs from that of the last base function
with their key. -/
def countChanges (target : Target) (key : FunctionSite → String) (base head : Model) :
    List Record :=
  head.namedFunctions.filterMap fun site =>
    match lastWith? key (key site) base.namedFunctions with
    | none => none
    | some before =>
      if before.parameters.length = site.parameters.length then none
      else
        some (target.report .functionSignatureChanged .high site.span "FunctionDeclaration"
          s!"Function signature changed: '{site.name}'" (some (arrow before.signature site.signature)))

/-- Parameter counts by identity. -/
def byIdentity (target : Target) (base head : Model) : List Record :=
  countChanges target FunctionSite.identity base head

/-- Parameter counts by name. -/
def byName (target : Target) (base head : Model) : List Record :=
  countChanges target FunctionSite.name base head

/-- Characters that start an identifier. -/
def startsIdentifier (c : Char) : Bool :=
  c.isAlpha || c == '_' || c == '$'

/-- The text behind an optional type parameter list, which ends at its first closing bracket. -/
def skipTypeParameters (cs : List Char) : List Char :=
  match cs with
  | '<' :: rest =>
    match rest.dropWhile (· != '>') with
    | '>' :: after => after
    | _ => cs
  | _ => cs

/-- The number of comma-separated parameters in a text. -/
def parameterCount (parameters : List Char) : Nat :=
  let text := stripWhile isBlank parameters
  if text.isEmpty then 0 else text.count ',' + 1

/-- The head of a function declaration: the word `function`, a name, perhaps type parameters, and
parameters up to the first closing parenthesis. Finds the name and the number of parameters. -/
def functionHead : Pattern (String × Nat) := fun cs => do
  if !"function".toList.isPrefixOf cs then none
  else
    let afterWord := cs.drop 8
    let nameStart := afterWord.dropWhile isBlank
    -- At least one blank stands between the word and the name.
    if nameStart.length = afterWord.length || !nameStart.head?.any startsIdentifier then none
    else
      let name := nameStart.takeWhile fun c => isWord c || c == '$'
      let rest := skipTypeParameters ((nameStart.drop name.length).dropWhile isBlank)
      match rest.dropWhile isBlank with
      | '(' :: inside =>
        let parameters := inside.takeWhile (· != ')')
        match inside.drop parameters.length with
        | _ :: after =>
          some (cs.length - after.length, String.ofList name, parameterCount parameters)
        | [] => none
      | _ => none

/-- The names and parameter counts of all function heads in a text. -/
def parameterCounts (text : String) : List (String × Nat) :=
  findAll functionHead text.toList

/-- Parameter counts by the text alone. The last head of a name counts in the base version, the
first one in the head version. -/
def byText (target : Target) (base head : String) : List Record :=
  let before := parameterCounts base
  (firstOfEach (·.1) (parameterCounts head)).filterMap fun (name, count) =>
    match lastWith? (·.1) name before with
    | none => none
    | some (_, old) =>
      if old = count then none
      else
        some (target.reportFile .functionSignatureChanged .high
          s!"Function signature changed: '{name}'" (some s!"Param count: {old} -> {count}"))

/-- The records of the first tier that finds a changed signature; none when the analyzers did. -/
def fallbacks (target : Target) (base head : Model) (found : List Record) : List Record :=
  if hasSignatureChange found then []
  else
    match byIdentity target base head with
    | [] =>
      match byName target base head with
      | [] => byText target base.text head.text
      | records => records
    | records => records

/-! ### Folding -/

/-- Puts a record among unique ones: of two with the same key the more severe one stays, the first
one when they are equally severe. -/
def keepSevere (record : Record) : List Record → List Record
  | [] => [record]
  | kept :: rest =>
    if kept.key = record.key then
      (if kept.severity.rank < record.severity.rank then record else kept) :: rest
    else kept :: keepSevere record rest

/-- One record for each key, in the order in which the keys first occur. -/
def deduplicate (records : List Record) : List Record :=
  records.foldl (fun kept record => keepSevere record kept) []

/-- Whether one record comes no later than another one: more severe ones first, then by position. -/
def comesFirst (a b : Record) : Bool :=
  b.severity.rank < a.severity.rank ||
    (a.severity.rank == b.severity.rank && a.span.position.atOrBefore b.span.position)

/-- Records by severity and position; equals keep their order. -/
def sortRecords (records : List Record) : List Record :=
  records.mergeSort comesFirst

/-- The record for a signature change that is only inferred, as far as the policy lets it through. -/
def inferredRecord (target : Target) : List Record :=
  target.config.applyPolicy
    [target.reportFile .functionSignatureChanged .high
      "Function signature change inferred by context" (some "Heuristic fallback")]

/-- What the analyzers found: the records about functions, and all others. `none` when one of the
analyzers that run broke down. -/
def runAnalyzers (analyzers : List Analyzer) (target : Target) (base head : Model) :
    Option (List Record × List Record) := do
  let running := analyzers.filter (·.runsUnder target.config)
  let produced ← running.mapM fun analyzer =>
    (analyzer.compare target base head).map fun records => (analyzer.name == "functions", records)
  some ((produced.filter (·.1)).flatMap (·.2), (produced.filter (!·.1)).flatMap (·.2))

/-- What remains of the records of all analyzers: policy, hunks, duplicates, the inferred record and
the order. -/
def fold (target : Target) (hunks : List Hunk) (aboutFunctions others : List Record) :
    List Record :=
  let allowed := target.config.applyPolicy (aboutFunctions ++ others)
  let unique := deduplicate (Hunk.scope hunks allowed)
  -- Keys do not depend on severities, so those before the policy serve for the records after it.
  let keys := others.map Record.key
  let inferred :=
    if !hasSignatureChange unique && unique.any (fun record => keys.contains record.key) then
      inferredRecord target
    else []
  sortRecords (unique ++ inferred)

/-- The changes between two models. -/
def changes (analyzers : List Analyzer) (target : Target) (hunks : List Hunk) (base head : Model) :
    List Record :=
  match runAnalyzers analyzers target base head with
  | none => []
  | some (aboutFunctions, others) =>
    fold target hunks (aboutFunctions ++ fallbacks target base head aboutFunctions) others

end Detect

/-- The semantic changes between two versions of a file. An analyzer that breaks down yields no
records at all. -/
def detectChanges (analyzers : List Analyzer) (target : Target) (hunks : List Hunk)
    (base head : Source) : List Record :=
  let dialect := dialectForPath target.path
  Detect.changes analyzers target hunks (Model.ofSource base dialect) (Model.ofSource head dialect)

/-- The records for a file that has no base version: its exports and its own functions. -/
def describeNewFile (target : Target) (source : Source) : List Record :=
  let model := Model.ofSource source (dialectForPath target.path)
  let exported := model.exports.map fun site =>
    target.report .exportAdded .high site.span "ExportDeclaration"
      s!"New export '{site.name}' added" (some ("Export type: " ++ site.kind.name))
  let own := model.namedFunctions.filter fun site => !model.exports.any (·.name == site.name)
  let added := own.map fun site =>
    target.report .functionAdded .medium site.span "FunctionDeclaration"
      s!"New function '{site.name}' added"
  Detect.sortRecords (target.config.applyPolicy (exported ++ added))

end ChangeLens
