import ChangeLens.Analyzer.Branches
import ChangeLens.Analyzer.Calls
import ChangeLens.Analyzer.Declarations
import ChangeLens.Analyzer.Functions
import ChangeLens.Analyzer.Hooks
import ChangeLens.Analyzer.Markup
import ChangeLens.Analyzer.Modules
import ChangeLens.Analyzer.Outcomes
import ChangeLens.Analyzer.Types
import ChangeLens.Analyzer.Values

/-!
# `ChangeLens.Analyzer.Registry`: all analyzers in their order

The core analyzers always run. The others may be skipped when their group is disabled, because
everything they report would be dropped anyway.
-/

set_option autoImplicit false

namespace ChangeLens.Analyzer

/-- The analyzers that always run. -/
def core : List Analyzer :=
  [functions, calls, types, imports]

/-- The analyzers that may be skipped, in the order of their reports. -/
def structural : List Analyzer :=
  [exports, classes, interfaces, declared, hooks, stateManagement, markup, sideEffects,
   arrayMutations, objectMutations, promises, ternaries, conditionals, loops, comparisonOperators,
   logicalOperators, throws, tries, destructuring, assignments, spreads, fileComplexity]

/-- All analyzers. -/
def all : List Analyzer :=
  core ++ structural

/-- The names of the analyzers that always run. -/
def coreNames : List String :=
  ["functions", "calls", "types", "imports"]

/-- Whether an analyzer runs under a configuration. -/
def runsUnder (analyzer : Analyzer) (config : Config) : Bool :=
  if coreNames.contains analyzer.name then true
  else if analyzer.group == some .jsxRendering && !config.markup.enabled.isOn then false
  else
    match analyzer.group with
    | none => true
    | some group => !config.performance.skipDisabledAnalyzers.isOn || config.groupEnabled group

end ChangeLens.Analyzer
