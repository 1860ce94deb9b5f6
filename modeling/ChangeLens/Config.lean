import ChangeLens.Diagnostic
import ChangeLens.Group
import ChangeLens.Text.Glob

/-!
# `ChangeLens.Config`: the validated configuration of a run

`Config.build` turns the entries of a configuration file into a `Config`, or says what is wrong with
them. Lists of kinds, groups and severities are read into the vocabulary; amounts are at least what
they have to be. Switches keep the value they were given and count as on or off by `Setting.isOn`.
-/

set_option autoImplicit false

namespace ChangeLens

/-! ### The configuration -/

/-- A whole number of a configuration; a switch counts as one or zero. -/
inductive Amount where
  /-- A number. -/
  | number (value : Int)
  /-- A switch. -/
  | switch (on : Bool)
deriving Repr, DecidableEq

/-- The number that an amount stands for. -/
def Amount.value : Amount → Int
  | number value => value
  | switch on => if on then 1 else 0

/-- The value that an amount was read from. -/
def Amount.toSetting : Amount → Setting
  | number value => .number value
  | switch on => .switch on

/-- Which groups of change kinds are reported. -/
structure GroupSwitches where
  /-- When not empty, only these groups are reported. -/
  enabled : List Group := Group.all.filter (· != .jsxLogic)
  /-- These groups are never reported. -/
  disabled : List Group := [.jsxLogic]
deriving Repr, DecidableEq

/-- How markup is analyzed. -/
structure MarkupConfig where
  /-- Markup is analyzed at all. -/
  enabled : Setting := .switch true
  /-- Conditional rendering and event handlers are left out. -/
  ignoreLogicChanges : Setting := .switch true
  /-- Every change of markup counts as low. -/
  treatAsLowSeverity : Setting := .switch false
  /-- Handlers written in place count from this complexity on. -/
  handlerThreshold : Amount := .number 3

/-- What may be left out for speed. -/
structure PerformanceConfig where
  /-- Analyzers of disabled groups are not run. -/
  skipDisabledAnalyzers : Setting := .switch true
  /-- Kept for configuration files; nothing depends on it. -/
  enableEarlyExit : Setting := .switch true

/-- Which changes require tests. -/
structure TestRequirements where
  /-- Kinds that always do. -/
  always : List ChangeKind :=
    [.functionSignatureChanged, .exportRemoved, .hookDependencyChanged, .classStructureChanged]
  /-- Kinds that never do, unless they always do. -/
  never : List ChangeKind := [.jsxLogicAdded, .eventHandlerChanged]
  /-- The least severity that does for all other kinds; without it only high severity does. -/
  minimum : Option Severity := none
deriving Repr, DecidableEq

/-- Wildcard patterns as a configuration file lists them. They may be of any type: only when it is its
turn to be matched does a pattern have to be a text. -/
abbrev Patterns := List Setting

/-- A pattern that is no text was to be matched. -/
structure PatternFault where
  /-- The pattern. -/
  pattern : Setting
deriving BEq, Repr

/-- What is wrong with a pattern, in words. Lists and tables cannot be looked up among the patterns
that were matched before; other values get as far as their missing length. -/
def PatternFault.message (fault : PatternFault) : String :=
  match fault.pattern with
  | .list _ | .table _ => "unhashable type: '" ++ fault.pattern.typeName ++ "'"
  | _ => "object of type '" ++ fault.pattern.typeName ++ "' has no len()"

/-- The patterns with these texts. -/
def Patterns.ofTexts (texts : List String) : Patterns :=
  texts.map .text

/-- Whether one of the patterns matches. They are tried in turn up to the first one that does; one
that is no text and whose turn comes is a fault. -/
def Patterns.matches (patterns : Patterns) (path : String) : Except PatternFault Bool :=
  match patterns with
  | [] => .ok false
  | .text pattern :: rest =>
    if Text.globMatch path pattern then .ok true else Patterns.matches rest path
  | pattern :: _ => .error ⟨pattern⟩

/-- The validated configuration of a run. -/
structure Config where
  /-- Patterns of files to analyze. -/
  includes : Patterns := .ofTexts ["**/*.ts", "**/*.tsx", "**/*.js", "**/*.jsx"]
  /-- Patterns of files to leave out. -/
  excludes : Patterns := .ofTexts
    ["node_modules/**", "**/*.test.*", "**/*.spec.*", "**/*.d.ts", "dist/**", "build/**"]
  /-- Patterns of callees with side effects. -/
  sideEffectCallees : Patterns := .ofTexts
    ["console.*", "fetch", "*.api.*", "*.service.*", "track*", "log*", "analytics.*", "gtag",
     "dataLayer.*"]
  /-- Patterns of modules whose import has side effects. -/
  sideEffectModules : Patterns := []
  /-- Patterns of test files. -/
  testGlobs : Patterns := .ofTexts ["**/*.test.*", "**/*.spec.*"]
  /-- Labels that waive the test gate. -/
  bypassLabels : Patterns := .ofTexts ["skip-tests", "docs-only", "trivial"]
  /-- The time limit for one file. -/
  timeoutMs : Amount := .number 120000
  /-- The number of workers; the machine decides without it. -/
  workers : Option Amount := none
  /-- The memory limit of a worker. -/
  maxMemoryMb : Amount := .number 512
  /-- Whether the memory limit is applied. -/
  enforceMemoryLimit : Setting := .switch false
  /-- Which groups of change kinds are reported. -/
  groups : GroupSwitches := {}
  /-- Severities that replace those of the analyzers. -/
  severityOverrides : List (ChangeKind × Severity) := []
  /-- Kinds that are never reported. -/
  disabledKinds : List ChangeKind := []
  /-- How markup is analyzed. -/
  markup : MarkupConfig := {}
  /-- What may be left out for speed. -/
  performance : PerformanceConfig := {}
  /-- Which changes require tests. -/
  tests : TestRequirements := {}

/-! ### What can be wrong -/

/-- Why a value is refused. -/
inductive Refusal where
  | expectedList
  | expectedTable
  | below (least : Int)
  | unknownGroups
  | unknownKind (value : Setting)
  | unknownSeverity (value : Setting)
  | notInteger (text : String)
  | notSwitch (text : String)

/-- What is wrong with a name that is no change kind. -/
def unknownKindMessage (value : Setting) : String :=
  "unknown change kind '" ++ value.display ++ "'"

/-- What is wrong with a name that is no severity. -/
def unknownSeverityMessage (value : Setting) : String :=
  "unknown severity '" ++ value.display ++ "' (expected low/medium/high)"

/-- A refusal in words. -/
def Refusal.message : Refusal → String
  | expectedList => "expected a list"
  | expectedTable => "expected a table"
  | below least => s!"must be at least {least}"
  | unknownGroups => "unknown group(s); known: " ++ Text.join ", " (Group.all.map Group.name)
  | unknownKind value => unknownKindMessage value
  | unknownSeverity value => unknownSeverityMessage value
  | notInteger text =>
    "invalid literal for int() with base 10: " ++ Text.takeFirst 200 (Text.quoted text)
  | notSwitch text => "expected true/false, got '" ++ text ++ "'"

/-- The tables inside a configuration. -/
inductive Section where
  | groups
  | markup
  | performance
  | tests
deriving Repr, DecidableEq

/-- The key of a section. -/
def Section.key : Section → String
  | groups => "change_kind_groups"
  | markup => "jsx"
  | performance => "performance"
  | tests => "test_requirements"

/-- The word for a section, or for the whole configuration, in messages about unknown keys. -/
def Section.owner : Option Section → String
  | none => "AnalyzerConfig"
  | some groups => "ChangeKindGroups"
  | some markup => "JsxConfig"
  | some performance => "PerformanceConfig"
  | some tests => "TestRequirements"

/-- Why the shape of a section, or of the whole configuration, is wrong. -/
inductive Misfit where
  /-- It has a key that nobody knows. -/
  | unknownKey (key : String)
  /-- It has the key that it goes under itself. -/
  | takenKey (key : String)
  /-- An amount is no number. -/
  | notComparable (typeName : String)
  /-- The severity overrides cannot be taken as a sequence of pairs. -/
  | notIterable (typeName : String)
  /-- One of the pairs is no sequence. -/
  | pairNoSequence (index : Nat)
  /-- The first part of a pair cannot be a key. -/
  | pairKey (typeName : String)

/-- A misfit in words. -/
def Misfit.message (place : Option Section) : Misfit → String
  | unknownKey key =>
    Section.owner place ++ ".__init__() got an unexpected keyword argument '" ++ key ++ "'"
  | takenKey key =>
    Section.owner place ++ ".__init__() got multiple values for argument '" ++ key ++ "'"
  | notComparable typeName =>
    "'<' not supported between instances of '" ++ typeName ++ "' and 'int'"
  | notIterable typeName => "'" ++ typeName ++ "' object is not iterable"
  | pairNoSequence index =>
    s!"cannot convert dictionary update sequence element #{index} to a sequence"
  | pairKey typeName => "unhashable type: '" ++ typeName ++ "'"

/-- The places that configuration files are read from. -/
inductive Layer where
  | global
  | project
  | explicit
deriving Repr, DecidableEq

/-- What is wrong with a configuration. -/
inductive ConfigError where
  /-- A value is refused. -/
  | refused (key : String) (value : Setting) (why : Refusal)
  /-- The shape is wrong. -/
  | misfit (place : Option Section) (why : Misfit)
  /-- One of the severity overrides is a sequence of the wrong length. -/
  | pairLength (index length : Nat)
  /-- A configuration file is missing or cannot be read. -/
  | file (layer : Layer) (missing : Bool)

namespace ConfigError

/-- The kind of error that a fault is reported as. A pair of the wrong length is none of them. -/
def kind? : ConfigError → Option DiagnosticKind
  | refused .. => some .invalidConfig
  | misfit .. => some .configuration
  | pairLength .. => none
  | file .. => some .configFile

/-- Whether a fault is reported as an error of the configuration. -/
def isConfiguration (fault : ConfigError) : Bool :=
  fault.kind?.any (·.lineage.contains .configuration)

/-- What is wrong, in words. -/
def message : ConfigError → String
  | refused key value why => (Diagnostic.invalidConfig key value why.message).render
  | misfit none why => "Invalid configuration: " ++ why.message none
  | misfit (some place) why =>
    "Invalid [" ++ place.key ++ "] config: " ++ why.message (some place)
  | pairLength index length =>
    s!"dictionary update sequence element #{index} has length {length}; 2 is required"
  | file _ missing => if missing then "file not found" else "invalid file"

end ConfigError

namespace Config

/-! ### Reading values -/

/-- The kind that a value names. -/
def kindOf? (value : Setting) : Option ChangeKind :=
  value.text?.bind ChangeKind.ofName?

/-- The severity that a value names. -/
def severityOf? (value : Setting) : Option Severity :=
  Severity.ofName? value.display

/-- The group that a value names. -/
def groupOf? (value : Setting) : Option Group :=
  value.text?.bind Group.ofName?

/-- The items of a list. -/
def readList (key : String) : Setting → Except ConfigError (List Setting)
  | .list items => .ok items
  | value => .error (.refused key value .expectedList)

/-- The kinds that a list names. The first name that is none is at fault. -/
def readKinds (key : String) (value : Setting) : Except ConfigError (List ChangeKind) := do
  let items ← readList key value
  match items.find? fun item => (kindOf? item).isNone with
  | some item => .error (.refused key value (.unknownKind item))
  | none => .ok (items.filterMap kindOf?)

/-- The groups that a list names. All names that are none are at fault. -/
def readGroups (key : String) (value : Setting) : Except ConfigError (List Group) := do
  let items ← readList key value
  match items.filter fun item => (groupOf? item).isNone with
  | [] => .ok (items.filterMap groupOf?)
  | unknown => .error (.refused key (.list unknown) .unknownGroups)

/-- An amount that is at least `least`. -/
def readAmount (place : Option Section) (key : String) (least : Int) (value : Setting) :
    Except ConfigError Amount :=
  match value with
  | .number n => if n < least then .error (.refused key value (.below least)) else .ok (.number n)
  | .switch on =>
    if (Amount.switch on).value < least then .error (.refused key value (.below least))
    else .ok (.switch on)
  | value => .error (.misfit place (.notComparable value.typeName))

/-- The entries of a table, or its default when it is not there. -/
def valueOr {α : Type} (entries : Entries) (key : String) (default : α)
    (read : Setting → Except ConfigError α) : Except ConfigError α :=
  match Setting.lookup? key entries with
  | some value => read value
  | none => .ok default

/-- The key that a table goes under itself while it is read. -/
def ownKey : String := "self"

/-- Refuses entries with a key that is not known; the first one is at fault. -/
def checkKeys (place : Option Section) (known : List String) (entries : Entries) :
    Except ConfigError Unit :=
  match entries.find? fun (key, _) => !known.contains key with
  | some (key, _) =>
    .error (.misfit place (if key = ownKey then .takenKey key else .unknownKey key))
  | none => .ok ()

/-! ### Severity overrides -/

/-- The items that a value counts as a sequence of, if it is a sequence. -/
def sequence? : Setting → Option (List Setting)
  | .list items => some items
  | .text value => some (value.toList.map fun c => .text (String.ofList [c]))
  | .table entries => some (entries.map fun (key, _) => .text key)
  | _ => none

/-- The key and the value of a pair. -/
def readPair (index : Nat) (item : Setting) : Except ConfigError (Setting × Setting) :=
  match sequence? item with
  | none => .error (.misfit none (.pairNoSequence index))
  -- Lists and tables cannot be keys.
  | some [.list items, _] => .error (.misfit none (.pairKey (Setting.list items).typeName))
  | some [.table entries, _] => .error (.misfit none (.pairKey (Setting.table entries).typeName))
  | some [key, value] => .ok (key, value)
  | some items => .error (.pairLength index items.length)

/-- What a key is compared by: a switch is the same key as the number it counts as. -/
def comparedKey : Setting → Setting
  | .switch on => .number (Amount.switch on).value
  | key => key

/-- Puts a pair in its place: the last pair for a key counts. -/
def putPair (key value : Setting) : List (Setting × Setting) → List (Setting × Setting)
  | [] => [(key, value)]
  | (name, old) :: rest =>
    if comparedKey name == comparedKey key then (name, value) :: rest
    else (name, old) :: putPair key value rest

/-- The pairs of a table, or of a sequence of pairs. -/
def readPairs : Setting → Except ConfigError (List (Setting × Setting))
  | .table entries => .ok (entries.map fun (key, value) => (.text key, value))
  | value =>
    match sequence? value with
    | none => .error (.misfit none (.notIterable value.typeName))
    | some items => do
      let pairs ← items.zipIdx.mapM fun (item, index) => readPair index item
      .ok (pairs.foldl (fun all (key, value) => putPair key value all) [])

/-- The kind and the severity of an override. When neither is known, the severity is at fault. -/
def readOverride (key value : Setting) : Except ConfigError (ChangeKind × Severity) :=
  let place := "severity_overrides." ++ key.display
  match severityOf? value, kindOf? key with
  | none, _ => .error (.refused place value (.unknownSeverity value))
  | _, none => .error (.refused place value (.unknownKind key))
  | some severity, some kind => .ok (kind, severity)

/-- The severity overrides. -/
def readOverrides (value : Setting) : Except ConfigError (List (ChangeKind × Severity)) := do
  let pairs ← readPairs value
  pairs.mapM fun (key, value) => readOverride key value

/-! ### Sections -/

/-- The section for the groups. -/
def readGroupSwitches (entries : Entries) : Except ConfigError GroupSwitches := do
  checkKeys (some .groups) ["enabled", "disabled"] entries
  let base : GroupSwitches := {}
  let enabled ← valueOr entries "enabled" base.enabled (readGroups "change_kind_groups.enabled")
  let disabled ← valueOr entries "disabled" base.disabled (readGroups "change_kind_groups.disabled")
  .ok ⟨enabled, disabled⟩

/-- The section for markup. -/
def readMarkup (entries : Entries) : Except ConfigError MarkupConfig := do
  checkKeys (some .markup)
    ["enabled", "ignore_logic_changes", "treat_as_low_severity",
     "event_handler_complexity_threshold"] entries
  let base : MarkupConfig := {}
  let enabled ← valueOr entries "enabled" base.enabled .ok
  let ignoreLogicChanges ← valueOr entries "ignore_logic_changes" base.ignoreLogicChanges .ok
  let treatAsLowSeverity ← valueOr entries "treat_as_low_severity" base.treatAsLowSeverity .ok
  let handlerThreshold ←
    valueOr entries "event_handler_complexity_threshold" base.handlerThreshold
      (readAmount (some .markup) "jsx.event_handler_complexity_threshold" 1)
  .ok ⟨enabled, ignoreLogicChanges, treatAsLowSeverity, handlerThreshold⟩

/-- The section for speed. -/
def readPerformance (entries : Entries) : Except ConfigError PerformanceConfig := do
  checkKeys (some .performance) ["skip_disabled_analyzers", "enable_early_exit"] entries
  let base : PerformanceConfig := {}
  let skip ← valueOr entries "skip_disabled_analyzers" base.skipDisabledAnalyzers .ok
  let early ← valueOr entries "enable_early_exit" base.enableEarlyExit .ok
  .ok ⟨skip, early⟩

/-- The least severity that requires tests. -/
def readMinimum : Setting → Except ConfigError (Option Severity)
  | .null => .ok none
  | value =>
    match severityOf? value with
    | some severity => .ok (some severity)
    | none =>
      .error (.refused "test_requirements.minimum_severity_for_tests" value
        (.unknownSeverity value))

/-- The section for tests. -/
def readTests (entries : Entries) : Except ConfigError TestRequirements := do
  checkKeys (some .tests)
    ["always_require_tests", "never_require_tests", "minimum_severity_for_tests"] entries
  let base : TestRequirements := {}
  let always ← valueOr entries "always_require_tests" base.always
    (readKinds "test_requirements.always_require_tests")
  let never ← valueOr entries "never_require_tests" base.never
    (readKinds "test_requirements.never_require_tests")
  let minimum ← valueOr entries "minimum_severity_for_tests" base.minimum readMinimum
  .ok ⟨always, never, minimum⟩

/-- Reads a section; one without a value keeps its defaults. -/
def readSection {α : Type} (place : Section) (default : α)
    (read : Entries → Except ConfigError α) (entries : Entries) : Except ConfigError α :=
  match Setting.lookup? place.key entries with
  | none | some .null => .ok default
  | some (.table inner) => read inner
  | some value => .error (.refused place.key value .expectedTable)

/-! ### The whole configuration -/

/-- The keys of a configuration. -/
def knownKeys : List String :=
  ["include", "exclude", "side_effect_callees", "side_effect_modules", "test_globs",
   "bypass_labels", "timeout_ms", "workers", "max_memory_mb", "enforce_memory_limit",
   "change_kind_groups", "severity_overrides", "disabled_change_kinds", "jsx", "performance",
   "test_requirements"]

/-- The number of workers, which may be left to the machine. -/
def readWorkers : Setting → Except ConfigError (Option Amount)
  | .null => .ok none
  | value => (readAmount none "workers" 1 value).map some

/-- The configuration that entries describe. Sections come first, then unknown keys, then the values
in a fixed order: the first fault in this order is reported. -/
def build (entries : Entries) : Except ConfigError Config := do
  let base : Config := {}
  let groups ← readSection .groups base.groups readGroupSwitches entries
  let markup ← readSection .markup base.markup readMarkup entries
  let performance ← readSection .performance base.performance readPerformance entries
  let tests ← readSection .tests base.tests readTests entries
  -- Only now unknown keys, and after them the values.
  checkKeys none knownKeys entries
  let patterns (key : String) (default : Patterns) := valueOr entries key default (readList key)
  let includes ← patterns "include" base.includes
  let excludes ← patterns "exclude" base.excludes
  let sideEffectCallees ← patterns "side_effect_callees" base.sideEffectCallees
  let sideEffectModules ← patterns "side_effect_modules" base.sideEffectModules
  let testGlobs ← patterns "test_globs" base.testGlobs
  let bypassLabels ← patterns "bypass_labels" base.bypassLabels
  let disabledKinds ← valueOr entries "disabled_change_kinds" base.disabledKinds
    (readKinds "disabled_change_kinds")
  let severityOverrides ← valueOr entries "severity_overrides" base.severityOverrides readOverrides
  let timeoutMs ← valueOr entries "timeout_ms" base.timeoutMs (readAmount none "timeout_ms" 1)
  let workers ← valueOr entries "workers" base.workers readWorkers
  let maxMemoryMb ← valueOr entries "max_memory_mb" base.maxMemoryMb
    (readAmount none "max_memory_mb" 16)
  let enforceMemoryLimit ← valueOr entries "enforce_memory_limit" base.enforceMemoryLimit .ok
  .ok
    { includes, excludes, sideEffectCallees, sideEffectModules, testGlobs, bypassLabels, timeoutMs,
      workers, maxMemoryMb, enforceMemoryLimit, groups, severityOverrides, disabledKinds, markup,
      performance, tests }

end Config

end ChangeLens
