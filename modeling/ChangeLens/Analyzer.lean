import ChangeLens.Model
import ChangeLens.Policy
import ChangeLens.Text.Similarity

/-!
# `ChangeLens.Analyzer`: comparing two versions of a file

An analyzer compares the models of the base and the head version and reports the differences of its
area. It names the group of change kinds it reports into; an analyzer without a group runs whatever
groups are disabled. How alike two texts are is no business of the analyzers: the measure is part of
the `Target`.
-/

set_option autoImplicit false

namespace ChangeLens

/-- The file under comparison, with what holds for it. -/
structure Target where
  /-- The path of the file. -/
  path : String
  /-- The configuration. -/
  config : Config
  /-- How alike two texts are. -/
  similarity : String → String → Text.Similarity

/-- A comparison reports the differences between the base and the head version. -/
abbrev Comparison := Target → Model → Model → List Record

/-- A comparison that breaks down, and then reports nothing, on a pattern that is no text. -/
abbrev PartialComparison := Target → Model → Model → Except PatternFault (List Record)

/-- An analyzer. -/
structure Analyzer where
  /-- Its name. -/
  name : String
  /-- The group it reports into. -/
  group : Option Group
  /-- The differences between two versions; `none` when the comparison breaks down. -/
  compare : Target → Model → Model → Option (List Record)

/-- The analyzer of a comparison. -/
def Analyzer.of (name : String) (group : Option Group) (comparison : Comparison) : Analyzer :=
  ⟨name, group, fun target base head => some (comparison target base head)⟩

/-- The analyzer of a comparison that can break down. -/
def Analyzer.ofPartial (name : String) (group : Option Group) (comparison : PartialComparison) :
    Analyzer :=
  ⟨name, group, fun target base head => (comparison target base head).toOption⟩

namespace Target

/-- A record about a place in the file. -/
def report (target : Target) (kind : ChangeKind) (severity : Severity) (span : Span)
    (label detail : String) (context : Option String := none) : Record :=
  ⟨kind, severity, target.path, span, detail, label, context⟩

/-- A record about the file as a whole. -/
def reportFile (target : Target) (kind : ChangeKind) (severity : Severity) (detail : String)
    (context : Option String := none) : Record :=
  target.report kind severity .fileStart Record.fileLevelLabel detail context

end Target

/-- The last item with a key. -/
def lastWith? {α κ : Type} [BEq κ] (key : α → κ) (k : κ) (items : List α) : Option α :=
  (items.filter fun item => key item == k).getLast?

/-- The last item of each key, in the order in which the keys first occur. -/
def lastOfEach {α κ : Type} [BEq κ] (key : α → κ) (items : List α) : List α :=
  (items.map key).eraseDups.filterMap fun k => lastWith? key k items

/-- The first item of each key, in order. -/
def firstOfEach {α κ : Type} [BEq κ] (key : α → κ) (items : List α) : List α :=
  (items.map key).eraseDups.filterMap fun k => items.find? fun item => key item == k

/-- The texts of `a` that are not in `b`, each once, in ascending order. -/
def sortedWithout (a b : List String) : List String :=
  Text.sorted ((a.filter (!b.contains ·)).eraseDups)

/-- A before and an after. -/
def arrow (before after : String) : String :=
  before ++ " -> " ++ after

end ChangeLens
