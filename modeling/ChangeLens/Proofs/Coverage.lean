import ChangeLens.Proofs.Pairing
import ChangeLens.Proofs.PatternFaults

/-!
# `ChangeLens.Proofs.Coverage`: what each analyzer can report, and where

A `Coverage` names the sites an analyzer looks at, the change kinds it reports about sites of the
head version and those it reports about sites of the base version. `coverages` gives every analyzer
its coverage, in the order of the registry, and `coverages_sound` proves that none of them goes beyond
it: each record of an analyzer has one of its kinds and stands at one of its sites, or is about the
whole file.

Everything else about kinds and places is read off this table. The comparisons are opened here, one
lemma each, and nowhere later for that purpose.
-/

set_option autoImplicit false

namespace ChangeLens

/-- Where the sites of a model stand, list by list. -/
def Model.siteSpans (model : Model) : List (List Span) :=
  [model.functions.map FunctionSite.span, model.types.map TypeSite.span,
   model.calls.map CallSite.span, model.imports.map ImportSite.span,
   model.exports.map ExportSite.span, model.classes.map ClassSite.span,
   model.interfaces.map InterfaceSite.span, model.declared.map VariableSite.span,
   model.hooks.map HookSite.span, model.elements.map ElementSite.span,
   model.handlers.map HandlerSite.span, model.renders.map RenderSite.span,
   model.arrayMutations.map ArrayMutationSite.span,
   model.objectMutations.map ObjectMutationSite.span, model.returns.map ReturnSite.span,
   model.ternaries.map TernarySite.span, model.conditionals.map ConditionalSite.span,
   model.loops.map LoopSite.span, model.tries.map TrySite.span, model.throws.map ThrowSite.span,
   model.operators.map OperatorSite.span, model.spreads.map SpreadSite.span,
   model.destructurings.map DestructuringSite.span, model.assignments.map AssignmentSite.span]

/-- Where some site of a model stands. -/
def Model.spans (model : Model) : List Span :=
  model.siteSpans.flatten

/-- The lists of spans of a model hold the spans of its sites. -/
theorem Model.mem_spans {model : Model} {list : List Span} {span : Span}
    (hlist : list ∈ model.siteSpans) (h : span ∈ list) : span ∈ model.spans :=
  List.mem_flatten.2 ⟨list, hlist, h⟩

/-- What an analyzer can report. -/
structure Coverage where
  /-- Where the sites it looks at stand. -/
  places : Model → List Span
  /-- The kinds it reports about the head version. -/
  current : List ChangeKind
  /-- The kinds it reports about the base version. -/
  former : List ChangeKind := []
  /-- It looks at sites of the model. -/
  places_subset : ∀ model, ∀ span ∈ places model, span ∈ model.spans := by
    exact fun model span h => Model.mem_spans (by simp [Model.siteSpans]) h

namespace Coverage

/-- A record keeps to a coverage. -/
inductive Allows (coverage : Coverage) (base head : Model) (record : Record) : Prop where
  /-- It is about a site of the head version. -/
  | head (kind : record.kind ∈ coverage.current) (span : record.span ∈ coverage.places head)
  /-- It is about the whole file. -/
  | file (kind : record.kind ∈ coverage.current) (label : record.isFileLevel = true)
  /-- It is about a site of the base version. -/
  | base (kind : record.kind ∈ coverage.former) (span : record.span ∈ coverage.places base)

/-- All kinds of a coverage. -/
def kinds (coverage : Coverage) : List ChangeKind :=
  coverage.current ++ coverage.former

/-- Two coverages together. -/
def union (first second : Coverage) : Coverage where
  places model := first.places model ++ second.places model
  current := first.current ++ second.current
  former := first.former ++ second.former
  places_subset model span h :=
    (List.mem_append.1 h).elim (first.places_subset model span) (second.places_subset model span)

variable {coverage first second : Coverage} {base head : Model} {record : Record}

/-- An allowed record has one of the kinds. -/
theorem Allows.kind_mem (h : coverage.Allows base head record) : record.kind ∈ coverage.kinds := by
  rw [kinds, List.mem_append]
  cases h with
  | head kind _ => exact Or.inl kind
  | file kind _ => exact Or.inl kind
  | base kind _ => exact Or.inr kind

/-- What one coverage allows, its union with another one allows too. -/
theorem Allows.union_left (h : first.Allows base head record) :
    (first.union second).Allows base head record := by
  cases h with
  | head kind span => exact .head (List.mem_append_left _ kind) (List.mem_append_left _ span)
  | file kind label => exact .file (List.mem_append_left _ kind) label
  | base kind span => exact .base (List.mem_append_left _ kind) (List.mem_append_left _ span)

/-- The same for the second of the two. -/
theorem Allows.union_right (h : second.Allows base head record) :
    (first.union second).Allows base head record := by
  cases h with
  | head kind span => exact .head (List.mem_append_right _ kind) (List.mem_append_right _ span)
  | file kind label => exact .file (List.mem_append_right _ kind) label
  | base kind span => exact .base (List.mem_append_right _ kind) (List.mem_append_right _ span)

/-- A record about a site of the head version. -/
theorem Allows.reportHead {target : Target} {kind : ChangeKind} {severity : Severity} {span : Span}
    {label detail : String} {context : Option String} (hkind : kind ∈ coverage.current)
    (hspan : span ∈ coverage.places head) :
    coverage.Allows base head (target.report kind severity span label detail context) :=
  .head hkind hspan

/-- A record about a site of the base version. -/
theorem Allows.reportBase {target : Target} {kind : ChangeKind} {severity : Severity} {span : Span}
    {label detail : String} {context : Option String} (hkind : kind ∈ coverage.former)
    (hspan : span ∈ coverage.places base) :
    coverage.Allows base head (target.report kind severity span label detail context) :=
  .base hkind hspan

end Coverage

/-- A comparison keeps to a coverage: all its records do. -/
def Comparison.Keeps (comparison : Comparison) (coverage : Coverage) : Prop :=
  ∀ target base head, ∀ record ∈ comparison target base head, coverage.Allows base head record

/-- A comparison that can break down keeps to a coverage: all its records do when there are any. -/
def PartialComparison.Keeps (comparison : PartialComparison) (coverage : Coverage) : Prop :=
  ∀ target base head records, comparison target base head = .ok records →
    ∀ record ∈ records, coverage.Allows base head record

/-- An analyzer keeps to a coverage: unless it breaks down, all its records keep to it. -/
def Analyzer.Keeps (analyzer : Analyzer) (coverage : Coverage) : Prop :=
  ∀ target base head records, analyzer.compare target base head = some records →
    ∀ record ∈ records, coverage.Allows base head record

/-- An analyzer keeps to what its comparison keeps to. -/
theorem Analyzer.of_keeps {name : String} {group : Option Group} {comparison : Comparison}
    {coverage : Coverage} (h : comparison.Keeps coverage) :
    (Analyzer.of name group comparison).Keeps coverage := by
  intro target base head records hrecords
  cases hrecords
  exact h target base head

/-- So does an analyzer that can break down. -/
theorem Analyzer.ofPartial_keeps {name : String} {group : Option Group}
    {comparison : PartialComparison} {coverage : Coverage} (h : comparison.Keeps coverage) :
    (Analyzer.ofPartial name group comparison).Keeps coverage := by
  intro target base head records hrecords
  refine h target base head records ?_
  change (comparison target base head).toOption = some records at hrecords
  cases hresult : comparison target base head with
  | error fault =>
    rw [hresult] at hrecords
    cases hrecords
  | ok found =>
    rw [hresult] at hrecords
    cases hrecords
    rfl

namespace Analyzer

open ChangeLens.Pairing

/-- The only record of a list that holds at most one. -/
theorem eq_of_mem_unless {c : Prop} [Decidable c] {record only : Record}
    (h : record ∈ if c then [] else [only]) : record = only := by
  split at h
  · cases h
  · exact List.mem_singleton.1 h

/-- The only record of a list that holds at most one. -/
theorem eq_of_mem_when {c : Prop} [Decidable c] {record only : Record}
    (h : record ∈ if c then [only] else []) : record = only := by
  split at h
  · exact List.mem_singleton.1 h
  · cases h

/-! ### Conditions, loops and operators -/

/-- If statements. -/
def conditionalCoverage : Coverage where
  places model := model.conditionals.map ConditionalSite.span
  current := [.conditionalModified, .conditionalAdded]
  former := [.conditionalRemoved]

/-- Conditionals are reported at sites of the version that has them. -/
theorem compareConditionals_keeps : Comparison.Keeps compareConditionals conditionalCoverage := by
  intro target base head record hmem
  -- The second pass pairs leftovers of the first one, so what it yields is within both versions.
  have hpaired := (pairBy_within (fun site : ConditionalSite => (site.fingerprint, site.condition))
    base.conditionals head.conditionals).trans (pairBy_within ConditionalSite.fingerprint _ _)
  simp only [compareConditionals, List.mem_append, List.mem_map, Prod.exists] at hmem
  rcases hmem with (⟨before, after, hpair, rfl⟩ | ⟨site, hsite, rfl⟩) | ⟨site, hsite, rfl⟩
  · exact .reportHead (by decide) (List.mem_map_of_mem (hpaired.pairs before after hpair).2)
  · exact .reportHead (by decide) (List.mem_map_of_mem (hpaired.head site hsite))
  · exact .reportBase (by decide) (List.mem_map_of_mem (hpaired.base site hsite))

/-- Loops. -/
def loopCoverage : Coverage where
  places model := model.loops.map LoopSite.span
  current := [.loopAdded, .loopModified]
  former := [.loopRemoved]

/-- Loops likewise. -/
theorem compareLoops_keeps : Comparison.Keeps compareLoops loopCoverage := by
  intro target base head record hmem
  have hpaired := pairLocated_within LoopSite.text (fun site => site.span.position) base.loops
    head.loops
  simp only [compareLoops, List.mem_append, List.mem_map, Prod.exists] at hmem
  rcases hmem with (⟨site, hsite, rfl⟩ | ⟨before, after, hpair, rfl⟩) | ⟨site, hsite, rfl⟩
  · exact .reportHead (by decide) (List.mem_map_of_mem (hpaired.head site hsite))
  · exact .reportHead (by decide) (List.mem_map_of_mem (hpaired.pairs before after hpair).2)
  · exact .reportBase (by decide) (List.mem_map_of_mem (hpaired.base site hsite))

/-- Conditional expressions. -/
def ternaryCoverage : Coverage where
  places model := model.ternaries.map TernarySite.span
  current := [.ternaryAdded]
  former := [.ternaryRemoved]

/-- Conditional expressions likewise. -/
theorem compareTernaries_keeps : Comparison.Keeps compareTernaries ternaryCoverage := by
  intro target base head record hmem
  have hpaired := pairLocated_within
    (fun site : TernarySite => (site.condition, site.whenTrue, site.whenFalse))
    (fun site => site.span.position) base.ternaries head.ternaries
  simp only [compareTernaries, List.mem_append, List.mem_map] at hmem
  rcases hmem with ⟨site, hsite, rfl⟩ | ⟨site, hsite, rfl⟩
  · exact .reportHead (by decide) (List.mem_map_of_mem (hpaired.head site hsite))
  · exact .reportBase (by decide) (List.mem_map_of_mem (hpaired.base site hsite))

/-- Operators of one class, reported as one kind. -/
def operatorCoverage (kind : ChangeKind) : Coverage where
  places model := model.operators.map OperatorSite.span
  current := [kind]

/-- Operators of either class likewise. -/
theorem compareOperators_keeps (category : OperatorClass) (kind : ChangeKind) (noun : String) :
    Comparison.Keeps (compareOperators category kind noun) (operatorCoverage kind) := by
  intro target base head record hmem
  simp only [compareOperators, List.mem_map, List.mem_filter, Prod.exists] at hmem
  obtain ⟨before, after, ⟨hpair, -⟩, rfl⟩ := hmem
  have hafter := ((pairLocated_within _ _ _ _).pairs before after hpair).2
  exact .reportHead (List.mem_singleton_self kind)
    (List.mem_map_of_mem (List.mem_filter.1 hafter).1)

/-- The file as a whole. -/
def complexityCoverage : Coverage where
  places _ := []
  current := [.functionComplexityChanged]
  places_subset := nofun

/-- The complexity of a file is reported about the file as a whole. -/
theorem compareComplexity_keeps : Comparison.Keeps compareComplexity complexityCoverage := by
  intro target base head record hmem
  obtain rfl := eq_of_mem_unless hmem
  exact .file (List.mem_singleton_self _) rfl

/-! ### Promises, throw and try statements -/

/-- Return statements. -/
def promiseCoverage : Coverage where
  places model := model.returns.map ReturnSite.span
  current := [.promiseAdded]
  former := [.promiseRemoved]

/-- Promises are reported where they are returned, in the version that does so. -/
theorem comparePromises_keeps : Comparison.Keeps comparePromises promiseCoverage := by
  intro target base head record hmem
  have hpaired := pairLocated_within (fun site : ReturnSite => (site.text, site.returnsPromise))
    (fun site => site.span.position) base.returns head.returns
  simp only [comparePromises, List.mem_append, List.mem_map, List.mem_filter, Prod.exists] at hmem
  -- A return that promises now, in a pair or on its own, stands in head; one that did stands in
  -- base.
  rcases hmem with ⟨site, hsite, rfl⟩ | ⟨site, hsite, rfl⟩
  · refine .reportHead (by decide) (List.mem_map_of_mem ?_)
    rcases hsite with ⟨before, after, ⟨hpair, -⟩, rfl⟩ | ⟨hsite, -⟩
    · exact (hpaired.pairs before after hpair).2
    · exact hpaired.head site hsite
  · refine .reportBase (by decide) (List.mem_map_of_mem ?_)
    rcases hsite with ⟨before, after, ⟨hpair, -⟩, rfl⟩ | ⟨hsite, -⟩
    · exact (hpaired.pairs before after hpair).1
    · exact hpaired.base site hsite

/-- Throw statements. -/
def throwCoverage : Coverage where
  places model := model.throws.map ThrowSite.span
  current := [.throwAdded]
  former := [.throwRemoved]

/-- Throw statements are reported in the version that has them. -/
theorem compareThrows_keeps : Comparison.Keeps compareThrows throwCoverage := by
  intro target base head record hmem
  have hpaired := pairLocated_within ThrowSite.text (fun site => site.span.position) base.throws
    head.throws
  simp only [compareThrows, List.mem_append, List.mem_map] at hmem
  rcases hmem with ⟨site, hsite, rfl⟩ | ⟨site, hsite, rfl⟩
  · exact .reportHead (by decide) (List.mem_map_of_mem (hpaired.head site hsite))
  · exact .reportBase (by decide) (List.mem_map_of_mem (hpaired.base site hsite))

/-- Try statements. -/
def tryCoverage : Coverage where
  places model := model.tries.map TrySite.span
  current := [.tryCatchAdded, .tryCatchModified]

/-- Try statements are reported in the head version. -/
theorem compareTries_keeps : Comparison.Keeps compareTries tryCoverage := by
  intro target base head record hmem
  have hpaired := pairLocated_within
    (fun site : TrySite => (site.tryText, site.catchText, site.finallyText))
    (fun site => site.span.position) base.tries head.tries
  simp only [compareTries, List.mem_append, List.mem_map, Prod.exists] at hmem
  rcases hmem with ⟨site, hsite, rfl⟩ | ⟨before, after, hpair, rfl⟩
  · exact .reportHead (by decide) (List.mem_map_of_mem (hpaired.head site hsite))
  · exact .reportHead (by decide) (List.mem_map_of_mem (hpaired.pairs before after hpair).2)

/-! ### Mutations, destructuring, assignments and spreads -/

/-- What is beyond the base version is in the head version. -/
theorem mem_beyond {α κ : Type} [DecidableEq κ] {key : α → κ} {base head : List α} {a : α}
    (h : a ∈ beyond key base head) : a ∈ head :=
  (pairBy_within key head base).base a h

/-- What is missing was in the base version. -/
theorem mem_missing {α κ : Type} [DecidableEq κ] {key : α → κ} {base head : List α} {a : α}
    (h : a ∈ missing key base head) : a ∈ base :=
  (pairBy_within key head base).head a (mem_grouped h)

/-- Calls that change an array in place. -/
def arrayMutationCoverage : Coverage where
  places model := model.arrayMutations.map ArrayMutationSite.span
  current := [.arrayMutation]

/-- New array mutations are reported in the head version. -/
theorem compareArrayMutations_keeps :
    Comparison.Keeps compareArrayMutations arrayMutationCoverage := by
  intro target base head record hmem
  obtain ⟨site, hsite, rfl⟩ := List.mem_map.1 hmem
  exact .reportHead (by decide) (List.mem_map_of_mem (mem_beyond hsite))

/-- Assignments to properties. -/
def objectMutationCoverage : Coverage where
  places model := model.objectMutations.map ObjectMutationSite.span
  current := [.objectMutation]

/-- New assignments to properties likewise. -/
theorem compareObjectMutations_keeps :
    Comparison.Keeps compareObjectMutations objectMutationCoverage := by
  intro target base head record hmem
  obtain ⟨site, hsite, rfl⟩ := List.mem_map.1 hmem
  exact .reportHead (by decide) (List.mem_map_of_mem (mem_beyond hsite))

/-- Declarations that take a value apart. -/
def destructuringCoverage : Coverage where
  places model := model.destructurings.map DestructuringSite.span
  current := [.destructuringAdded]
  former := [.destructuringRemoved]

/-- Destructuring declarations are reported in the version that has more of them. -/
theorem compareDestructurings_keeps :
    Comparison.Keeps compareDestructurings destructuringCoverage := by
  intro target base head record hmem
  simp only [compareDestructurings, List.mem_append, List.mem_map] at hmem
  rcases hmem with ⟨site, hsite, rfl⟩ | ⟨site, hsite, rfl⟩
  · exact .reportHead (by decide) (List.mem_map_of_mem (mem_beyond hsite))
  · exact .reportBase (by decide) (List.mem_map_of_mem (mem_missing hsite))

/-- Assignments to variables. -/
def assignmentCoverage : Coverage where
  places model := model.assignments.map AssignmentSite.span
  current := [.variableAssignmentChanged]

/-- Changed assignments are reported in the head version. -/
theorem compareAssignments_keeps : Comparison.Keeps compareAssignments assignmentCoverage := by
  intro target base head record hmem
  simp only [compareAssignments, List.mem_map, List.mem_filter, Prod.exists] at hmem
  obtain ⟨before, after, ⟨hpair, -⟩, rfl⟩ := hmem
  have hafter := ((pairLocated_within _ _ _ _).pairs before after hpair).2
  exact .reportHead (by decide) (List.mem_map_of_mem hafter)

/-- Spread elements. -/
def spreadCoverage : Coverage where
  places model := model.spreads.map SpreadSite.span
  current := [.spreadOperatorAdded]
  former := [.spreadOperatorRemoved]

/-- Spreads are reported in the version that has more of them. -/
theorem compareSpreads_keeps : Comparison.Keeps compareSpreads spreadCoverage := by
  intro target base head record hmem
  simp only [compareSpreads, List.mem_append, List.mem_map] at hmem
  rcases hmem with ⟨site, hsite, rfl⟩ | ⟨site, hsite, rfl⟩
  · exact .reportHead (by decide) (List.mem_map_of_mem (mem_beyond hsite))
  · exact .reportBase (by decide) (List.mem_map_of_mem (mem_missing hsite))

/-! ### Functions -/

/-- Functions. -/
def functionCoverage : Coverage where
  places model := model.functions.map FunctionSite.span
  current := [.functionSignatureChanged, .asyncAwaitAdded, .functionComplexityChanged,
    .functionAdded]
  former := [.asyncAwaitRemoved, .functionRemoved]

/-- Shape, destructured keys, type parameters and overloads are parts of the signature. -/
theorem mem_surfaceChanges {target : Target} {before after : FunctionSite} {record : Record}
    (h : record ∈ shapeChanges target before after ++ destructuredChanges target before after ++
      genericChanges target before after ++ overloadChanges target before after) :
    record.kind = .functionSignatureChanged ∧ record.span = after.span := by
  simp only [List.mem_append] at h
  -- Shape, destructured keys, generics and overloads, in the order of the comparison.
  rcases h with ((h | h) | h) | h
  · obtain rfl := eq_of_mem_unless h
    exact ⟨rfl, rfl⟩
  · simp only [destructuredChanges, List.mem_flatMap, Prod.exists] at h
    obtain ⟨old, new, position, -, h⟩ := h
    rw [keyChanges] at h
    split at h
    · simp only [List.mem_append, List.mem_map] at h
      rcases h with ⟨key, -, rfl⟩ | ⟨key, -, rfl⟩ <;> exact ⟨rfl, rfl⟩
    · cases h
  · obtain rfl := eq_of_mem_unless h
    exact ⟨rfl, rfl⟩
  · obtain rfl := eq_of_mem_unless h
    exact ⟨rfl, rfl⟩

/-- A change of complexity is reported where the function stands in the head version. -/
theorem mem_complexityChanges {target : Target} {before after : FunctionSite} {record : Record}
    (h : record ∈ complexityChanges target before after) :
    record.kind = .functionComplexityChanged ∧ record.span = after.span := by
  obtain rfl := eq_of_mem_unless h
  exact ⟨rfl, rfl⟩

/-- A pair of functions is reported at the head function, unless it stopped being async. -/
theorem functionChanges_keeps {target : Target} {base head : Model} {before after : FunctionSite}
    (hbefore : before ∈ base.functions) (hafter : after ∈ head.functions) :
    ∀ record ∈ functionChanges target before after, functionCoverage.Allows base head record := by
  intro record hmem
  have hhead : after.span ∈ functionCoverage.places head := List.mem_map_of_mem hafter
  rw [functionChanges, List.mem_append, List.mem_append] at hmem
  -- Only a function that is no longer asynchronous is reported where it was.
  rcases hmem with (hmem | hmem) | hmem
  · obtain ⟨hkind, hspan⟩ := mem_surfaceChanges hmem
    exact .head (by rw [hkind]; decide) (by rw [hspan]; exact hhead)
  · rw [asyncChanges] at hmem
    split at hmem
    · obtain rfl := List.mem_singleton.1 hmem
      exact .reportHead (by decide) hhead
    · obtain rfl := eq_of_mem_when hmem
      exact .reportBase (by decide) (List.mem_map_of_mem hbefore)
  · obtain ⟨hkind, hspan⟩ := mem_complexityChanges hmem
    exact .head (by rw [hkind]; decide) (by rw [hspan]; exact hhead)

/-- A likely rename is reported at the new function. -/
theorem functionRename?_keeps {target : Target} {base head : Model} {old new : FunctionSite}
    (hnew : new ∈ head.functions) :
    ∀ record ∈ functionRename? target old new, functionCoverage.Allows base head record := by
  intro record hmem
  rw [Option.mem_def, functionRename?] at hmem
  split at hmem
  · cases hmem
    exact .reportHead (by decide) (List.mem_map_of_mem hnew)
  · split at hmem
    · cases hmem
      exact .reportHead (by decide) (List.mem_map_of_mem hnew)
    · cases hmem

/-- Functions without a partner are reported on their own side, or together as a rename. -/
theorem mem_functionLeftovers {target : Target} {removed added : List FunctionSite}
    {record : Record} (h : record ∈ functionLeftovers target removed added) :
    (∃ old new, removed = [old] ∧ added = [new] ∧ record ∈ functionRename? target old new) ∨
      record ∈ removed.map (functionRemoved target) ∨
        record ∈ added.map (functionAdded target) := by
  simp only [functionLeftovers] at h
  split at h
  · rename_i old new
    cases hrename : functionRename? target old new with
    | none =>
      rw [hrename] at h
      exact Or.inr (List.mem_append.1 h)
    | some found =>
      rw [hrename] at h
      exact Or.inl ⟨old, new, rfl, rfl, by rw [List.mem_singleton.1 h, Option.mem_def, hrename]⟩
  · exact Or.inr (List.mem_append.1 h)

/-- Functions are reported in the head version, except for those that are gone. -/
theorem compareFunctions_keeps : Comparison.Keeps compareFunctions functionCoverage := by
  intro target base head record hmem
  have hpaired := pairBy_within FunctionSite.identity base.namedFunctions head.namedFunctions
  have hnamed {model : Model} {site : FunctionSite} (h : site ∈ model.namedFunctions) :
      site ∈ model.functions := (List.mem_filter.1 h).1
  rw [compareFunctions, List.mem_append] at hmem
  -- Pairs first, then what the pairing leaves over: one rename, or all that is gone and all that is
  -- new.
  rcases hmem with hmem | hmem
  · simp only [List.mem_flatMap, Prod.exists] at hmem
    obtain ⟨before, after, hpair, hmem⟩ := hmem
    obtain ⟨hbefore, hafter⟩ := hpaired.pairs before after hpair
    exact functionChanges_keeps (hnamed hbefore) (hnamed hafter) record hmem
  · rcases mem_functionLeftovers hmem with ⟨old, new, -, hadded, hmem⟩ | hmem | hmem
    · have hnew := hpaired.head new (by rw [hadded]; exact List.mem_singleton_self new)
      exact functionRename?_keeps (hnamed hnew) record hmem
    · obtain ⟨site, hsite, rfl⟩ := List.mem_map.1 hmem
      exact .reportBase (by decide) (List.mem_map_of_mem (hnamed (hpaired.base site hsite)))
    · obtain ⟨site, hsite, rfl⟩ := List.mem_map.1 hmem
      exact .reportHead (by decide) (List.mem_map_of_mem (hnamed (hpaired.head site hsite)))

/-! ### Calls -/

/-- Calls. -/
def callCoverage : Coverage where
  places model := model.calls.map CallSite.span
  current := [.functionCallChanged, .hookDependencyChanged, .functionCallModified,
    .functionCallAdded]
  former := [.functionCallRemoved]

/-- A pair of calls is reported as changed, at the head call. -/
theorem mem_callChanges {target : Target} {before after : CallSite} {record : Record}
    (h : record ∈ callChanges target before after) :
    (record.kind = .functionCallChanged ∨ record.kind = .hookDependencyChanged ∨
      record.kind = .functionCallModified) ∧ record.span = after.span := by
  simp only [callChanges, List.mem_append] at h
  rcases h with ((h | h) | h) | h
  · obtain rfl := eq_of_mem_unless h
    exact ⟨Or.inl rfl, rfl⟩
  · obtain rfl := eq_of_mem_when h
    exact ⟨Or.inr (Or.inl rfl), rfl⟩
  · obtain rfl := eq_of_mem_when h
    exact ⟨Or.inr (Or.inr rfl), rfl⟩
  · -- Arguments give one record at most, of one kind whether their number changed or their texts.
    simp only [argumentChanges] at h
    split at h
    · obtain rfl := eq_of_mem_when h
      exact ⟨Or.inr (Or.inr rfl), rfl⟩
    · split at h
      · obtain rfl := eq_of_mem_unless h
        exact ⟨Or.inr (Or.inr rfl), rfl⟩
      · obtain rfl := List.mem_singleton.1 h
        exact ⟨Or.inr (Or.inr rfl), rfl⟩

/-- What changed in a call is reported where the call stands in the head version. -/
theorem callChanges_keeps {target : Target} {base head : Model} {before after : CallSite}
    (hafter : after ∈ head.calls) :
    ∀ record ∈ callChanges target before after, callCoverage.Allows base head record := by
  intro record hmem
  obtain ⟨hkind, hspan⟩ := mem_callChanges hmem
  have hplace : record.span ∈ callCoverage.places head := by
    rw [hspan]
    exact List.mem_map_of_mem hafter
  rcases hkind with hkind | hkind | hkind <;> exact .head (by rw [hkind]; decide) hplace

/-- Calls are reported in the head version, except for those that are gone. -/
theorem compareCalls_keeps : Comparison.Keeps compareCalls callCoverage := by
  intro target base head record hmem
  have hpaired := pairCalls_within base.calls head.calls
  simp only [compareCalls, List.mem_append, List.mem_flatMap, List.mem_map, Prod.exists] at hmem
  rcases hmem with (⟨before, after, hpair, hmem⟩ | ⟨call, hcall, rfl⟩) | ⟨call, hcall, rfl⟩
  · exact callChanges_keeps (hpaired.pairs before after hpair).2 record hmem
  · exact .reportBase (by decide) (List.mem_map_of_mem (hpaired.base call hcall))
  · exact .reportHead (by decide) (List.mem_map_of_mem (hpaired.head call hcall))

/-- Calls with side effects. -/
def sideEffectCoverage : Coverage where
  places model := model.calls.map CallSite.span
  current := [.functionCallAdded]

/-- Side effects are reported at calls of the head version. -/
theorem compareSideEffects_keeps :
    PartialComparison.Keeps compareSideEffects sideEffectCoverage := by
  intro target base head records hrecords record hmem
  obtain ⟨call, hcall, part, hpart, hmem⟩ := exists_of_mem_flatMapM hrecords hmem
  obtain ⟨configured, -, rfl⟩ := sideEffectChanges_eq_ok hpart
  obtain rfl := eq_of_mem_when hmem
  exact .reportHead (by decide) (List.mem_map_of_mem hcall)

/-! ### Types -/

/-- Type definitions. A type that is gone is reported as a changed definition. -/
def typeCoverage : Coverage where
  places model := model.types.map TypeSite.span
  current := [.typeDefinitionChanged]
  former := [.typeDefinitionChanged]

/-- A changed definition is reported at the head definition, member by member or as a whole. -/
theorem typeChanges_span {target : Target} {before after : TypeSite} {record : Record}
    (h : record ∈ typeChanges target before after) :
    record.kind = .typeDefinitionChanged ∧ record.span = after.span := by
  simp only [typeChanges] at h
  split at h
  · obtain rfl := List.mem_singleton.1 h
    exact ⟨rfl, rfl⟩
  · simp only [List.mem_append, List.mem_flatMap, List.mem_map] at h
    -- A member that is new or other, or one that is gone: all are reported at the type itself.
    rcases h with ⟨member, -, h⟩ | ⟨member, -, rfl⟩
    · simp only [memberChanges] at h
      split at h
      · obtain rfl := List.mem_singleton.1 h
        exact ⟨rfl, rfl⟩
      · split at h
        · obtain rfl := List.mem_singleton.1 h
          exact ⟨rfl, rfl⟩
        · obtain rfl := eq_of_mem_when h
          exact ⟨rfl, rfl⟩
    · exact ⟨rfl, rfl⟩

/-- A likely rename or migration is reported at the new type. -/
theorem typeMigration_span (target : Target) (old new : TypeSite) :
    (typeMigration target old new).kind = .typeDefinitionChanged ∧
      (typeMigration target old new).span = new.span := by
  rw [typeMigration]
  split <;> exact ⟨rfl, rfl⟩

/-- The types on one side only that are reported as removed: none when exactly one is gone and
exactly one is new, because these two count as one type. -/
def reportedGone (removed added : List TypeSite) : List TypeSite :=
  match removed, added with
  | [_], [_] => []
  | _, _ => removed

/-- Unless a single type stands against a single type, all that are gone are reported so. -/
theorem reportedGone_eq {removed added : List TypeSite}
    (h : ∀ old new, removed = [old] → added = [new] → False) :
    reportedGone removed added = removed := by
  unfold reportedGone
  split
  · exact (h _ _ rfl rfl).elim
  · rfl

/-- Only types that are gone are reported so. -/
theorem mem_of_mem_reportedGone {removed added : List TypeSite} {site : TypeSite}
    (h : site ∈ reportedGone removed added) : site ∈ removed := by
  unfold reportedGone at h
  split at h
  · cases h
  · exact h

/-- Unless a single type stands against a single type, each leftover gives its own record. -/
theorem typeLeftovers_eq (target : Target) {removed added : List TypeSite}
    (h : ∀ old new, removed = [old] → added = [new] → False) :
    typeLeftovers target removed added =
      removed.map (typeRemoved target) ++ added.map (typeAdded target) := by
  unfold typeLeftovers
  split
  · exact (h _ _ rfl rfl).elim
  · rfl

/-- The types on one side only are reported at new types, or as removed. -/
theorem mem_typeLeftovers {target : Target} {removed added : List TypeSite} {record : Record}
    (h : record ∈ typeLeftovers target removed added) :
    (∃ new ∈ added, record.kind = .typeDefinitionChanged ∧ record.span = new.span) ∨
      ∃ old ∈ reportedGone removed added, record = typeRemoved target old := by
  by_cases hpair : ∃ old new, removed = [old] ∧ added = [new]
  · obtain ⟨old, new, rfl, rfl⟩ := hpair
    obtain rfl := List.mem_singleton.1 h
    exact Or.inl ⟨new, List.mem_singleton_self new, typeMigration_span target old new⟩
  · have hmany (old new : TypeSite) (hold : removed = [old]) (hnew : added = [new]) : False :=
      hpair ⟨old, new, hold, hnew⟩
    rw [typeLeftovers_eq target hmany, List.mem_append, List.mem_map, List.mem_map] at h
    rcases h with ⟨old, hold, rfl⟩ | ⟨new, hnew, rfl⟩
    · exact Or.inr ⟨old, (reportedGone_eq hmany).symm ▸ hold, rfl⟩
    · exact Or.inl ⟨new, hnew, rfl, rfl⟩

/-- The types of the base version that are reported as removed. -/
def removedTypes (base head : Model) : List TypeSite :=
  let before := lastOfEach TypeSite.name base.types
  let after := lastOfEach TypeSite.name head.types
  reportedGone (before.filter fun b => !after.any (·.name == b.name))
    (after.filter fun h => !before.any (·.name == h.name))

/-- Removed types are types of the base version. -/
theorem mem_of_mem_removedTypes {base head : Model} {site : TypeSite}
    (h : site ∈ removedTypes base head) : site ∈ base.types :=
  mem_of_mem_lastOfEach (List.mem_filter.1 (mem_of_mem_reportedGone h)).1

/-- Types are reported where they stand in the head version, and removed ones where they stood. -/
theorem mem_compareTypes {target : Target} {base head : Model} {record : Record}
    (h : record ∈ compareTypes target base head) :
    (record.kind = .typeDefinitionChanged ∧ record.span ∈ head.types.map TypeSite.span) ∨
      ∃ site ∈ removedTypes base head, record = typeRemoved target site := by
  have hhead {site : TypeSite} (hsite : site ∈ lastOfEach TypeSite.name head.types) :
      site.span ∈ head.types.map TypeSite.span := List.mem_map_of_mem (mem_of_mem_lastOfEach hsite)
  -- Names of both versions first, then one rename, or the types that came and went.
  rcases List.mem_append.1 h with h | h
  · obtain ⟨before, -, h⟩ := List.mem_flatMap.1 h
    split at h
    · rename_i after hfind
      split at h
      · cases h
      · obtain ⟨hkind, hspan⟩ := typeChanges_span h
        exact Or.inl ⟨hkind, hspan ▸ hhead (List.mem_of_find?_eq_some hfind)⟩
    · cases h
  · rcases mem_typeLeftovers h with ⟨new, hnew, hkind, hspan⟩ | hgone
    · exact Or.inl ⟨hkind, hspan ▸ hhead (List.mem_filter.1 hnew).1⟩
    · exact Or.inr hgone

/-- Types are reported in the head version, except for those that are gone: these are the stray
spans. -/
theorem compareTypes_keeps : Comparison.Keeps compareTypes typeCoverage := by
  intro target base head record hmem
  rcases mem_compareTypes hmem with ⟨hkind, hspan⟩ | ⟨site, hsite, rfl⟩
  · exact .head (by rw [hkind]; decide) hspan
  · exact .reportBase (by decide) (List.mem_map_of_mem (mem_of_mem_removedTypes hsite))

/-! ### Imports and exports -/

/-- Import statements. -/
def importCoverage : Coverage where
  places model := model.imports.map ImportSite.span
  current := [.importAdded, .sideEffectImportAdded, .importStructureChanged]
  former := [.importRemoved]

/-- Imports are reported at the first import of their module, in the version that has it. -/
theorem compareImports_keeps : PartialComparison.Keeps compareImports importCoverage := by
  intro target base head records hrecords record hmem
  have hplace {model : Model} {site : ImportSite} (h : site ∈ valueImports model) :
      site.span ∈ importCoverage.places model := List.mem_map_of_mem (List.mem_filter.1 h).1
  obtain ⟨current, hcurrent, rfl⟩ := compareImports_eq_ok hrecords
  rcases List.mem_append.1 hmem with hmem | hmem
  · rcases List.mem_append.1 hmem with hmem | hmem
    · -- All specifiers of a module are reported at its first import.
      obtain ⟨site, hsite, part, hpart, hmem⟩ := exists_of_mem_flatMapM hcurrent hmem
      have hhead := hplace (mem_of_mem_firstOfEach hsite)
      rw [currentModule] at hpart
      split at hpart
      · cases hpart
        simp only [moduleChanges, List.mem_append, List.mem_map] at hmem
        rcases hmem with ⟨key, -, rfl⟩ | ⟨key, -, rfl⟩ <;> exact .reportHead (by decide) hhead
      · obtain ⟨configured, -, rfl⟩ := moduleAdded_eq_ok hpart
        rcases List.mem_cons.1 hmem with rfl | hmem
        · exact .reportHead (by decide) hhead
        · obtain rfl := eq_of_mem_when hmem
          exact .reportHead (by decide) hhead
    · obtain ⟨site, hsite, rfl⟩ := List.mem_map.1 hmem
      exact .reportBase (by decide) (hplace (mem_of_mem_firstOfEach (List.mem_filter.1 hsite).1))
  · simp only [orderChanges] at hmem
    split at hmem
    · rename_i anchor hfind
      obtain rfl := eq_of_mem_when hmem
      exact .reportHead (by decide) (hplace (List.mem_of_find?_eq_some hfind))
    · cases hmem

/-- Exported names. -/
def exportCoverage : Coverage where
  places model := model.exports.map ExportSite.span
  current := [.exportSignatureChanged, .exportAdded]
  former := [.exportRemoved]

/-- Exports are reported at the first export of their name, in the version that has it. -/
theorem compareExports_keeps : Comparison.Keeps compareExports exportCoverage := by
  intro target base head record hmem
  simp only [compareExports, List.mem_append, List.mem_flatMap, List.mem_map, List.mem_filter]
    at hmem
  -- What head exports is new, has another signature or another type; the rest is gone.
  rcases hmem with ⟨site, hsite, hmem⟩ | ⟨site, ⟨hsite, -⟩, rfl⟩
  · have hhead : site.span ∈ exportCoverage.places head :=
      List.mem_map_of_mem (mem_of_mem_firstOfEach hsite)
    split at hmem
    · obtain rfl := List.mem_singleton.1 hmem
      exact .reportHead (by decide) hhead
    · rw [exportChanges] at hmem
      split at hmem
      · obtain rfl := List.mem_singleton.1 hmem
        exact .reportHead (by decide) hhead
      · split at hmem
        · split at hmem
          · obtain rfl := eq_of_mem_unless hmem
            exact .reportHead (by decide) hhead
          · cases hmem
        · cases hmem
  · exact .reportBase (by decide) (List.mem_map_of_mem (mem_of_mem_firstOfEach hsite))

/-! ### Classes, interfaces and variables -/

/-- Class declarations. -/
def classCoverage : Coverage where
  places model := model.classes.map ClassSite.span
  current := [.classStructureChanged]

/-- Classes are reported in the head version. -/
theorem compareClasses_keeps : Comparison.Keeps compareClasses classCoverage := by
  intro target base head record hmem
  simp only [compareClasses, List.mem_flatMap] at hmem
  obtain ⟨site, hsite, hmem⟩ := hmem
  have hhead : site.span ∈ classCoverage.places head := List.mem_map_of_mem hsite
  -- A class that is new is one record; one of both versions may give several.
  split at hmem
  · obtain rfl := List.mem_singleton.1 hmem
    exact .reportHead (by decide) hhead
  · simp only [classChanges, List.mem_append, List.mem_map] at hmem
    rcases hmem with (hmem | ⟨name, -, rfl⟩) | ⟨name, -, rfl⟩
    · obtain rfl := eq_of_mem_unless hmem
      exact .reportHead (by decide) hhead
    · exact .reportHead (by decide) hhead
    · exact .reportHead (by decide) hhead

/-- Interface declarations. -/
def interfaceCoverage : Coverage where
  places model := model.interfaces.map InterfaceSite.span
  current := [.interfaceModified]

/-- Interfaces are reported in the head version. -/
theorem compareInterfaces_keeps : Comparison.Keeps compareInterfaces interfaceCoverage := by
  intro target base head record hmem
  simp only [compareInterfaces, List.mem_flatMap] at hmem
  obtain ⟨site, hsite, hmem⟩ := hmem
  have hhead : site.span ∈ interfaceCoverage.places head := List.mem_map_of_mem hsite
  split at hmem
  · obtain rfl := List.mem_singleton.1 hmem
    exact .reportHead (by decide) hhead
  · simp only [interfaceChanges, List.mem_append, List.mem_flatMap, List.mem_map] at hmem
    -- Properties that came or changed, then those that are gone; both are reported at the interface
    -- of head.
    rcases hmem with ⟨property, -, hmem⟩ | ⟨name, -, rfl⟩
    · rw [propertyChanges] at hmem
      split at hmem
      · obtain rfl := List.mem_singleton.1 hmem
        exact .reportHead (by decide) hhead
      · obtain rfl := eq_of_mem_unless hmem
        exact .reportHead (by decide) hhead
    · exact .reportHead (by decide) hhead

/-- Declared variables. -/
def variableCoverage : Coverage where
  places model := model.declared.map VariableSite.span
  current := [.variableDeclarationChanged]

/-- Variables with a changed type are reported in the head version. -/
theorem compareVariables_keeps : Comparison.Keeps compareVariables variableCoverage := by
  intro target base head record hmem
  have hpaired := pairBy_within VariableSite.name base.declared head.declared
  simp only [compareVariables, List.mem_append, List.mem_map, List.mem_filter, Prod.exists] at hmem
  rcases hmem with ⟨site, hsite, rfl⟩ | ⟨before, after, ⟨hpair, -⟩, rfl⟩
  · exact .reportHead (by decide) (List.mem_map_of_mem (hpaired.head site hsite))
  · exact .reportHead (by decide) (List.mem_map_of_mem (hpaired.pairs before after hpair).2)

/-! ### Hooks and state management -/

/-- Hook calls. -/
def hookCoverage : Coverage where
  places model := model.hooks.map HookSite.span
  current := [.hookDependencyChanged, .effectAdded, .hookAdded]
  former := [.effectRemoved, .hookRemoved]

/-- A lost hook is reported where it stood. -/
theorem hookRemoved_keeps {target : Target} {base head : Model} {hook : HookSite}
    (hhook : hook ∈ base.hooks) : hookCoverage.Allows base head (hookRemoved target hook) := by
  simp only [hookRemoved]
  split <;> exact .reportBase (by decide) (List.mem_map_of_mem hhook)

/-- Hooks are reported in the version that has them. -/
theorem compareHooks_keeps : Comparison.Keeps compareHooks hookCoverage := by
  intro target base head record hmem
  simp only [compareHooks, List.mem_append, List.mem_flatMap, List.mem_map, Prod.exists] at hmem
  rcases hmem with ⟨hook, before?, hclaim, hmem⟩ | ⟨hook, hhook, rfl⟩
  · -- Every head hook made a claim; met or not, it is reported where it stands.
    have hhead : hook.span ∈ hookCoverage.places head :=
      List.mem_map_of_mem (mem_claims hclaim).1
    split at hmem
    · obtain rfl := eq_of_mem_unless hmem
      exact .reportHead (by decide) hhead
    · rw [hookAdded] at hmem
      split at hmem
      · cases hmem
      · split at hmem
        · obtain rfl := List.mem_singleton.1 hmem
          exact .reportHead (by decide) hhead
        · obtain rfl := List.mem_singleton.1 hmem
          exact .reportHead (by decide) hhead
  · exact hookRemoved_keeps (mem_claims_left (mem_grouped hhook))

/-- State management. Fewer hooks than before are reported at a hook of the base version. -/
def stateCoverage : Coverage where
  places model := model.hooks.map HookSite.span
  current := [.stateManagementChanged]
  former := [.stateManagementChanged]

/-- A changed number of hooks shows at the first hook of the side that has more. -/
theorem stateChange?_eq_some {base head : Model} {hookType text : String} {span : Span}
    (h : stateChange? base head hookType = some (text, span)) :
    ((base.hooksOfType hookType).length < (head.hooksOfType hookType).length ∧
        ∃ hook, (head.hooksOfType hookType).head? = some hook ∧ hook.span = span) ∨
      ((head.hooksOfType hookType).length < (base.hooksOfType hookType).length ∧
        ∃ hook, (base.hooksOfType hookType).head? = some hook ∧ hook.span = span) := by
  simp only [stateChange?] at h
  split at h
  · cases h
  · rename_i hne
    obtain ⟨hook, hanchor, heq⟩ := Option.map_eq_some_iff.1 h
    cases heq
    split at hanchor
    · rename_i hlt
      exact Or.inl ⟨hlt, hook, hanchor, rfl⟩
    · rename_i hlt
      exact Or.inr ⟨by omega, hook, hanchor, rfl⟩

/-- The first hook of a type is one of the hooks. -/
theorem span_mem_of_head?_hooksOfType {model : Model} {hookType : String} {hook : HookSite}
    (h : (model.hooksOfType hookType).head? = some hook) :
    hook.span ∈ model.hooks.map HookSite.span :=
  List.mem_map_of_mem (List.mem_filter.1 (List.mem_of_mem_head? h)).1

/-- State management is one record, at the hook of the last type whose number changed. -/
theorem mem_compareState {target : Target} {base head : Model} {record : Record}
    (h : record ∈ compareState target base head) :
    record.kind = .stateManagementChanged ∧ ∃ text,
      (stateHooks.filterMap (stateChange? base head)).getLast? = some (text, record.span) := by
  simp only [compareState] at h
  split at h
  · cases h
  · rename_i text span hlast
    obtain rfl := List.mem_singleton.1 h
    exact ⟨rfl, text, hlast⟩

/-- State management is reported at the first hook of a type; where hooks were lost this is one of
the base version, and a stray span. -/
theorem compareState_keeps : Comparison.Keeps compareState stateCoverage := by
  intro target base head record hmem
  obtain ⟨hkind, text, hlast⟩ := mem_compareState hmem
  obtain ⟨hookType, -, hchange⟩ := List.mem_filterMap.1 (List.mem_of_getLast? hlast)
  rcases stateChange?_eq_some hchange with ⟨-, hook, hhook, hspan⟩ | ⟨-, hook, hhook, hspan⟩
  · exact .head (by rw [hkind]; decide) (hspan ▸ span_mem_of_head?_hooksOfType hhook)
  · exact .base (by rw [hkind]; decide) (hspan ▸ span_mem_of_head?_hooksOfType hhook)

/-! ### Markup -/

/-- Elements. -/
def elementCoverage : Coverage where
  places model := model.elements.map ElementSite.span
  current := [.jsxPropsChanged, .componentStructureChanged, .componentReferenceChanged,
    .jsxElementAdded]
  former := [.jsxElementRemoved]

/-- Elements are reported in the version that has them, changed ones in the head version. -/
theorem compareElements_keeps : Comparison.Keeps compareElements elementCoverage := by
  intro target base head record hmem
  -- Three passes, each within the leftovers of the one before.
  have hexact := pairBy_within
    (fun site : ElementSite => (site.tag, renderedProps site, site.hasChildren))
    base.elements head.elements
  have htag := hexact.trans (pairBy_within ElementSite.tag _ _)
  have hswapped := htag.trans (pairFirst_within
    (fun b h => b.isComponent && h.isComponent && shapeOf b == shapeOf h) _ _)
  simp only [compareElements, List.mem_append, List.mem_flatMap, List.mem_map, Prod.exists] at hmem
  -- Elements of both versions, elements that were replaced, those that are gone and those that are
  -- new.
  rcases hmem with ((⟨before, after, hpair, hmem⟩ | ⟨before, after, hpair, rfl⟩) |
    ⟨site, hsite, rfl⟩) | ⟨site, hsite, rfl⟩
  · have hafter : after ∈ head.elements :=
      hpair.elim (fun hpair => (hexact.pairs before after hpair).2)
        (fun hpair => (htag.pairs before after hpair).2)
    simp only [elementChanges, List.mem_append] at hmem
    rcases hmem with hmem | hmem
    · obtain rfl := eq_of_mem_unless hmem
      exact .reportHead (by decide) (List.mem_map_of_mem hafter)
    · obtain rfl := eq_of_mem_when hmem
      exact .reportHead (by decide) (List.mem_map_of_mem hafter)
  · exact .reportHead (by decide) (List.mem_map_of_mem (hswapped.pairs before after hpair).2)
  · exact .reportBase (by decide) (List.mem_map_of_mem (hswapped.base site hsite))
  · exact .reportHead (by decide) (List.mem_map_of_mem (hswapped.head site hsite))

/-- Conditional rendering. -/
def renderCoverage : Coverage where
  places model := model.renders.map RenderSite.span
  current := [.jsxLogicAdded]

/-- New conditional rendering is reported in the head version. -/
theorem compareRenders_keeps : Comparison.Keeps compareRenders renderCoverage := by
  intro target base head record hmem
  simp only [compareRenders, List.mem_map] at hmem
  obtain ⟨site, hsite, rfl⟩ := hmem
  exact .reportHead (by decide) (List.mem_map_of_mem (mem_claims (mem_unclaimed.1 hsite)).1)

/-- Event handlers. One that is gone is reported as changed. -/
def handlerCoverage : Coverage where
  places model := model.handlers.map HandlerSite.span
  current := [.eventHandlerChanged]
  former := [.eventHandlerChanged]

/-- The event handlers of the base version that are reported as removed. -/
def removedHandlers (target : Target) (base head : Model) : List HandlerSite :=
  (pairBy (fun site : HandlerSite => (site.element, site.event))
    (base.handlers.filter (isSignificant target))
    (head.handlers.filter (isSignificant target))).base

/-- Event handlers are reported where they stand in the head version, and removed ones where they
stood. -/
theorem mem_compareHandlers {target : Target} {base head : Model} {record : Record}
    (h : record ∈ compareHandlers target base head) :
    (record.kind = .eventHandlerChanged ∧ record.span ∈ head.handlers.map HandlerSite.span) ∨
      ∃ site ∈ removedHandlers target base head, record = handlerRecord target "removed" site := by
  have hpaired := pairBy_within (fun site : HandlerSite => (site.element, site.event))
    (base.handlers.filter (isSignificant target)) (head.handlers.filter (isSignificant target))
  simp only [compareHandlers, List.mem_append, List.mem_map, List.mem_filter, Prod.exists] at h
  rcases h with (⟨before, after, ⟨hpair, -⟩, rfl⟩ | ⟨site, hsite, rfl⟩) | ⟨site, hsite, rfl⟩
  · have hafter := (hpaired.pairs before after hpair).2
    exact Or.inl ⟨rfl, List.mem_map_of_mem (List.mem_filter.1 hafter).1⟩
  · have hsite := hpaired.head site hsite
    exact Or.inl ⟨rfl, List.mem_map_of_mem (List.mem_filter.1 hsite).1⟩
  · exact Or.inr ⟨site, hsite, rfl⟩

/-- Removed handlers are handlers of the base version. -/
theorem mem_of_mem_removedHandlers {target : Target} {base head : Model} {site : HandlerSite}
    (h : site ∈ removedHandlers target base head) : site ∈ base.handlers :=
  (List.mem_filter.1 ((pairBy_within _ _ _).base site h)).1

/-- Event handlers are reported in the head version, except for those that are gone: these are the
stray spans. -/
theorem compareHandlers_keeps : Comparison.Keeps compareHandlers handlerCoverage := by
  intro target base head record hmem
  rcases mem_compareHandlers hmem with ⟨hkind, hspan⟩ | ⟨site, hsite, rfl⟩
  · exact .head (by rw [hkind]; decide) hspan
  · exact .reportBase (by decide) (List.mem_map_of_mem (mem_of_mem_removedHandlers hsite))

/-- Markup: elements, conditional rendering and event handlers. -/
def markupCoverage : Coverage :=
  elementCoverage.union (renderCoverage.union handlerCoverage)

/-- The parts of the markup that are compared under a configuration. -/
theorem mem_compareMarkup {target : Target} {base head : Model} {record : Record}
    (h : record ∈ compareMarkup target base head) :
    target.config.markup.enabled.isOn = true ∧
      (record ∈ compareElements target base head ∨
        target.config.markup.ignoreLogicChanges.isOn = false ∧
          (record ∈ compareRenders target base head ∨
            record ∈ compareHandlers target base head)) := by
  rw [compareMarkup] at h
  split at h
  · cases h
  · rename_i hon
    refine ⟨by simpa using hon, ?_⟩
    split at h
    · exact Or.inl h
    · rename_i hlogic
      rw [List.mem_append, List.mem_append, or_assoc] at h
      exact h.imp_right fun h => ⟨by simpa using hlogic, h⟩

/-- Markup is reported as its three parts are. -/
theorem compareMarkup_keeps : Comparison.Keeps compareMarkup markupCoverage := by
  intro target base head record hmem
  obtain ⟨-, hmem | ⟨-, hmem | hmem⟩⟩ := mem_compareMarkup hmem
  · exact (compareElements_keeps target base head record hmem).union_left
  · exact (compareRenders_keeps target base head record hmem).union_left.union_right
  · exact (compareHandlers_keeps target base head record hmem).union_right.union_right

/-! ### The table -/

/-- What each analyzer can report, in the order of the registry. -/
def coverages : List (Analyzer × Coverage) :=
  [(functions, functionCoverage), (calls, callCoverage), (types, typeCoverage),
   (imports, importCoverage), (exports, exportCoverage), (classes, classCoverage),
   (interfaces, interfaceCoverage), (declared, variableCoverage), (hooks, hookCoverage),
   (stateManagement, stateCoverage), (markup, markupCoverage), (sideEffects, sideEffectCoverage),
   (arrayMutations, arrayMutationCoverage), (objectMutations, objectMutationCoverage),
   (promises, promiseCoverage), (ternaries, ternaryCoverage), (conditionals, conditionalCoverage),
   (loops, loopCoverage), (comparisonOperators, operatorCoverage .comparisonOperatorChanged),
   (logicalOperators, operatorCoverage .logicalOperatorChanged), (throws, throwCoverage),
   (tries, tryCoverage), (destructuring, destructuringCoverage), (assignments, assignmentCoverage),
   (spreads, spreadCoverage), (fileComplexity, complexityCoverage)]

/-- The table leaves no analyzer out. -/
theorem coverages_analyzers : coverages.map Prod.fst = all :=
  rfl

/-- No analyzer reports beyond its coverage. -/
theorem coverages_sound : ∀ entry ∈ coverages, entry.1.Keeps entry.2 := by
  simp only [coverages, List.forall_mem_cons, List.not_mem_nil, false_implies, implies_true,
    and_true]
  -- In the order of the registry; two of the comparisons may break down and keep their places if
  -- they do not.
  exact ⟨of_keeps compareFunctions_keeps, of_keeps compareCalls_keeps, of_keeps compareTypes_keeps,
    ofPartial_keeps compareImports_keeps, of_keeps compareExports_keeps, of_keeps compareClasses_keeps,
    of_keeps compareInterfaces_keeps, of_keeps compareVariables_keeps, of_keeps compareHooks_keeps,
    of_keeps compareState_keeps, of_keeps compareMarkup_keeps, ofPartial_keeps compareSideEffects_keeps,
    of_keeps compareArrayMutations_keeps, of_keeps compareObjectMutations_keeps,
    of_keeps comparePromises_keeps, of_keeps compareTernaries_keeps,
    of_keeps compareConditionals_keeps, of_keeps compareLoops_keeps,
    of_keeps (compareOperators_keeps _ _ _), of_keeps (compareOperators_keeps _ _ _),
    of_keeps compareThrows_keeps, of_keeps compareTries_keeps,
    of_keeps compareDestructurings_keeps, of_keeps compareAssignments_keeps,
    of_keeps compareSpreads_keeps, of_keeps compareComplexity_keeps⟩

/-- Every analyzer has an entry. -/
theorem exists_coverage {analyzer : Analyzer} (h : analyzer ∈ all) :
    ∃ coverage, (analyzer, coverage) ∈ coverages := by
  rw [← coverages_analyzers, List.mem_map] at h
  obtain ⟨⟨_, coverage⟩, hmem, rfl⟩ := h
  exact ⟨coverage, hmem⟩

end Analyzer

end ChangeLens
