import ChangeLens.Proofs.Folding
import ChangeLens.Text.Distance

/-!
# `ChangeLens.Proofs.Settled`: what holds of every list of reported changes

`Detect.Settled` collects what the stages of `Detect.fold` establish: order, distinct keys, policy,
hunks, and that a signature change is inferred only where none is reported. The last point needs
more than the fold, because the inferred record is added after duplicates are gone: no analyzer and
no coarser check may come up with a record that looks like it (`Detect.found_ne_inferred`).
`detectChanges_settled` is the main result.
-/

set_option autoImplicit false

namespace ChangeLens

/-! ### Seen and inferred signatures -/

namespace Analyzer

/-- No function has the label of a whole file. -/
theorem functionLabel_ne (site : FunctionSite) : functionLabel site ≠ Record.fileLevelLabel := by
  rw [functionLabel]
  split
  · decide
  · split <;> decide

/-- What is reported about a pair of functions is about a node. -/
theorem functionChanges_not_fileLevel {target : Target} {before after : FunctionSite}
    {record : Record} (h : record ∈ functionChanges target before after) :
    record.nodeLabel ≠ Record.fileLevelLabel := by
  simp only [functionChanges, List.mem_append] at h
  rcases h with ((((h | h) | h) | h) | h) | h
  · obtain rfl := eq_of_mem_unless h
    exact functionLabel_ne after
  · simp only [destructuredChanges, List.mem_flatMap, Prod.exists] at h
    obtain ⟨old, new, position, -, h⟩ := h
    rw [keyChanges] at h
    split at h
    · simp only [List.mem_append, List.mem_map] at h
      rcases h with ⟨key, -, rfl⟩ | ⟨key, -, rfl⟩ <;> exact (by decide : "Parameter" ≠ "SourceFile")
    · cases h
  · obtain rfl := eq_of_mem_unless h
    exact functionLabel_ne after
  · obtain rfl := eq_of_mem_unless h
    exact functionLabel_ne after
  · rw [asyncChanges] at h
    split at h
    · obtain rfl := List.mem_singleton.1 h
      exact functionLabel_ne after
    · obtain rfl := eq_of_mem_when h
      exact functionLabel_ne before
  · obtain rfl := eq_of_mem_unless h
    exact functionLabel_ne after

/-- The analyzer of functions says nothing about the whole file. -/
theorem compareFunctions_not_fileLevel {target : Target} {base head : Model} {record : Record}
    (h : record ∈ compareFunctions target base head) :
    record.nodeLabel ≠ Record.fileLevelLabel := by
  rw [compareFunctions, List.mem_append] at h
  rcases h with h | h
  · simp only [List.mem_flatMap, Prod.exists] at h
    obtain ⟨before, after, -, h⟩ := h
    exact functionChanges_not_fileLevel h
  · rcases mem_functionLeftovers h with ⟨old, new, -, -, h⟩ | h | h
    · rw [Option.mem_def, functionRename?] at h
      split at h
      · cases h
        exact functionLabel_ne new
      · split at h
        · cases h
          exact functionLabel_ne new
        · cases h
    · obtain ⟨site, -, rfl⟩ := List.mem_map.1 h
      exact functionLabel_ne site
    · obtain ⟨site, -, rfl⟩ := List.mem_map.1 h
      exact functionLabel_ne site

/-- Only the analyzer of functions reports changed signatures. -/
theorem signature_coverages :
    coverages.filter (·.2.kinds.contains .functionSignatureChanged) =
      [(functions, functionCoverage)] :=
  rfl

/-- A changed signature that an analyzer finds was found by that of functions. -/
theorem eq_functions_of_signature {analyzer : Analyzer} (h : analyzer ∈ all) {target : Target}
    {base head : Model} {record : Record} (hrecord : record ∈ analyzer.findings target base head)
    (hkind : record.kind = .functionSignatureChanged) : analyzer = functions := by
  obtain ⟨coverage, hentry⟩ := exists_coverage h
  have hmem := (allows_of_mem_findings hentry hrecord).kind_mem
  have hsignature : (analyzer, coverage) ∈
      coverages.filter (·.2.kinds.contains .functionSignatureChanged) :=
    List.mem_filter.2 ⟨hentry, by simpa [hkind] using hmem⟩
  rw [signature_coverages, List.mem_singleton] at hsignature
  exact congrArg Prod.fst hsignature

end Analyzer

namespace Detect

open ChangeLens.Analyzer

/-- The check by text gives the numbers of parameters. -/
theorem textRecord_context (target : Target) (name : String) (before after : Nat) :
    (textRecord target name before after).context ≠ some "Heuristic fallback" := by
  intro hcontext
  -- The two contexts differ in their first character.
  have hchars := congrArg String.toList (Option.some.inj hcontext)
  rw [show toString "Param count: " = "Param count: " from rfl] at hchars
  simp at hchars

/-- No changed signature that is found looks like the inferred one. -/
theorem found_ne_inferred {analyzers : List Analyzer} (h : ∀ analyzer ∈ analyzers, analyzer ∈ all)
    {target : Target} {base head : Model} {record : Record}
    (hrecord : record ∈ signatureFindings analyzers target base head ++
      otherFindings analyzers target base head) :
    target.config.regrade record ≠ target.config.regrade (inferredChange target) := by
  intro heq
  have hkind : record.kind = .functionSignatureChanged := congrArg Record.kind heq
  have hlabel : record.nodeLabel = Record.fileLevelLabel := congrArg Record.nodeLabel heq
  have hcontext : record.context = some "Heuristic fallback" := congrArg Record.context heq
  -- Of the analyzers only that of functions reports signatures, and never about the whole file.
  have hanalyzer {isChosen : String → Bool}
      (hfound : record ∈ findingsOf isChosen analyzers target base head) : False := by
    obtain ⟨analyzer, hlisted, -, -, hfound⟩ := mem_findingsOf.1 hfound
    obtain rfl := eq_functions_of_signature (h analyzer hlisted) hfound hkind
    exact compareFunctions_not_fileLevel hfound hlabel
  rcases List.mem_append.1 hrecord with hrecord | hother
  · rcases List.mem_append.1 hrecord with hfunction | hfallback
    · exact hanalyzer hfunction
    · rcases eq_of_mem_fallbacks hfallback with ⟨before, after, rfl⟩ | ⟨name, before, after, rfl⟩
      · exact absurd hlabel (by decide : "FunctionDeclaration" ≠ "SourceFile")
      · exact textRecord_context target name before after hcontext
  · exact hanalyzer hother

/-! ### Every list of reported changes -/

/-- What holds of the changes that are reported about a file. -/
structure Settled (target : Target) (hunks : List Hunk) (records : List Record) : Prop where
  /-- They are sorted by severity and position. -/
  sorted : records.Pairwise Record.Precedes
  /-- No two of them report the same difference. -/
  distinct : (records.map Record.key).Nodup
  /-- Their kinds are enabled. -/
  enabled : ∀ record ∈ records, target.config.kindEnabled record.kind = true
  /-- Their severities are final. -/
  graded : ∀ record ∈ records, target.config.resolveSeverity record = record.severity
  /-- They touch a hunk on their own side, unless they are about the whole file. -/
  in_scope : hunks ≠ [] → ∀ record ∈ records, record.isFileLevel = true ∨
    ∃ hunk ∈ hunks, (if record.kind.isRemoval then hunk.base else hunk.head).overlaps
      record.span.startLine record.span.endLine = true
  /-- A signature change that is only inferred is the only one. -/
  inferred_alone : ∀ inferred ∈ inferredRecord target, inferred ∈ records →
    ∀ record ∈ records, record.kind = .functionSignatureChanged → record = inferred

/-- A reported record was found, or is the inferred one; either way it went through the policy. -/
theorem mem_fold_graded {target : Target} {hunks : List Hunk} {aboutFunctions others : List Record}
    {record : Record} (h : record ∈ fold target hunks aboutFunctions others) :
    target.config.kindEnabled record.kind = true ∧
      target.config.resolveSeverity record = record.severity := by
  rcases mem_fold.1 h with h | ⟨-, h⟩
  · obtain ⟨⟨found, -, henabled, rfl⟩, -⟩ := mem_surviving h
    exact ⟨henabled, Config.resolveSeverity_regrade _ found⟩
  · obtain ⟨henabled, rfl⟩ := mem_inferredRecord.1 h
    exact ⟨henabled, Config.resolveSeverity_regrade _ _⟩

/-- The inferred record needs no hunk, because it is about the whole file. -/
theorem mem_fold_touches {target : Target} {hunks : List Hunk} {aboutFunctions others : List Record}
    {record : Record} (hhunks : hunks ≠ []) (h : record ∈ fold target hunks aboutFunctions others) :
    Hunk.touches hunks record = true := by
  rcases mem_fold.1 h with h | ⟨-, h⟩
  · exact (mem_surviving h).2 hhunks
  · obtain ⟨-, rfl⟩ := mem_inferredRecord.1 h
    rfl

/-- Where the inferred record is reported, it is the only changed signature. -/
theorem fold_inferred_alone {target : Target} {hunks : List Hunk}
    {aboutFunctions others : List Record}
    (hfound : ∀ record ∈ aboutFunctions ++ others,
      target.config.regrade record ≠ target.config.regrade (inferredChange target))
    {inferred record : Record} (hinferred : inferred ∈ inferredRecord target)
    (hmem : inferred ∈ fold target hunks aboutFunctions others)
    (hrecord : record ∈ fold target hunks aboutFunctions others)
    (hkind : record.kind = .functionSignatureChanged) : record = inferred := by
  obtain ⟨-, rfl⟩ := mem_inferredRecord.1 hinferred
  -- It has not been found, so it was added, and then no signature was found at all.
  rcases mem_fold.1 hmem with hmem | ⟨hinfers, -⟩
  · obtain ⟨⟨found, hfoundMem, -, heq⟩, -⟩ := mem_surviving hmem
    exact absurd heq (hfound found hfoundMem)
  · rcases mem_fold.1 hrecord with hrecord | ⟨-, hrecord⟩
    · exact absurd hkind (not_signature_of_infers hinfers record hrecord)
    · obtain ⟨-, rfl⟩ := mem_inferredRecord.1 hrecord
      rfl

/-- What the stages make of records none of which looks like the inferred one is settled. -/
theorem settled_fold {target : Target} {hunks : List Hunk} {aboutFunctions others : List Record}
    (hfound : ∀ record ∈ aboutFunctions ++ others,
      target.config.regrade record ≠ target.config.regrade (inferredChange target)) :
    Settled target hunks (fold target hunks aboutFunctions others) where
  sorted := sortRecords_sorted _
  distinct := fold_nodup _ _ _ _
  enabled record hrecord := (mem_fold_graded hrecord).1
  graded record hrecord := (mem_fold_graded hrecord).2
  in_scope hhunks record hrecord := by
    have htouches := mem_fold_touches hhunks hrecord
    rw [Hunk.touches, Bool.or_eq_true, List.any_eq_true] at htouches
    exact htouches
  inferred_alone inferred hinferred hmem record hrecord hkind :=
    fold_inferred_alone hfound hinferred hmem hrecord hkind

/-- So is a report without changes. -/
theorem settled_nil (target : Target) (hunks : List Hunk) : Settled target hunks [] where
  sorted := .nil
  distinct := .nil
  enabled _ hrecord := absurd hrecord List.not_mem_nil
  graded _ hrecord := absurd hrecord List.not_mem_nil
  in_scope _ _ hrecord := absurd hrecord List.not_mem_nil
  inferred_alone _ _ hmem := absurd hmem List.not_mem_nil

end Detect

/-- Whichever analyzers of the registry are asked, the reported changes are settled. Nothing that is
enabled and in scope gets lost: every such finding of a running analyzer is reported under its key,
as long as none of them breaks down, and then nothing is reported at all. -/
theorem detectChanges_settled {analyzers : List Analyzer}
    (h : ∀ analyzer ∈ analyzers, analyzer ∈ Analyzer.all) (target : Target) (hunks : List Hunk)
    (base head : Source) :
    let before := Model.ofSource base (dialectForPath target.path)
    let after := Model.ofSource head (dialectForPath target.path)
    let reported := detectChanges analyzers target hunks base head
    Detect.Settled target hunks reported ∧
      (Detect.Completes analyzers target before after →
        ∀ analyzer ∈ analyzers, analyzer.runsUnder target.config = true →
          ∀ record ∈ analyzer.findings target before after,
            target.config.kindEnabled record.kind = true →
              (hunks ≠ [] → Hunk.touches hunks record = true) →
                record.key ∈ reported.map Record.key) ∧
      (¬ Detect.Completes analyzers target before after → reported = []) := by
  intro before after reported
  refine ⟨?_, fun hcompletes _ hanalyzer hruns _ hrecord henabled hscope =>
      Detect.mem_keys_detectChanges hcompletes hanalyzer hruns hrecord henabled hscope,
    fun hbreaks => Detect.changes_eq_nil hbreaks hunks⟩
  rcases Detect.changes_cases analyzers target hunks before after with
    ⟨-, hchanges⟩ | ⟨-, hnil⟩
  · show Detect.Settled target hunks (Detect.changes analyzers target hunks before after)
    rw [hchanges]
    exact Detect.settled_fold fun _ => Detect.found_ne_inferred h
  · show Detect.Settled target hunks (Detect.changes analyzers target hunks before after)
    rw [hnil]
    exact Detect.settled_nil target hunks

/-- Two texts without a tree, in which a function loses a parameter. -/
theorem detectChanges_settled_text :
    (∀ analyzer ∈ [Analyzer.types, Analyzer.functions], analyzer ∈ Analyzer.all) ∧
      Detect.Settled ⟨"a.ts", {}, Text.similarity⟩
        [Hunk.wholeFile "function f(a) {}" "function f() {}" "a.ts"]
        (detectChanges [Analyzer.types, Analyzer.functions] ⟨"a.ts", {}, Text.similarity⟩
          [Hunk.wholeFile "function f(a) {}" "function f() {}" "a.ts"]
          ⟨"function f(a) {}", none, _, rfl⟩ ⟨"function f() {}", none, _, rfl⟩) := by
  have hlisted : ∀ analyzer ∈ [Analyzer.types, Analyzer.functions], analyzer ∈ Analyzer.all := by
    simp [Analyzer.all, Analyzer.core]
  exact ⟨hlisted, (detectChanges_settled hlisted _ _ _ _).1⟩

end ChangeLens
