import ChangeLens.Proofs.Settled
import ChangeLens.Proofs.Skipping
import ChangeLens.Text.Distance

/-!
# `ChangeLens.Proofs.Inference`: the inferred signature change and the test gate

When something other than functions has changed and no changed signature is reported, one is
inferred. `Detect.fold` decides this on the records that are left after duplicates are gone, with
the keys that the analyzers produced before the policy. Duplicates do not matter for this
(`Detect.infers_iff`), so the decision can be stated in terms of what policy and hunks admit.

`detectChanges_inferred` is the main result. Whatever else a configuration says, a reported finding
of another analyzer comes with a changed signature, so that tests are required where signatures
always require them; and it says exactly when this changed signature is the inferred one.
-/

set_option autoImplicit false

namespace ChangeLens

namespace Config

/-- A record whose kind always requires tests does so, whatever the other rules say. -/
theorem requiresTests_of_always {config : Config} {records : List Record} {record : Record}
    (hrecord : record ∈ records) (halways : record.kind ∈ config.tests.always) :
    config.requiresTests records = true := by
  refine List.any_eq_true.2 ⟨record, hrecord, ?_⟩
  rw [changeRequiresTests, if_pos (List.contains_iff_mem.2 halways)]

end Config

namespace Detect

/-! ### Seen or inferred -/

/-- A reported record with the key of another finding comes with a changed signature, seen or
inferred. -/
theorem exists_signature_of_mem_fold {target : Target} {hunks : List Hunk}
    {aboutFunctions others : List Record}
    (henabled : target.config.kindEnabled .functionSignatureChanged = true) {record : Record}
    (hrecord : record ∈ fold target hunks aboutFunctions others)
    (hkey : record.key ∈ others.map Record.key) :
    ∃ signature ∈ fold target hunks aboutFunctions others,
      signature.kind = .functionSignatureChanged := by
  cases hinfers : infers target hunks aboutFunctions others with
  | true =>
    refine ⟨target.config.regrade (inferredChange target), ?_, rfl⟩
    exact mem_fold.2 (Or.inr ⟨hinfers, mem_inferredRecord.2 ⟨henabled, rfl⟩⟩)
  | false =>
    -- The record survived, so only a signature that was seen can have kept one from being inferred.
    have hsurvives : record ∈ surviving target hunks (aboutFunctions ++ others) := by
      rcases mem_fold.1 hrecord with hrecord | ⟨htrue, -⟩
      · exact hrecord
      · rw [hinfers] at htrue
        cases htrue
    have hany : ((surviving target hunks (aboutFunctions ++ others)).any
        fun record => (others.map Record.key).contains record.key) = true :=
      List.any_eq_true.2 ⟨record, hsurvives, List.contains_iff_mem.2 hkey⟩
    rw [infers, hany, Bool.and_true, Bool.not_eq_false', hasSignatureChange,
      List.any_eq_true] at hinfers
    obtain ⟨signature, hsignature, hkind⟩ := hinfers
    exact ⟨signature, mem_fold.2 (Or.inl hsignature), eq_of_beq hkind⟩

/-! ### In terms of analyzers -/

open ChangeLens.Analyzer

/-- A running analyzer other than that of functions finds a record with this key. -/
def FoundElsewhere (analyzers : List Analyzer) (target : Target) (base head : Model)
    (key : RecordKey) : Prop :=
  ∃ analyzer ∈ analyzers, analyzer.runsUnder target.config = true ∧ analyzer.name ≠ "functions" ∧
    ∃ found ∈ analyzer.findings target base head, found.key = key

/-- The keys of what is found about anything but functions. -/
theorem mem_keys_otherFindings {analyzers : List Analyzer} {target : Target} {base head : Model}
    {key : RecordKey} :
    key ∈ (otherFindings analyzers target base head).map Record.key ↔
      FoundElsewhere analyzers target base head key := by
  simp only [List.mem_map, otherFindings, mem_findingsOf, FoundElsewhere, Bool.not_eq_true',
    beq_eq_false_iff_ne]
  constructor
  · rintro ⟨found, ⟨analyzer, hlisted, hruns, hname, hfound⟩, hkey⟩
    exact ⟨analyzer, hlisted, hruns, hname, found, hfound, hkey⟩
  · rintro ⟨analyzer, hlisted, hruns, hname, found, hfound, hkey⟩
    exact ⟨found, ⟨analyzer, hlisted, hruns, hname, hfound⟩, hkey⟩

/-- What policy and hunks admit of everything that is found between two models; nothing when an
analyzer breaks down. -/
def admittedChanges (analyzers : List Analyzer) (target : Target) (hunks : List Hunk)
    (base head : Model) : List Record :=
  match runAnalyzers analyzers target base head with
  | none => []
  | some (aboutFunctions, others) =>
    admitted target hunks (aboutFunctions ++ fallbacks target base head aboutFunctions ++ others)

/-- What is admitted when all analyzers get through. -/
theorem admittedChanges_of_completes {analyzers : List Analyzer} {target : Target}
    {base head : Model} (h : Completes analyzers target base head) (hunks : List Hunk) :
    admittedChanges analyzers target hunks base head =
      admitted target hunks
        (signatureFindings analyzers target base head ++
          otherFindings analyzers target base head) := by
  rw [admittedChanges, runAnalyzers_of_completes h]
  rfl

/-- Nothing is admitted when one of them breaks down. -/
theorem admittedChanges_eq_nil {analyzers : List Analyzer} {target : Target} {base head : Model}
    (h : ¬ Completes analyzers target base head) (hunks : List Hunk) :
    admittedChanges analyzers target hunks base head = [] := by
  rw [admittedChanges, runAnalyzers_eq_none h]

/-- The inferred record is reported exactly if it is added: nothing that is found looks like it. -/
theorem inferred_mem_changes_iff {analyzers : List Analyzer}
    (h : ∀ analyzer ∈ analyzers, analyzer ∈ all) {target : Target} {hunks : List Hunk}
    {base head : Model} :
    target.config.regrade (inferredChange target) ∈ changes analyzers target hunks base head ↔
      target.config.kindEnabled .functionSignatureChanged = true ∧
        (∀ record ∈ admittedChanges analyzers target hunks base head,
          record.kind ≠ .functionSignatureChanged) ∧
        ∃ record ∈ admittedChanges analyzers target hunks base head,
          FoundElsewhere analyzers target base head record.key := by
  by_cases hcompletes : Completes analyzers target base head
  · simp only [← mem_keys_otherFindings]
    rw [changes_of_completes hcompletes, admittedChanges_of_completes hcompletes, mem_fold,
      infers_iff, mem_inferredRecord, and_iff_left rfl,
      and_comm (a := target.config.kindEnabled .functionSignatureChanged = true)]
    refine or_iff_right fun hsurvives => ?_
    obtain ⟨⟨found, hfound, -, heq⟩, -⟩ := mem_surviving hsurvives
    exact found_ne_inferred h hfound heq
  · -- Nothing is reported, and nothing is admitted either.
    rw [changes_eq_nil hcompletes, admittedChanges_eq_nil hcompletes]
    simp

end Detect

/-- Where signatures are enabled and always require tests, a reported finding of an analyzer other
than that of functions means that a changed signature is reported and tests are required. The
inferred record is reported exactly if signatures are enabled, no changed one is admitted, and some
admitted record has the key of such a finding. -/
theorem detectChanges_inferred {analyzers : List Analyzer}
    (h : ∀ analyzer ∈ analyzers, analyzer ∈ Analyzer.all) (target : Target) (hunks : List Hunk)
    (base head : Source) :
    let before := Model.ofSource base (dialectForPath target.path)
    let after := Model.ofSource head (dialectForPath target.path)
    let reported := detectChanges analyzers target hunks base head
    let admitted := Detect.admittedChanges analyzers target hunks before after
    (target.config.kindEnabled .functionSignatureChanged = true →
      ChangeKind.functionSignatureChanged ∈ target.config.tests.always →
        (∃ record ∈ reported, Detect.FoundElsewhere analyzers target before after record.key) →
          (∃ record ∈ reported, record.kind = .functionSignatureChanged) ∧
            target.config.requiresTests reported = true) ∧
      (target.config.regrade (Detect.inferredChange target) ∈ reported ↔
        target.config.kindEnabled .functionSignatureChanged = true ∧
          (∀ record ∈ admitted, record.kind ≠ .functionSignatureChanged) ∧
          ∃ record ∈ admitted, Detect.FoundElsewhere analyzers target before after record.key) := by
  intro before after reported admitted
  refine ⟨fun henabled halways ⟨record, hrecord, helsewhere⟩ => ?_,
    Detect.inferred_mem_changes_iff h⟩
  obtain ⟨signature, hsignature, hkind⟩ :
      ∃ signature ∈ reported, signature.kind = .functionSignatureChanged := by
    have hreported : reported = Detect.changes analyzers target hunks before after := rfl
    rcases Detect.changes_cases analyzers target hunks before after with
      ⟨-, hchanges⟩ | ⟨-, hnil⟩
    · rw [hreported, hchanges] at hrecord ⊢
      exact Detect.exists_signature_of_mem_fold henabled hrecord
        (Detect.mem_keys_otherFindings.2 helsewhere)
    · rw [hreported, hnil] at hrecord
      cases hrecord
  exact ⟨⟨signature, hsignature, hkind⟩,
    Config.requiresTests_of_always hsignature (hkind ▸ halways)⟩

/-- A new effect, which the analyzer of hooks finds, requires tests under the default
configuration. -/
theorem detectChanges_inferred_effect :
    (∀ analyzer ∈ [Analyzer.hooks], analyzer ∈ Analyzer.all) ∧
      (∃ record ∈ detectChanges [Analyzer.hooks] ⟨"a.tsx", {}, Text.similarity⟩ [] Detect.bareSource
          Detect.effectSource, record.kind = .functionSignatureChanged) ∧
      Config.requiresTests {} (detectChanges [Analyzer.hooks] ⟨"a.tsx", {}, Text.similarity⟩ []
        Detect.bareSource Detect.effectSource) = true := by
  have hlisted : ∀ analyzer ∈ [Analyzer.hooks], analyzer ∈ Analyzer.all := by
    simp [Analyzer.all, Analyzer.structural]
  obtain ⟨record, hrecord, hkind⟩ : ∃ record ∈
      Analyzer.hooks.findings ⟨"a.tsx", {}, Text.similarity⟩
        (Model.ofSource Detect.bareSource (dialectForPath "a.tsx"))
        (Model.ofSource Detect.effectSource (dialectForPath "a.tsx")), record.kind = .effectAdded :=
    ⟨_, List.mem_of_mem_head? rfl, rfl⟩
  have hkey := Detect.mem_keys_detectChanges
    (Detect.completes_of_texts hlisted ⟨_, rfl⟩ ⟨[], rfl⟩ _ _) (List.mem_singleton_self _) rfl
    hrecord (by rw [hkind]; rfl) fun h : [] ≠ [] => absurd rfl h
  obtain ⟨reported, hreported, heq⟩ := List.mem_map.1 hkey
  exact ⟨hlisted, (detectChanges_inferred hlisted _ _ _ _).1 rfl (by decide)
    ⟨reported, hreported, Analyzer.hooks, List.mem_singleton_self _, rfl, by decide, record,
      hrecord, heq.symm⟩⟩

end ChangeLens
