import ChangeLens.Proofs.Folding
import ChangeLens.Proofs.Relocation
import ChangeLens.Text.Distance

/-!
# `ChangeLens.Proofs.SelfComparison`: a file compared with itself

An unchanged file is moved code that stays where it is, so `ChangeLens.Proofs.Relocation` applies to
it: only classes and interfaces, of which the last one of a name is looked up, can be reported. The
coarser checks of signatures look functions up in the same way, and heads in the text first against
last. `Model.FunctionsAgree` and `Model.HeadsAgree` say when such a look-up finds no difference.

`detectChanges_self_iff` proves that nothing is reported about an unchanged file exactly if these two,
`Model.ClassesAgree` and `Model.InterfacesAgree` hold, each as far as its kind is enabled, unless a
call cannot be matched with the patterns of side effects: then nothing is reported anyway.
-/

set_option autoImplicit false

namespace ChangeLens

/-! ### Analyzers -/

namespace Analyzer

/-- A call stands near itself, so no call counts as new. -/
theorem compareSideEffects_self {target : Target} {model : Model} {records : List Record}
    (h : compareSideEffects target model model = .ok records) : records = [] := by
  rw [List.eq_nil_iff_forall_not_mem]
  intro record hrecord
  obtain ⟨call, hcall, part, hpart, hmem⟩ := exists_of_mem_flatMapM h hrecord
  obtain ⟨configured, -, rfl⟩ := sideEffectChanges_eq_ok hpart
  have hnear : model.calls.any (isNear call) = true := by
    refine List.any_eq_true.2 ⟨call, hcall, ?_⟩
    simp [isNear, sideEffectWindow]
  rw [hnear, Bool.not_true, Bool.and_false] at hmem
  cases hmem

/-- No module is new to an unchanged file, so none has to be matched. -/
theorem not_failsOnImports_self (config : Config) (model : Model) :
    ¬ config.FailsOnImports model model := by
  rintro ⟨site, hsite, hnew, -⟩
  have himported : importsModule (valueImports model) site.moduleName = true :=
    List.any_eq_true.2 ⟨site, hsite, beq_self_eq_true _⟩
  rw [himported] at hnew
  cases hnew

/-- On equal versions only two analyzers can find anything. -/
theorem findings_self {analyzer : Analyzer} (h : analyzer ∈ all) (target : Target) (model : Model) :
    analyzer = classes ∨ analyzer = interfaces ∨ analyzer.findings target model model = [] := by
  rcases compare_moved h (Model.Moved.refl model) target with rfl | rfl | rfl | hsilent
  · exact Or.inl rfl
  · exact Or.inr (Or.inl rfl)
  · refine Or.inr (Or.inr ?_)
    show (compareSideEffects target model model).toOption.getD [] = []
    cases hresult : compareSideEffects target model model with
    | error fault => rfl
    | ok records => exact compareSideEffects_self hresult
  · rw [findings, hsilent]
    exact Or.inr (Or.inr rfl)

end Analyzer

/-! ### Signatures -/

/-- Named functions that share their identity or their name have equally many parameters. -/
def Model.FunctionsAgree (model : Model) : Prop :=
  ∀ a ∈ model.namedFunctions, ∀ b ∈ model.namedFunctions,
    a.identity = b.identity ∨ a.name = b.name → a.parameters.length = b.parameters.length

/-- The first and the last function head of a name in the text have equally many parameters. -/
def Model.HeadsAgree (model : Model) : Prop :=
  ∀ name first last,
    ((Detect.parameterCounts model.text).find? fun head => head.1 == name) = some first →
      lastWith? Prod.fst name (Detect.parameterCounts model.text) = some last → first.2 = last.2

namespace Detect

open ChangeLens.Analyzer

/-- Where all functions of a key are compared with the last one, none differs exactly if all of them
agree. -/
theorem countChanges_self_eq_nil {target : Target} {key : FunctionSite → String} {model : Model} :
    countChanges target key model model = [] ↔
      ∀ a ∈ model.namedFunctions, ∀ b ∈ model.namedFunctions,
        key a = key b → a.parameters.length = b.parameters.length := by
  rw [countChanges_eq_nil]
  constructor
  · intro hagree a ha b hb hkey
    -- Both are compared with the last function of their key.
    obtain ⟨last, hlast⟩ := exists_lastWith? key ha
    exact (hagree a ha last hlast).symm.trans (hagree b hb last (hkey ▸ hlast))
  · intro hagree after hafter before hbefore
    obtain ⟨hmem, hkey⟩ := lastWith?_eq_some hbefore
    exact hagree before hmem after hafter hkey

/-- The coarser checks stay silent exactly if each of the three does. -/
theorem fallbacks_self_eq_nil (target : Target) {model : Model} :
    fallbacks target model model [] = [] ↔ model.FunctionsAgree ∧ model.HeadsAgree := by
  have htext : byText target model.text model.text = [] ↔ model.HeadsAgree := byText_eq_nil
  rw [fallbacks_eq_nil rfl, byIdentity, byName, countChanges_self_eq_nil, countChanges_self_eq_nil,
    htext, ← and_assoc]
  refine and_congr_left fun _ => ⟨?_, ?_⟩
  · rintro ⟨hidentity, hname⟩ a ha b hb hsame
    exact hsame.elim (hidentity a ha b hb) (hname a ha b hb)
  · intro hagree
    exact ⟨fun a ha b hb hsame => hagree a ha b hb (Or.inl hsame),
      fun a ha b hb hsame => hagree a ha b hb (Or.inr hsame)⟩

/-! ### The whole file -/

/-- An analyzer of the core structure that reports a single kind: as this kind belongs to the core
structure too, the analyzer runs whenever the kind is enabled. -/
theorem disabled_iff_of_sole_kind {analyzer : Analyzer} {kind : ChangeKind} {target : Target}
    {base head : Model} (hgroup : analyzer.group = some .coreStructural)
    (hkind : kind.group? = some .coreStructural)
    (hsole : ∀ record ∈ analyzer.findings target base head, record.kind = kind) :
    (analyzer.runsUnder target.config = true →
        ∀ record ∈ analyzer.findings target base head,
          target.config.kindEnabled record.kind = false) ↔
      (target.config.kindEnabled kind = true → analyzer.findings target base head = []) := by
  have hruns (henabled : target.config.kindEnabled kind = true) :
      analyzer.runsUnder target.config = true := by
    have hon : target.config.groupEnabled .coreStructural = true := by
      cases hon : target.config.groupEnabled .coreStructural with
      | true => rfl
      | false =>
        rw [Config.kindEnabled_of_group hkind hon] at henabled
        cases henabled
    rw [runsUnder, hgroup]
    simp [hon]
  constructor
  · intro hdisabled henabled
    rw [List.eq_nil_iff_forall_not_mem]
    intro record hrecord
    have hoff := hdisabled (hruns henabled) record hrecord
    rw [hsole record hrecord, henabled] at hoff
    cases hoff
  · intro hnil _ record hrecord
    rw [hsole record hrecord, Bool.eq_false_iff]
    intro henabled
    rw [hnil henabled] at hrecord
    cases hrecord

/-- What the other analyzers find in an unchanged file comes from two of them. -/
theorem forall_otherFindings_self {target : Target} {model : Model} {p : Record → Prop} :
    (∀ record ∈ otherFindings all target model model, p record) ↔
      (classes.runsUnder target.config = true → ∀ record ∈ classes.findings target model model,
        p record) ∧
      (interfaces.runsUnder target.config = true →
        ∀ record ∈ interfaces.findings target model model, p record) := by
  constructor
  · intro hall
    refine ⟨fun hruns record hrecord => ?_, fun hruns record hrecord => ?_⟩
    · exact hall record (mem_findingsOf.2
        ⟨classes, by simp [all, structural], hruns, by decide, hrecord⟩)
    · exact hall record (mem_findingsOf.2
        ⟨interfaces, by simp [all, structural], hruns, by decide, hrecord⟩)
  · rintro ⟨hclasses, hinterfaces⟩ record hrecord
    obtain ⟨analyzer, hanalyzer, hruns, -, hfound⟩ := mem_findingsOf.1 hrecord
    rcases findings_self hanalyzer target model with rfl | rfl | hnil
    · exact hclasses hruns record hfound
    · exact hinterfaces hruns record hfound
    · rw [hnil] at hfound
      cases hfound

/-- What is found in an unchanged file is disabled exactly if classes, interfaces and signatures
agree as far as they are enabled. -/
theorem found_self_disabled {target : Target} {model : Model} :
    (∀ record ∈ signatureFindings all target model model ++ otherFindings all target model model,
        target.config.kindEnabled record.kind = false) ↔
      (target.config.kindEnabled .classStructureChanged = true → model.ClassesAgree) ∧
      (target.config.kindEnabled .interfaceModified = true → model.InterfacesAgree) ∧
      (target.config.kindEnabled .functionSignatureChanged = true →
        model.FunctionsAgree ∧ model.HeadsAgree) := by
  have hsignature : signatureFindings all target model model = fallbacks target model model [] := by
    rw [signatureFindings, functionFindings_all, compareFunctions_moved (Model.Moved.refl model)]
    rfl
  have hfallbacks : (∀ record ∈ fallbacks target model model [],
      target.config.kindEnabled record.kind = false) ↔
        (target.config.kindEnabled .functionSignatureChanged = true →
          model.FunctionsAgree ∧ model.HeadsAgree) := by
    rw [← fallbacks_self_eq_nil target, List.eq_nil_iff_forall_not_mem]
    constructor
    · intro hdisabled henabled record hrecord
      have hoff := hdisabled record hrecord
      rw [fallbacks_kind hrecord, henabled] at hoff
      cases hoff
    · intro hnil record hrecord
      rw [fallbacks_kind hrecord, Bool.eq_false_iff]
      exact fun henabled => hnil henabled record hrecord
  have hclasses (record : Record) (hrecord : record ∈ classes.findings target model model) :
      record.kind = .classStructureChanged :=
    List.mem_singleton.1 (compareClasses_keeps target model model record hrecord).kind_mem
  have hinterfaces (record : Record) (hrecord : record ∈ interfaces.findings target model model) :
      record.kind = .interfaceModified :=
    List.mem_singleton.1 (compareInterfaces_keeps target model model record hrecord).kind_mem
  rw [hsignature, List.forall_mem_append, hfallbacks, forall_otherFindings_self,
    disabled_iff_of_sole_kind rfl rfl hclasses, disabled_iff_of_sole_kind rfl rfl hinterfaces,
    show classes.findings target model model = compareClasses target model model from rfl,
    show interfaces.findings target model model = compareInterfaces target model model from rfl,
    compareClasses_moved (Model.Moved.refl model), compareInterfaces_moved (Model.Moved.refl model),
    and_comm, and_assoc]

end Detect

/-- Nothing is reported about an unchanged file, whatever the hunks are, exactly if classes and
interfaces of one name agree with the last one, and functions and function heads of one name in
their number of parameters, each as far as its kind is enabled, or if a call cannot be matched with
the patterns of side effects, and so the comparison breaks down. -/
theorem detectChanges_self_iff (target : Target) (source : Source) :
    let model := Model.ofSource source (dialectForPath target.path)
    (∀ hunks, detectChanges Analyzer.all target hunks source source = []) ↔
      (Analyzer.sideEffects.runsUnder target.config = true ∧ target.config.FailsOnCalls model) ∨
      (target.config.kindEnabled .classStructureChanged = true → model.ClassesAgree) ∧
      (target.config.kindEnabled .interfaceModified = true → model.InterfacesAgree) ∧
      (target.config.kindEnabled .functionSignatureChanged = true →
        model.FunctionsAgree ∧ model.HeadsAgree) := by
  intro model
  have hcompletes : Detect.Completes Analyzer.all target model model ↔
      ¬ (Analyzer.sideEffects.runsUnder target.config = true ∧
        target.config.FailsOnCalls model) := by
    rw [Detect.completes_all_iff,
      and_iff_right (Analyzer.not_failsOnImports_self target.config model), not_and]
  show (∀ hunks, Detect.changes Analyzer.all target hunks model model = []) ↔ _
  by_cases hbreaks : Analyzer.sideEffects.runsUnder target.config = true ∧
      target.config.FailsOnCalls model
  · have hnil := Detect.changes_eq_nil (mt hcompletes.1 (not_not.2 hbreaks))
    exact ⟨fun _ => Or.inl hbreaks, fun _ => hnil⟩
  · simp only [Detect.changes_of_completes (hcompletes.2 hbreaks)]
    rw [Detect.forall_fold_eq_nil, Detect.found_self_disabled, or_iff_right hbreaks]

/-- A text that declares one interface in two parts. -/
def mergedSource : Source :=
  .ofRows "interface A \x7b a \x7d\ninterface A \x7b b \x7d"
    [⟨"program", "", true, 0, 35, 2⟩, ⟨"interface_declaration", "", true, 0, 17, 3⟩,
     ⟨"interface", "", false, 0, 9, 0⟩, ⟨"type_identifier", "name", true, 10, 11, 0⟩,
     ⟨"interface_body", "body", true, 12, 17, 3⟩, ⟨"\x7b", "", false, 12, 13, 0⟩,
     ⟨"property_signature", "", true, 14, 15, 1⟩, ⟨"property_identifier", "name", true, 14, 15, 0⟩,
     ⟨"\x7d", "", false, 16, 17, 0⟩, ⟨"interface_declaration", "", true, 18, 35, 3⟩,
     ⟨"interface", "", false, 18, 27, 0⟩, ⟨"type_identifier", "name", true, 28, 29, 0⟩,
     ⟨"interface_body", "body", true, 30, 35, 3⟩, ⟨"\x7b", "", false, 30, 31, 0⟩,
     ⟨"property_signature", "", true, 32, 33, 1⟩, ⟨"property_identifier", "name", true, 32, 33, 0⟩,
     ⟨"\x7d", "", false, 34, 35, 0⟩]

/-- An interface in two parts is reported as changed although nothing changed. -/
theorem mergedInterface_reported :
    detectChanges Analyzer.all ⟨"a.ts", {}, Text.similarity⟩ [] mergedSource mergedSource ≠ [] := by
  intro hnil
  obtain ⟨record, hrecord, hkind⟩ : ∃ record ∈
      Analyzer.interfaces.findings ⟨"a.ts", {}, Text.similarity⟩
        (Model.ofSource mergedSource (dialectForPath "a.ts"))
        (Model.ofSource mergedSource (dialectForPath "a.ts")), record.kind = .interfaceModified :=
    ⟨_, List.mem_of_mem_head? rfl, rfl⟩
  have hlisted : Analyzer.interfaces ∈ Analyzer.all := by
    simp [Analyzer.all, Analyzer.structural]
  have hkey := Detect.mem_keys_detectChanges
    (Detect.completes_of_texts (fun _ h => h) ⟨_, rfl⟩ ⟨[], rfl⟩ _ _) hlisted rfl hrecord
    (by rw [hkind]; rfl) fun h : [] ≠ [] => absurd rfl h
  rw [hnil] at hkey
  cases hkey

end ChangeLens
