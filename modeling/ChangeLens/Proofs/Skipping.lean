import ChangeLens.Proofs.Folding
import ChangeLens.Text.Distance

/-!
# `ChangeLens.Proofs.Skipping`: when leaving out disabled analyzers changes nothing

An analyzer is skipped because its group is disabled, and a record is dropped because the group of
its kind is disabled. The two agree as long as an analyzer reports into its own group.
`foreign_kinds` lists all exceptions among the analyzers that can be skipped: effects belong to the
asynchronous patterns but are found by the analyzer of hooks, and rendering logic and event handlers
have a group of their own but are found by the analyzer of markup.

`detectChanges_skipping_iff` proves that these exceptions are all there is to it: skipping is
invisible for every file exactly if the configuration does not enable such a kind while it disables
the analyzer that finds it (`Config.SkippingLoses`). That holds for patterns that are texts. Where a
call cannot be matched, the analyzer of side effects breaks down unless it is skipped
(`Config.SkippingSaves`), and then the run without skipping reports nothing.
-/

set_option autoImplicit false

namespace ChangeLens

/-! ### The two configurations -/

namespace Config

/-- The configuration with the switch for skipping set. -/
def withSkipping (config : Config) (skips : Bool) : Config :=
  { config with performance := { config.performance with skipDisabledAnalyzers := .switch skips } }

/-- Skipping loses records: the group of an analyzer is disabled, and a kind that only this analyzer
reports, and that belongs elsewhere, is enabled. -/
def SkippingLoses (config : Config) : Prop :=
  config.groupEnabled .reactHooks = false ∧
      (config.kindEnabled .effectAdded = true ∨ config.kindEnabled .effectRemoved = true) ∨
    config.groupEnabled .jsxRendering = false ∧ config.markup.enabled.isOn = true ∧
      config.markup.ignoreLogicChanges.isOn = false ∧
      (config.kindEnabled .jsxLogicAdded = true ∨ config.kindEnabled .eventHandlerChanged = true)

/-- Skipping saves the comparison: the analyzer of side effects, which would break down, is left
out. -/
def SkippingSaves (config : Config) (head : Model) : Prop :=
  config.groupEnabled .sideEffects = false ∧ config.FailsOnCalls head

end Config

/-- The same file under the configuration with the switch set. -/
def Target.withSkipping (target : Target) (skips : Bool) : Target :=
  { target with config := target.config.withSkipping skips }

namespace Analyzer

/-- The findings of an analyzer do not depend on the switch. -/
theorem findings_withSkipping {analyzer : Analyzer} (h : analyzer ∈ all) (target : Target)
    (skips : Bool) (base head : Model) :
    analyzer.findings (target.withSkipping skips) base head =
      analyzer.findings target base head := by
  have hcompare : analyzer.compare (target.withSkipping skips) base head =
      analyzer.compare target base head := by
    refine compare_congr h ?_ ?_ ?_ base head
    all_goals rfl
  rw [findings, findings, hcompare]

end Analyzer

namespace Detect

/-- The stages after the analyzers do not read the switch. -/
theorem fold_withSkipping (target : Target) (skips : Bool) (hunks : List Hunk)
    (aboutFunctions others : List Record) :
    fold (target.withSkipping skips) hunks aboutFunctions others =
      fold target hunks aboutFunctions others :=
  rfl

/-! ### Only enabled kinds matter -/

/-- To look for the key of a record of an enabled kind, records of enabled kinds are enough, because
a key holds the kind. -/
theorem mem_keys_enabled {config : Config} {records : List Record} {record : Record}
    (henabled : config.kindEnabled record.kind = true) :
    record.key ∈ (records.filter fun other => config.kindEnabled other.kind).map Record.key ↔
      record.key ∈ records.map Record.key := by
  simp only [List.mem_map, List.mem_filter]
  constructor
  · rintro ⟨other, ⟨hother, -⟩, hkey⟩
    exact ⟨other, hother, hkey⟩
  · rintro ⟨other, hother, hkey⟩
    have hkind : other.kind = record.kind := congrArg RecordKey.kind hkey
    exact ⟨other, ⟨hother, hkind ▸ henabled⟩, hkey⟩

/-- The fold sees of the other records only those of enabled kinds. -/
theorem fold_congr {target : Target} {hunks : List Hunk}
    {aboutFunctions others others' : List Record}
    (h : (others.filter fun record => target.config.kindEnabled record.kind) =
      others'.filter fun record => target.config.kindEnabled record.kind) :
    fold target hunks aboutFunctions others = fold target hunks aboutFunctions others' := by
  have hallowed : target.config.applyPolicy (aboutFunctions ++ others) =
      target.config.applyPolicy (aboutFunctions ++ others') := by
    rw [Config.applyPolicy_append, Config.applyPolicy_append, Config.applyPolicy,
      Config.applyPolicy, Config.applyPolicy, h]
  have hsurviving : surviving target hunks (aboutFunctions ++ others) =
      surviving target hunks (aboutFunctions ++ others') := by
    rw [surviving, surviving, hallowed]
  -- Whether a signature is inferred depends on the keys of surviving records, which are enabled.
  have hinfers : infers target hunks aboutFunctions others =
      infers target hunks aboutFunctions others' := by
    simp only [infers, hsurviving]
    refine congrArg _ (Bool.eq_iff_iff.2 ?_)
    simp only [List.any_eq_true, List.contains_iff_mem]
    refine exists_congr fun record => and_congr_right fun hrecord => ?_
    obtain ⟨⟨found, -, henabled, rfl⟩, -⟩ := mem_surviving hrecord
    rw [Config.regrade_key, ← mem_keys_enabled henabled, h, mem_keys_enabled henabled]
  rw [fold_eq, fold_eq, hsurviving, hinfers]

end Detect

/-! ### Skipped analyzers -/

namespace Analyzer

/-- Who runs, in terms of the switch. -/
theorem runsUnder_withSkipping (analyzer : Analyzer) (config : Config) (skips : Bool) :
    analyzer.runsUnder (config.withSkipping skips) =
      if coreNames.contains analyzer.name then true
      else if analyzer.group == some .jsxRendering && !config.markup.enabled.isOn then false
      else
        match analyzer.group with
        | none => true
        | some group => !skips || config.groupEnabled group :=
  rfl

/-- The switch matters only for an analyzer outside the core whose group is disabled. -/
theorem group_of_skipped {analyzer : Analyzer} {config : Config}
    (h : analyzer.runsUnder (config.withSkipping true) ≠
      analyzer.runsUnder (config.withSkipping false)) :
    coreNames.contains analyzer.name = false ∧
      ∃ group, analyzer.group = some group ∧ config.groupEnabled group = false := by
  rw [runsUnder_withSkipping, runsUnder_withSkipping] at h
  split at h
  · exact absurd rfl h
  · rename_i hcore
    refine ⟨by simpa using hcore, ?_⟩
    split at h
    · exact absurd rfl h
    · cases hgroup : analyzer.group with
      | none => simp [hgroup] at h
      | some group => exact ⟨group, rfl, by simpa [hgroup] using h⟩

/-- The kinds that an analyzer reports outside its group. -/
def foreignKinds (entry : Analyzer × Coverage) : List ChangeKind :=
  (entry.2.kinds.filter fun kind => kind.group? != entry.1.group).eraseDups

/-- All kinds that an analyzer with a group, outside the core, reports into another one. -/
theorem foreign_kinds :
    ((coverages.filter fun entry =>
      !coreNames.contains entry.1.name && entry.1.group.isSome).flatMap
        fun entry => (foreignKinds entry).map fun kind => (entry.1, kind)) =
      [(hooks, .effectAdded), (hooks, .effectRemoved), (markup, .jsxLogicAdded),
       (markup, .eventHandlerChanged)] :=
  rfl

/-- What a skipped analyzer finds is disabled, unless skipping loses something. -/
theorem disabled_of_skipped {target : Target} (hloses : ¬ target.config.SkippingLoses)
    {analyzer : Analyzer} (h : analyzer ∈ all)
    (hskipped : analyzer.runsUnder (target.config.withSkipping true) ≠
      analyzer.runsUnder (target.config.withSkipping false))
    {base head : Model} {record : Record} (hrecord : record ∈ analyzer.findings target base head) :
    target.config.kindEnabled record.kind = false := by
  obtain ⟨coverage, hentry⟩ := exists_coverage h
  have hmem := (allows_of_mem_findings hentry hrecord).kind_mem
  obtain ⟨hcore, group, hgroup, hdisabled⟩ := group_of_skipped hskipped
  by_cases hkind : record.kind.group? = some group
  · exact Config.kindEnabled_of_group hkind hdisabled
  rw [Bool.eq_false_iff]
  intro henabled
  -- The kind is foreign to the analyzer, so it is one of the four exceptions.
  have hforeign : (analyzer, record.kind) ∈ ((coverages.filter fun entry =>
      !coreNames.contains entry.1.name && entry.1.group.isSome).flatMap
        fun entry => (foreignKinds entry).map fun kind => (entry.1, kind)) := by
    refine List.mem_flatMap.2 ⟨(analyzer, coverage), ?_, List.mem_map_of_mem ?_⟩
    · exact List.mem_filter.2 ⟨hentry, by rw [hcore, hgroup]; rfl⟩
    · rw [foreignKinds, List.mem_eraseDups, List.mem_filter]
      exact ⟨hmem, by simpa [hgroup] using hkind⟩
  have hmarkup (hanalyzer : analyzer = markup) (hlogic : record.kind ∉ elementCoverage.kinds) :
      target.config.groupEnabled .jsxRendering = false ∧
        target.config.markup.enabled.isOn = true ∧
        target.config.markup.ignoreLogicChanges.isOn = false := by
    subst hanalyzer
    obtain ⟨hon, helement | ⟨hoff, -⟩⟩ := mem_compareMarkup hrecord
    · exact absurd (compareElements_keeps _ base head record helement).kind_mem hlogic
    · cases hgroup
      exact ⟨hdisabled, hon, hoff⟩
  rw [foreign_kinds] at hforeign
  simp only [List.mem_cons, List.not_mem_nil, or_false, Prod.mk.injEq] at hforeign
  rcases hforeign with ⟨rfl, heq⟩ | ⟨rfl, heq⟩ | ⟨hanalyzer, heq⟩ | ⟨hanalyzer, heq⟩
  · cases hgroup
    exact hloses (Or.inl ⟨hdisabled, Or.inl (heq ▸ henabled)⟩)
  · cases hgroup
    exact hloses (Or.inl ⟨hdisabled, Or.inr (heq ▸ henabled)⟩)
  · obtain ⟨hrendering, hon, hoff⟩ := hmarkup hanalyzer (by rw [heq]; decide)
    exact hloses (Or.inr ⟨hrendering, hon, hoff, Or.inl (heq ▸ henabled)⟩)
  · obtain ⟨hrendering, hon, hoff⟩ := hmarkup hanalyzer (by rw [heq]; decide)
    exact hloses (Or.inr ⟨hrendering, hon, hoff, Or.inr (heq ▸ henabled)⟩)

end Analyzer

namespace Detect

open ChangeLens.Analyzer

/-- Items that only one of two filters lets through do not matter when they contribute nothing. -/
theorem flatMap_filter_congr {α β : Type} {p q : α → Bool} {f : α → List β} {items : List α}
    (h : ∀ item ∈ items, p item ≠ q item → f item = []) :
    (items.filter p).flatMap f = (items.filter q).flatMap f := by
  induction items with
  | nil => rfl
  | cons item items ih =>
    have hrest := ih fun other hother => h other (List.mem_cons_of_mem _ hother)
    have hitem := h item List.mem_cons_self
    cases hp : p item <;> cases hq : q item <;> simp [hp, hq, hrest] at hitem ⊢
    · exact hitem
    · exact hitem

/-- The findings of enabled kinds do not depend on the switch, unless skipping loses something. -/
theorem enabledFindings_withSkipping {target : Target} (hloses : ¬ target.config.SkippingLoses)
    (base head : Model) :
    ((otherFindings all (target.withSkipping true) base head).filter
        fun record => target.config.kindEnabled record.kind) =
      (otherFindings all (target.withSkipping false) base head).filter
        fun record => target.config.kindEnabled record.kind := by
  -- Either way these are enabled findings of the running analyzers other than that of functions.
  have henabled (skips : Bool) :
      ((otherFindings all (target.withSkipping skips) base head).filter
          fun record => target.config.kindEnabled record.kind) =
        (all.filter fun analyzer => (!analyzer.name == "functions") &&
          analyzer.runsUnder (target.config.withSkipping skips)).flatMap fun analyzer =>
            (analyzer.findings target base head).filter
              fun record => target.config.kindEnabled record.kind := by
    rw [otherFindings, findingsOf, List.filter_filter, List.filter_flatMap, List.flatMap_def,
      List.flatMap_def]
    refine congrArg List.flatten (List.map_congr_left fun analyzer hanalyzer => ?_)
    rw [findings_withSkipping (List.mem_filter.1 hanalyzer).1]
  rw [henabled, henabled]
  -- An analyzer that only one of the two runs has nothing enabled to contribute.
  refine flatMap_filter_congr fun analyzer hanalyzer hdiffers => List.filter_eq_nil_iff.2 ?_
  intro record hrecord
  have hskipped : analyzer.runsUnder (target.config.withSkipping true) ≠
      analyzer.runsUnder (target.config.withSkipping false) :=
    fun hsame => hdiffers (by rw [hsame])
  rw [disabled_of_skipped hloses hanalyzer hskipped hrecord]
  exact Bool.false_ne_true

/-- The analyzers get through with skipping exactly if they do so without, unless skipping saves the
comparison. -/
theorem completes_withSkipping {target : Target} {head : Model}
    (hsaves : ¬ target.config.SkippingSaves head) (base : Model) :
    Completes all (target.withSkipping true) base head ↔
      Completes all (target.withSkipping false) base head := by
  rw [completes_all_iff, completes_all_iff]
  refine and_congr_right fun _ => ?_
  -- Whether the patterns break down does not depend on the switch; whether they are read does.
  have hcalls (skips : Bool) : (target.withSkipping skips).config.FailsOnCalls head ↔
      target.config.FailsOnCalls head := Iff.rfl
  have hruns (skips : Bool) : sideEffects.runsUnder (target.withSkipping skips).config =
      (!skips || target.config.groupEnabled .sideEffects) := rfl
  rw [hcalls, hcalls, hruns, hruns, Bool.not_true, Bool.false_or, Bool.not_false, Bool.true_or]
  unfold Config.SkippingSaves at hsaves
  cases hgroup : target.config.groupEnabled .sideEffects with
  | true => rfl
  | false =>
    have hmatches : ¬ target.config.FailsOnCalls head := fun hfails => hsaves ⟨hgroup, hfails⟩
    simp [hmatches]

/-- Where skipping saves the comparison, nothing is reported without. -/
theorem changes_eq_nil_of_saves (target : Target) {head : Model}
    (hsaves : target.config.SkippingSaves head) (hunks : List Hunk) (base : Model) :
    changes all (target.withSkipping false) hunks base head = [] := by
  refine changes_eq_nil (fun hcompletes => ?_) hunks
  exact (completes_all_iff.1 hcompletes).2 rfl hsaves.2

/-- Skipping changes nothing, unless it loses something or saves the comparison. -/
theorem changes_withSkipping (target : Target) {head : Model}
    (hloses : ¬ target.config.SkippingLoses) (hsaves : ¬ target.config.SkippingSaves head)
    (hunks : List Hunk) (base : Model) :
    changes all (target.withSkipping true) hunks base head =
      changes all (target.withSkipping false) hunks base head := by
  have hsignature (skips : Bool) :
      signatureFindings all (target.withSkipping skips) base head =
        signatureFindings all target base head := by
    rw [signatureFindings, signatureFindings, functionFindings_all, functionFindings_all]
    rfl
  -- Both runs break down or neither does, since skipping saves nothing here.
  by_cases hcompletes : Completes all (target.withSkipping true) base head
  · rw [changes_of_completes hcompletes,
      changes_of_completes ((completes_withSkipping hsaves base).1 hcompletes), hsignature,
      hsignature, fold_withSkipping, fold_withSkipping]
    exact fold_congr (enabledFindings_withSkipping hloses base head)
  · rw [changes_eq_nil hcompletes,
      changes_eq_nil (mt (completes_withSkipping hsaves base).2 hcompletes)]

/-! ### Lost records -/

/-- Skipping the only analyzer that reports an enabled kind shows, wherever it reports it. -/
theorem detectChanges_ne_of_lost {target : Target} {analyzer : Analyzer} {coverage : Coverage}
    {kind : ChangeKind}
    (honly : (coverages.filter fun entry => entry.2.kinds.contains kind) = [(analyzer, coverage)])
    (hsignature : kind ≠ .functionSignatureChanged)
    (henabled : target.config.kindEnabled kind = true)
    (hskipped : analyzer.runsUnder (target.config.withSkipping true) = false)
    (hruns : analyzer.runsUnder (target.config.withSkipping false) = true) {base head : Source}
    (hcompletes : Completes all (target.withSkipping false)
      (Model.ofSource base (dialectForPath target.path))
      (Model.ofSource head (dialectForPath target.path)))
    {record : Record}
    (hrecord : record ∈ analyzer.findings target
      (Model.ofSource base (dialectForPath target.path))
      (Model.ofSource head (dialectForPath target.path)))
    (hkind : record.kind = kind) :
    detectChanges all (target.withSkipping true) [] base head ≠
      detectChanges all (target.withSkipping false) [] base head := by
  intro hsame
  have hanalyzer : (analyzer, coverage) ∈ coverages :=
    (List.mem_filter.1 (honly ▸ List.mem_singleton_self (analyzer, coverage))).1
  have hall : analyzer ∈ all := coverages_analyzers ▸ List.mem_map_of_mem hanalyzer
  -- Without skipping the record is reported, at least under its key.
  have hrecord' : record ∈ analyzer.findings (target.withSkipping false)
      (Model.ofSource base (dialectForPath target.path))
      (Model.ofSource head (dialectForPath target.path)) := by
    rw [findings_withSkipping hall]
    exact hrecord
  have hkey := mem_keys_detectChanges hcompletes hall hruns hrecord' (hkind ▸ henabled)
    fun h : [] ≠ [] => absurd rfl h
  -- With skipping nobody is left to find a record of its kind.
  rw [← hsame] at hkey
  obtain ⟨reported, hreported, hreportedKey⟩ := List.mem_map.1 hkey
  have hreportedKind : reported.kind = kind := (congrArg RecordKey.kind hreportedKey).trans hkind
  obtain ⟨other, hother, hotherRuns, found, hfound, rfl⟩ :=
    found_of_mem_changes hreported (hreportedKind ▸ hsignature)
  obtain ⟨otherCoverage, hentry⟩ := exists_coverage hother
  have hmem : kind ∈ otherCoverage.kinds :=
    hreportedKind ▸ (allows_of_mem_findings hentry hfound).kind_mem
  have hsole : (other, otherCoverage) ∈
      coverages.filter fun entry => entry.2.kinds.contains kind :=
    List.mem_filter.2 ⟨hentry, by simpa using hmem⟩
  rw [honly, List.mem_singleton] at hsole
  cases hsole
  exact Bool.false_ne_true (hskipped.symm.trans hotherRuns)

/-- A text with one effect. -/
def effectSource : Source :=
  .ofRows "useEffect(f)"
    [⟨"program", "", true, 0, 12, 1⟩, ⟨"expression_statement", "", true, 0, 12, 1⟩,
     ⟨"call_expression", "", true, 0, 12, 2⟩, ⟨"identifier", "function", true, 0, 9, 0⟩,
     ⟨"arguments", "arguments", true, 9, 12, 3⟩, ⟨"(", "", false, 9, 10, 0⟩,
     ⟨"identifier", "", true, 10, 11, 0⟩, ⟨")", "", false, 11, 12, 0⟩]

/-- A text with an event handler and rendering on a condition. -/
def renderSource : Source :=
  .ofRows "<a onClick=\x7bf\x7d>\x7bx && y\x7d</a>"
    [⟨"program", "", true, 0, 27, 1⟩, ⟨"expression_statement", "", true, 0, 27, 1⟩,
     ⟨"jsx_element", "", true, 0, 27, 3⟩, ⟨"jsx_opening_element", "open_tag", true, 0, 15, 4⟩,
     ⟨"<", "", false, 0, 1, 0⟩, ⟨"identifier", "name", true, 1, 2, 0⟩,
     ⟨"jsx_attribute", "attribute", true, 3, 14, 3⟩, ⟨"property_identifier", "", true, 3, 10, 0⟩,
     ⟨"=", "", false, 10, 11, 0⟩, ⟨"jsx_expression", "", true, 11, 14, 3⟩,
     ⟨"\x7b", "", false, 11, 12, 0⟩, ⟨"identifier", "", true, 12, 13, 0⟩,
     ⟨"\x7d", "", false, 13, 14, 0⟩, ⟨">", "", false, 14, 15, 0⟩,
     ⟨"jsx_expression", "", true, 15, 23, 3⟩, ⟨"\x7b", "", false, 15, 16, 0⟩,
     ⟨"binary_expression", "", true, 16, 22, 3⟩, ⟨"identifier", "left", true, 16, 17, 0⟩,
     ⟨"&&", "operator", false, 18, 20, 0⟩, ⟨"identifier", "right", true, 21, 22, 0⟩,
     ⟨"\x7d", "", false, 22, 23, 0⟩, ⟨"jsx_closing_element", "close_tag", true, 23, 27, 3⟩,
     ⟨"</", "", false, 23, 25, 0⟩, ⟨"identifier", "name", true, 25, 26, 0⟩,
     ⟨">", "", false, 26, 27, 0⟩]

/-- A text without a tree. -/
def bareSource : Source where
  text := ""
  tree := none
  octets := []

/-- The effect is a hook. -/
theorem effectSource_hooks :
    (Model.ofSource effectSource "tsx").hooks =
      [⟨"useEffect", "useEffect",
        ⟨"useEffect", "useEffect", ⟨1, 0, 1, 12⟩, ["f"], false, false, "", none⟩⟩] := by
  decide +kernel

/-- The effect is new when it comes behind the bare text. -/
theorem exists_addedEffect (target : Target) :
    ∃ record ∈ compareHooks target (Model.ofSource bareSource "tsx")
      (Model.ofSource effectSource "tsx"), record.kind = .effectAdded := by
  rw [compareHooks, effectSource_hooks]
  exact ⟨_, List.mem_of_mem_head? rfl, rfl⟩

/-- It is gone when it comes in front of it. -/
theorem exists_removedEffect (target : Target) :
    ∃ record ∈ compareHooks target (Model.ofSource effectSource "tsx")
      (Model.ofSource bareSource "tsx"), record.kind = .effectRemoved := by
  rw [compareHooks, effectSource_hooks]
  exact ⟨_, List.mem_of_mem_head? rfl, rfl⟩

/-- The condition the markup renders on. -/
theorem renderSource_renders :
    (Model.ofSource renderSource "tsx").renders =
      [⟨.logical, "x&&y", ⟨1, 15, 1, 23⟩⟩] := by
  decide +kernel

/-- Its event handler. -/
theorem renderSource_handlers :
    (Model.ofSource renderSource "tsx").handlers =
      [⟨"a", "onClick", ⟨1, 3, 1, 14⟩, "f", false, 1⟩] := by
  decide +kernel

/-- The condition is new when the markup comes behind the bare text. -/
theorem exists_newRender (target : Target) :
    ∃ record ∈ compareRenders target (Model.ofSource bareSource "tsx")
      (Model.ofSource renderSource "tsx"), record.kind = .jsxLogicAdded := by
  rw [compareRenders, renderSource_renders]
  exact ⟨_, List.mem_of_mem_head? rfl, rfl⟩

/-- So is the handler. -/
theorem exists_newHandler (target : Target) :
    ∃ record ∈ compareHandlers target (Model.ofSource bareSource "tsx")
      (Model.ofSource renderSource "tsx"), record.kind = .eventHandlerChanged := by
  rw [compareHandlers, renderSource_handlers]
  exact ⟨_, List.mem_of_mem_head? rfl, rfl⟩

/-- Markup needs a dialect that has it. -/
theorem dialectForPath_tsx : dialectForPath "a.tsx" = "tsx" := by
  decide +kernel

section Lost

variable (target : Target) (hpath : dialectForPath target.path = "tsx")
  (hcallees : target.config.sideEffectCallees.AreTexts)

include hcallees in
/-- A file without imports has no new modules, so only its calls have to be matched. -/
theorem completes_of_no_imports (skips : Bool) (base : Model) {head : Model}
    (himports : head.imports = []) :
    Completes all (target.withSkipping skips) base head := by
  refine completes_all_iff.2 ⟨?_, fun _ => ?_⟩
  · rintro ⟨site, hsite, -⟩
    rw [valueImports, himports] at hsite
    cases hsite
  · rintro ⟨call, -, fault, hfails⟩
    exact hcallees.matches_ne_error _ _ hfails

include hpath hcallees in
/-- When hooks are skipped, a change that only they report gets lost, such as an effect that is new
or gone. -/
theorem effect_lost (kind : ChangeKind) (base head : Source)
    (honly : (coverages.filter fun entry => entry.2.kinds.contains kind) = [(hooks, hookCoverage)])
    (hsignature : kind ≠ .functionSignatureChanged)
    (hgroup : target.config.groupEnabled .reactHooks = false)
    (henabled : target.config.kindEnabled kind = true)
    (himports : (Model.ofSource head "tsx").imports = [])
    (hfound : ∃ record ∈ compareHooks target (Model.ofSource base "tsx") (Model.ofSource head "tsx"),
      record.kind = kind) :
    detectChanges all (target.withSkipping true) [] base head ≠
      detectChanges all (target.withSkipping false) [] base head := by
  rw [← hpath] at himports hfound
  obtain ⟨record, hrecord, hkind⟩ := hfound
  exact detectChanges_ne_of_lost honly hsignature henabled hgroup rfl
    (completes_of_no_imports target hcallees false _ himports) hrecord hkind

include hpath hcallees in
/-- When markup is skipped, a change of its logic that only it reports gets lost. -/
theorem markup_lost (kind : ChangeKind) (base head : Source)
    (honly : (coverages.filter fun entry => entry.2.kinds.contains kind) =
      [(markup, markupCoverage)])
    (hsignature : kind ≠ .functionSignatureChanged)
    (hgroup : target.config.groupEnabled .jsxRendering = false)
    (hon : target.config.markup.enabled.isOn = true)
    (hlogic : target.config.markup.ignoreLogicChanges.isOn = false)
    (henabled : target.config.kindEnabled kind = true)
    (himports : (Model.ofSource head "tsx").imports = [])
    (hfound : ∃ record ∈
        compareRenders target (Model.ofSource base "tsx") (Model.ofSource head "tsx") ++
          compareHandlers target (Model.ofSource base "tsx") (Model.ofSource head "tsx"),
      record.kind = kind) :
    detectChanges all (target.withSkipping true) [] base head ≠
      detectChanges all (target.withSkipping false) [] base head := by
  have hskipped : markup.runsUnder (target.config.withSkipping true) = false := by
    rw [runsUnder_withSkipping, hon]
    exact hgroup
  have hruns : markup.runsUnder (target.config.withSkipping false) = true := by
    rw [runsUnder_withSkipping, hon]
    rfl
  -- Logic comes behind the elements, which are always compared.
  have hmarkup (base head : Model) : markup.findings target base head =
      compareElements target base head ++ (compareRenders target base head ++
        compareHandlers target base head) := by
    show compareMarkup target base head = _
    rw [compareMarkup, hon, hlogic, ← List.append_assoc]
    rfl
  rw [← hpath] at himports hfound
  obtain ⟨record, hrecord, hkind⟩ := hfound
  refine detectChanges_ne_of_lost honly hsignature henabled hskipped hruns
    (completes_of_no_imports target hcallees false _ himports) ?_ hkind
  rw [hmarkup]
  exact List.mem_append_right _ hrecord

include hpath hcallees in
/-- When markup is skipped, rendering logic and event handlers get lost. -/
theorem logic_lost (hgroup : target.config.groupEnabled .jsxRendering = false)
    (hon : target.config.markup.enabled.isOn = true)
    (hlogic : target.config.markup.ignoreLogicChanges.isOn = false)
    (henabled : target.config.kindEnabled .jsxLogicAdded = true ∨
      target.config.kindEnabled .eventHandlerChanged = true) :
    detectChanges all (target.withSkipping true) [] bareSource renderSource ≠
      detectChanges all (target.withSkipping false) [] bareSource renderSource := by
  have himports : (Model.ofSource renderSource "tsx").imports = [] := by decide +kernel
  rcases henabled with henabled | henabled
  · obtain ⟨record, hrecord, hkind⟩ := exists_newRender target
    exact markup_lost target hpath hcallees .jsxLogicAdded bareSource renderSource rfl (by decide)
      hgroup hon hlogic henabled himports ⟨record, List.mem_append_left _ hrecord, hkind⟩
  · obtain ⟨record, hrecord, hkind⟩ := exists_newHandler target
    exact markup_lost target hpath hcallees .eventHandlerChanged bareSource renderSource rfl
      (by decide) hgroup hon hlogic henabled himports
      ⟨record, List.mem_append_right _ hrecord, hkind⟩

end Lost

end Detect

/-- Among patterns that are texts, skipping the analyzers of disabled groups is invisible for every
file exactly if it loses nothing. Whatever the patterns are, it is then invisible for every file but
those where it saves the comparison; about these nothing is reported without skipping. -/
theorem detectChanges_skipping_iff (config : Config) :
    (config.sideEffectCallees.AreTexts →
      ((∀ path similarity hunks base head,
          detectChanges Analyzer.all ⟨path, config.withSkipping true, similarity⟩ hunks base head =
            detectChanges Analyzer.all ⟨path, config.withSkipping false, similarity⟩ hunks base
              head) ↔
        ¬ config.SkippingLoses)) ∧
    (¬ config.SkippingLoses → ∀ path similarity hunks base head,
      (¬ config.SkippingSaves (Model.ofSource head (dialectForPath path)) →
        detectChanges Analyzer.all ⟨path, config.withSkipping true, similarity⟩ hunks base head =
          detectChanges Analyzer.all ⟨path, config.withSkipping false, similarity⟩ hunks base
            head) ∧
      (config.SkippingSaves (Model.ofSource head (dialectForPath path)) →
        detectChanges Analyzer.all ⟨path, config.withSkipping false, similarity⟩ hunks base head =
          [])) := by
  have hinvisible (hloses : ¬ config.SkippingLoses) (path : String)
      (similarity : String → String → Text.Similarity) (hunks : List Hunk) (base head : Source)
      (hsaves : ¬ config.SkippingSaves (Model.ofSource head (dialectForPath path))) :
      detectChanges Analyzer.all ⟨path, config.withSkipping true, similarity⟩ hunks base head =
        detectChanges Analyzer.all ⟨path, config.withSkipping false, similarity⟩ hunks base head :=
    Detect.changes_withSkipping ⟨path, config, similarity⟩ hloses hsaves hunks _
  refine ⟨fun hcallees => ⟨fun hsame hloses => ?_, fun hloses path similarity hunks base head => ?_⟩,
    fun hloses path similarity hunks base head => ⟨hinvisible hloses path similarity hunks base head,
      fun hsaves => ?_⟩⟩
  · -- Each of the kinds that can get lost has a file that shows it.
    have hlost := hsame "a.tsx" Text.similarity []
    rcases hloses with ⟨hgroup, hadded | hremoved⟩ | ⟨hgroup, hon, hlogic, henabled⟩
    · refine Detect.effect_lost ⟨"a.tsx", config, Text.similarity⟩ Detect.dialectForPath_tsx
        hcallees .effectAdded Detect.bareSource Detect.effectSource rfl (by decide) hgroup hadded
        (by decide +kernel) (Detect.exists_addedEffect _) (hlost _ _)
    · refine Detect.effect_lost ⟨"a.tsx", config, Text.similarity⟩ Detect.dialectForPath_tsx
        hcallees .effectRemoved Detect.effectSource Detect.bareSource rfl (by decide) hgroup
        hremoved (by decide +kernel) (Detect.exists_removedEffect _) (hlost _ _)
    · exact Detect.logic_lost ⟨"a.tsx", config, Text.similarity⟩ Detect.dialectForPath_tsx hcallees
        hgroup hon hlogic henabled (hlost _ _)
  · refine hinvisible hloses path similarity hunks base head ?_
    rintro ⟨-, call, -, fault, hfails⟩
    exact hcallees.matches_ne_error _ _ hfails
  · exact Detect.changes_eq_nil_of_saves ⟨path, config, similarity⟩ hsaves hunks _

/-- With hooks disabled and nothing else, the switch decides whether a new effect is reported. -/
theorem skipping_hooks_loses_effects :
    let config : Config := { groups := { disabled := [.reactHooks] } }
    detectChanges Analyzer.all ⟨"a.tsx", config.withSkipping true, Text.similarity⟩ []
        Detect.bareSource Detect.effectSource ≠
      detectChanges Analyzer.all ⟨"a.tsx", config.withSkipping false, Text.similarity⟩ []
        Detect.bareSource Detect.effectSource :=
  Detect.effect_lost ⟨"a.tsx", { groups := { disabled := [.reactHooks] } }, Text.similarity⟩
    Detect.dialectForPath_tsx ⟨_, rfl⟩ .effectAdded Detect.bareSource Detect.effectSource rfl
    (by decide) rfl rfl (by decide +kernel) (Detect.exists_addedEffect _)

end ChangeLens
