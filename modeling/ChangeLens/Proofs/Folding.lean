import ChangeLens.Detect
import ChangeLens.Proofs.Coverage

/-!
# `ChangeLens.Proofs.Folding`: what becomes of the records of the analyzers

`Detect.fold` applies the policy, cuts the records down to the hunks, frees them of duplicates, adds
the inferred record and sorts. Each stage has its lemmas here: who is a member of its result, and
what it does to the keys, on which duplicates are recognised.

`Detect.changes_of_completes` puts the stages behind the analyzers, for runs in which none of them
breaks down; otherwise nothing is reported (`Detect.changes_eq_nil`). `Detect.completes_all_iff` says
when the analyzers of the registry get through: it takes a pattern that is no text to stop them.
-/

set_option autoImplicit false

namespace ChangeLens

/-! ### Policy -/

namespace Config

/-- An override changes no key. -/
@[simp] theorem regrade_key (config : Config) (record : Record) :
    (config.regrade record).key = record.key :=
  rfl

/-- A final severity is final: grading a record again changes nothing. -/
theorem resolveSeverity_regrade (config : Config) (record : Record) :
    config.resolveSeverity (config.regrade record) = (config.regrade record).severity := by
  show (if config.markup.treatAsLowSeverity.isOn && record.kind.isMarkup then Severity.low
    else (config.override? record.kind).getD (config.resolveSeverity record)) =
      config.resolveSeverity record
  rw [resolveSeverity]
  split
  · rfl
  · cases config.override? record.kind <;> rfl

/-- A kind whose group is disabled is disabled. -/
theorem kindEnabled_of_group {config : Config} {kind : ChangeKind} {group : Group}
    (hkind : kind.group? = some group) (hgroup : config.groupEnabled group = false) :
    config.kindEnabled kind = false := by
  rw [kindEnabled, hkind, Option.all_some, hgroup, Bool.and_false]

/-- The policy lets the records of enabled kinds through, with their final severities. -/
theorem mem_applyPolicy {config : Config} {records : List Record} {record : Record} :
    record ∈ config.applyPolicy records ↔
      ∃ found ∈ records, config.kindEnabled found.kind = true ∧ config.regrade found = record := by
  simp only [applyPolicy, List.mem_map, List.mem_filter, and_assoc]

/-- The policy looks at records one by one. -/
theorem applyPolicy_append (config : Config) (first second : List Record) :
    config.applyPolicy (first ++ second) =
      config.applyPolicy first ++ config.applyPolicy second := by
  rw [applyPolicy, List.filter_append, List.map_append]
  rfl

end Config

/-- Records are in scope when they touch a hunk; without hunks all of them are. -/
theorem Hunk.mem_scope {hunks : List Hunk} {records : List Record} {record : Record} :
    record ∈ Hunk.scope hunks records ↔
      record ∈ records ∧ (hunks ≠ [] → Hunk.touches hunks record = true) := by
  cases hunks with
  | nil => simp [scope]
  | cons hunk rest => simp [scope]

namespace Detect

/-! ### Duplicates -/

/-- Putting a record among unique ones adds its key behind theirs, unless it is there already. -/
theorem map_key_keepSevere (record : Record) (kept : List Record) :
    (keepSevere record kept).map Record.key =
      if record.key ∈ kept.map Record.key then kept.map Record.key
      else kept.map Record.key ++ [record.key] := by
  induction kept with
  | nil => rfl
  | cons first rest ih =>
    rw [keepSevere]
    by_cases hkey : first.key = record.key
    · rw [if_pos hkey, List.map_cons, List.map_cons, hkey, if_pos List.mem_cons_self]
      split
      · rfl
      · rw [hkey]
    · rw [if_neg hkey, List.map_cons, List.map_cons, ih]
      simp only [List.mem_cons, Ne.symm hkey, false_or]
      split <;> rfl

/-- What is kept is the new record or was kept before. -/
theorem mem_keepSevere {record a : Record} {kept : List Record} (h : a ∈ keepSevere record kept) :
    a = record ∨ a ∈ kept := by
  induction kept with
  | nil => exact Or.inl (List.mem_singleton.1 h)
  | cons first rest ih =>
    -- The new record takes the place of the first one, is dropped, or goes on to the rest.
    rw [keepSevere] at h
    split at h
    · rcases List.mem_cons.1 h with h | h
      · split at h
        · exact Or.inl h
        · exact Or.inr (List.mem_cons.2 (Or.inl h))
      · exact Or.inr (List.mem_cons_of_mem _ h)
    · rcases List.mem_cons.1 h with h | h
      · exact Or.inr (List.mem_cons.2 (Or.inl h))
      · exact (ih h).imp_right (List.mem_cons_of_mem _)

/-- Distinct keys stay distinct when a record is put among them. -/
theorem nodup_keepSevere (record : Record) {kept : List Record}
    (hkept : (kept.map Record.key).Nodup) : ((keepSevere record kept).map Record.key).Nodup := by
  rw [map_key_keepSevere]
  split
  · exact hkept
  · rename_i hnew
    rw [List.nodup_append]
    refine ⟨hkept, by simp, ?_⟩
    rintro a ha b hb rfl
    exact hnew (List.mem_singleton.1 hb ▸ ha)

/-- The key of the new record is among those kept, and no other one comes or goes. -/
theorem mem_keys_keepSevere {record : Record} {kept : List Record} {key : RecordKey} :
    key ∈ (keepSevere record kept).map Record.key ↔
      key ∈ kept.map Record.key ∨ key = record.key := by
  rw [map_key_keepSevere]
  split
  · rename_i hold
    exact (or_iff_left_of_imp fun hkey => hkey ▸ hold).symm
  · rw [List.mem_append, List.mem_singleton]

/-- After deduplication no key occurs twice. -/
theorem deduplicate_nodup (records : List Record) :
    ((deduplicate records).map Record.key).Nodup := by
  have key (kept : List Record) (hkept : (kept.map Record.key).Nodup) :
      ((records.foldl (fun kept record => keepSevere record kept) kept).map Record.key).Nodup := by
    induction records generalizing kept with
    | nil => exact hkept
    | cons record rest ih => exact ih _ (nodup_keepSevere record hkept)
  exact key [] List.nodup_nil

/-- No key gets lost among the duplicates. -/
theorem mem_keys_deduplicate {records : List Record} {key : RecordKey} :
    key ∈ (deduplicate records).map Record.key ↔ key ∈ records.map Record.key := by
  have hfold (kept : List Record) :
      key ∈ (records.foldl (fun kept record => keepSevere record kept) kept).map Record.key ↔
        key ∈ kept.map Record.key ∨ key ∈ records.map Record.key := by
    induction records generalizing kept with
    | nil => exact (or_iff_left List.not_mem_nil).symm
    | cons record rest ih =>
      rw [List.foldl_cons, ih, mem_keys_keepSevere, List.map_cons, List.mem_cons, or_assoc]
  exact (hfold []).trans (or_iff_right List.not_mem_nil)

/-- Whether some record has a certain key can be asked before duplicates are gone. -/
theorem exists_key_deduplicate {records : List Record} {p : RecordKey → Prop} :
    (∃ record ∈ deduplicate records, p record.key) ↔ ∃ record ∈ records, p record.key := by
  have hkeys (items : List Record) :
      (∃ record ∈ items, p record.key) ↔ ∃ key ∈ items.map Record.key, p key := by
    simp only [List.mem_map, exists_exists_and_eq_and]
  simp only [hkeys, mem_keys_deduplicate]

/-- Deduplication makes up no record. -/
theorem mem_of_mem_deduplicate {records : List Record} {record : Record}
    (h : record ∈ deduplicate records) : record ∈ records := by
  -- The fold has kept some records already, so the statement is about them as well.
  have key (records kept : List Record)
      (h : record ∈ records.foldl (fun kept record => keepSevere record kept) kept) :
      record ∈ kept ∨ record ∈ records := by
    induction records generalizing kept with
    | nil => exact Or.inl h
    | cons first rest ih =>
      rw [List.mem_cons]
      rcases ih _ h with h | h
      · rcases mem_keepSevere h with rfl | h
        · exact Or.inr (Or.inl rfl)
        · exact Or.inl h
      · exact Or.inr (Or.inr h)
  exact (key records [] h).resolve_left List.not_mem_nil

/-! ### Order -/

end Detect

/-- Positions are ordered by line and then by column. -/
theorem Position.atOrBefore_iff {a b : Position} :
    a.atOrBefore b = true ↔ a.line < b.line ∨ a.line = b.line ∧ a.column ≤ b.column := by
  simp [atOrBefore]

/-- A record may stand before another one: it is more severe, or as severe and starts no later. -/
def Record.Precedes (a b : Record) : Prop :=
  b.severity.rank < a.severity.rank ∨
    a.severity.rank = b.severity.rank ∧
      (a.span.startLine < b.span.startLine ∨
        a.span.startLine = b.span.startLine ∧ a.span.startColumn ≤ b.span.startColumn)

namespace Detect

/-- What the test of the program decides. -/
theorem comesFirst_iff {a b : Record} : comesFirst a b = true ↔ a.Precedes b := by
  simp only [comesFirst, Bool.or_eq_true, Bool.and_eq_true, decide_eq_true_eq, beq_iff_eq,
    Position.atOrBefore_iff]
  rfl

/-- The order of records is transitive. -/
theorem comesFirst_trans (a b c : Record) (hab : comesFirst a b = true)
    (hbc : comesFirst b c = true) : comesFirst a c = true := by
  rw [comesFirst_iff, Record.Precedes] at *
  omega

/-- Any two records are in order one way or the other. -/
theorem comesFirst_total (a b : Record) : (comesFirst a b || comesFirst b a) = true := by
  rw [Bool.or_eq_true, comesFirst_iff, comesFirst_iff, Record.Precedes, Record.Precedes]
  omega

/-- Sorted records are in order. -/
theorem sortRecords_sorted (records : List Record) :
    (sortRecords records).Pairwise Record.Precedes := by
  have hsorted : (sortRecords records).Pairwise fun a b => comesFirst a b = true :=
    List.pairwise_mergeSort comesFirst_trans comesFirst_total records
  exact hsorted.imp comesFirst_iff.1

/-- Sorting keeps all records and adds none. -/
theorem mem_sortRecords {records : List Record} {record : Record} :
    record ∈ sortRecords records ↔ record ∈ records :=
  List.mem_mergeSort

/-! ### All stages after the analyzers -/

/-- The records that policy and hunks leave, duplicates included. -/
def admitted (target : Target) (hunks : List Hunk) (found : List Record) : List Record :=
  Hunk.scope hunks (target.config.applyPolicy found)

/-- The records that policy, hunks and duplicates leave. -/
def surviving (target : Target) (hunks : List Hunk) (found : List Record) : List Record :=
  deduplicate (Hunk.scope hunks (target.config.applyPolicy found))

/-- A surviving record is one that was found, of an enabled kind, with its final severity and in
scope. -/
theorem mem_surviving {target : Target} {hunks : List Hunk} {found : List Record} {record : Record}
    (h : record ∈ surviving target hunks found) :
    (∃ before ∈ found, target.config.kindEnabled before.kind = true ∧
        target.config.regrade before = record) ∧
      (hunks ≠ [] → Hunk.touches hunks record = true) := by
  obtain ⟨hallowed, hscope⟩ := Hunk.mem_scope.1 (mem_of_mem_deduplicate h)
  exact ⟨Config.mem_applyPolicy.1 hallowed, hscope⟩

/-- A record of an enabled kind that is in scope survives under its key. -/
theorem mem_keys_surviving {target : Target} {hunks : List Hunk} {found : List Record}
    {record : Record} (hfound : record ∈ found)
    (henabled : target.config.kindEnabled record.kind = true)
    (hscope : hunks ≠ [] → Hunk.touches hunks record = true) :
    record.key ∈ (surviving target hunks found).map Record.key := by
  rw [surviving, mem_keys_deduplicate, List.mem_map]
  refine ⟨target.config.regrade record, Hunk.mem_scope.2 ⟨?_, hscope⟩, rfl⟩
  exact Config.mem_applyPolicy.2 ⟨record, hfound, henabled, rfl⟩

/-- The record that says that a changed signature is inferred, before the policy. -/
def inferredChange (target : Target) : Record :=
  target.reportFile .functionSignatureChanged .high
    "Function signature change inferred by context" (some "Heuristic fallback")

/-- The inferred record is there if its kind is enabled, graded as the overrides say. -/
theorem mem_inferredRecord {target : Target} {record : Record} :
    record ∈ inferredRecord target ↔
      target.config.kindEnabled .functionSignatureChanged = true ∧
        target.config.regrade (inferredChange target) = record := by
  rw [inferredRecord, Config.mem_applyPolicy]
  constructor
  · rintro ⟨found, hfound, henabled, hrecord⟩
    obtain rfl := List.mem_singleton.1 hfound
    exact ⟨henabled, hrecord⟩
  · rintro ⟨henabled, hrecord⟩
    exact ⟨_, List.mem_singleton_self _, henabled, hrecord⟩

/-- There is one inferred record at most. -/
theorem inferredRecord_nodup (target : Target) :
    ((inferredRecord target).map Record.key).Nodup := by
  rw [inferredRecord, Config.applyPolicy, List.filter_cons]
  split <;> simp

/-- Whether a changed signature is inferred: none is reported, but something else is. -/
def infers (target : Target) (hunks : List Hunk) (aboutFunctions others : List Record) : Bool :=
  let unique := surviving target hunks (aboutFunctions ++ others)
  !hasSignatureChange unique && unique.any fun record => (others.map Record.key).contains record.key

/-- A signature is inferred exactly if no admitted record reports a changed one, and some admitted
record has the key of another finding. -/
theorem infers_iff {target : Target} {hunks : List Hunk} {aboutFunctions others : List Record} :
    infers target hunks aboutFunctions others = true ↔
      (∀ record ∈ admitted target hunks (aboutFunctions ++ others),
          record.kind ≠ .functionSignatureChanged) ∧
        ∃ record ∈ admitted target hunks (aboutFunctions ++ others),
          record.key ∈ others.map Record.key := by
  have hsignature : hasSignatureChange (surviving target hunks (aboutFunctions ++ others)) = true ↔
      ∃ record ∈ admitted target hunks (aboutFunctions ++ others),
        record.kind = .functionSignatureChanged := by
    simp only [hasSignatureChange, List.any_eq_true, beq_iff_eq]
    exact exists_key_deduplicate (p := fun key => key.kind = .functionSignatureChanged)
  rw [infers, Bool.and_eq_true, Bool.not_eq_true', ← Bool.not_eq_true, hsignature]
  simp only [List.any_eq_true, List.contains_iff_mem]
  refine and_congr ?_ (exists_key_deduplicate (p := (· ∈ others.map Record.key)))
  simp only [not_exists, not_and, ne_eq]

/-- The stages after the analyzers, written with the names used here. -/
theorem fold_eq (target : Target) (hunks : List Hunk) (aboutFunctions others : List Record) :
    fold target hunks aboutFunctions others =
      sortRecords (surviving target hunks (aboutFunctions ++ others) ++
        if infers target hunks aboutFunctions others then inferredRecord target else []) :=
  rfl

/-- A record is reported if it survives, or if it is the inferred one and one is inferred. -/
theorem mem_fold {target : Target} {hunks : List Hunk} {aboutFunctions others : List Record}
    {record : Record} :
    record ∈ fold target hunks aboutFunctions others ↔
      record ∈ surviving target hunks (aboutFunctions ++ others) ∨
        infers target hunks aboutFunctions others = true ∧ record ∈ inferredRecord target := by
  rw [fold_eq, mem_sortRecords, List.mem_append]
  refine or_congr_right ?_
  split <;> simp_all

/-- A record of an enabled kind that is in scope is reported under its key. -/
theorem mem_keys_fold {target : Target} {hunks : List Hunk} {aboutFunctions others : List Record}
    {record : Record} (hfound : record ∈ aboutFunctions ++ others)
    (henabled : target.config.kindEnabled record.kind = true)
    (hscope : hunks ≠ [] → Hunk.touches hunks record = true) :
    record.key ∈ (fold target hunks aboutFunctions others).map Record.key := by
  obtain ⟨kept, hkept, hkey⟩ := List.mem_map.1 (mem_keys_surviving hfound henabled hscope)
  exact List.mem_map.2 ⟨kept, mem_fold.2 (Or.inl hkept), hkey⟩

/-- Where a signature is inferred, no surviving record reports a changed one. -/
theorem not_signature_of_infers {target : Target} {hunks : List Hunk}
    {aboutFunctions others : List Record}
    (h : infers target hunks aboutFunctions others = true) :
    ∀ record ∈ surviving target hunks (aboutFunctions ++ others),
      record.kind ≠ .functionSignatureChanged := by
  intro record hrecord hkind
  rw [infers, Bool.and_eq_true, Bool.not_eq_true', hasSignatureChange, List.any_eq_false] at h
  exact h.1 record hrecord (by rw [hkind]; rfl)

/-- Nothing is reported exactly if nothing survives: a signature is not inferred from nothing. -/
theorem fold_eq_nil {target : Target} {hunks : List Hunk} {aboutFunctions others : List Record} :
    fold target hunks aboutFunctions others = [] ↔
      surviving target hunks (aboutFunctions ++ others) = [] := by
  constructor
  · intro hnil
    rw [List.eq_nil_iff_forall_not_mem] at hnil ⊢
    exact fun record hrecord => hnil record (mem_fold.2 (Or.inl hrecord))
  · intro hnil
    rw [List.eq_nil_iff_forall_not_mem]
    intro record hrecord
    rcases mem_fold.1 hrecord with hrecord | ⟨hinfers, -⟩
    · rw [hnil] at hrecord
      cases hrecord
    · rw [infers, hnil] at hinfers
      cases hinfers

/-- Nothing is reported, whatever the hunks are, exactly if nothing enabled is found. -/
theorem forall_fold_eq_nil {target : Target} {aboutFunctions others : List Record} :
    (∀ hunks, fold target hunks aboutFunctions others = []) ↔
      ∀ record ∈ aboutFunctions ++ others, target.config.kindEnabled record.kind = false := by
  simp only [fold_eq_nil]
  constructor
  · intro hnil record hrecord
    rw [Bool.eq_false_iff]
    intro henabled
    -- Without hunks everything is in scope.
    have hkey : record.key ∈ (surviving target [] (aboutFunctions ++ others)).map Record.key :=
      mem_keys_surviving hrecord henabled fun h => absurd rfl h
    rw [hnil []] at hkey
    cases hkey
  · -- Nothing survives whose kind is disabled, and with nothing that survives nothing is inferred.
    intro hdisabled hunks
    rw [List.eq_nil_iff_forall_not_mem]
    intro record hrecord
    obtain ⟨⟨found, hfound, henabled, -⟩, -⟩ := mem_surviving hrecord
    rw [hdisabled found hfound] at henabled
    cases henabled

/-- No key is reported twice. -/
theorem fold_nodup (target : Target) (hunks : List Hunk) (aboutFunctions others : List Record) :
    ((fold target hunks aboutFunctions others).map Record.key).Nodup := by
  rw [fold_eq, sortRecords, ((List.mergeSort_perm _ _).map _).nodup_iff, List.map_append,
    List.nodup_append]
  refine ⟨deduplicate_nodup _, ?_, ?_⟩
  · split
    · exact inferredRecord_nodup target
    · exact List.nodup_nil
  · -- The inferred record comes last, and only where no other one has its kind.
    rintro key hkey other hother rfl
    split at hother
    · rename_i hinfers
      obtain ⟨record, hrecord, hrecordKey⟩ := List.mem_map.1 hkey
      obtain ⟨inferred, hinferred, hinferredKey⟩ := List.mem_map.1 hother
      obtain ⟨-, rfl⟩ := mem_inferredRecord.1 hinferred
      refine not_signature_of_infers hinfers record hrecord ?_
      exact congrArg RecordKey.kind (hrecordKey.trans hinferredKey.symm)
    · cases hother

end Detect

/-! ### What the analyzers find -/

namespace Analyzer

/-- What an analyzer finds; nothing when it breaks down. -/
def findings (analyzer : Analyzer) (target : Target) (base head : Model) : List Record :=
  (analyzer.compare target base head).getD []

/-- An analyzer that does not break down yields what it finds. -/
theorem compare_eq_findings {analyzer : Analyzer} {target : Target} {base head : Model}
    (h : analyzer.compare target base head ≠ none) :
    analyzer.compare target base head = some (analyzer.findings target base head) := by
  obtain ⟨records, hrecords⟩ := Option.ne_none_iff_exists'.1 h
  rw [findings, hrecords, Option.getD_some]

/-- What an analyzer finds is covered. -/
theorem allows_of_mem_findings {analyzer : Analyzer} {coverage : Coverage}
    (h : (analyzer, coverage) ∈ coverages) {target : Target} {base head : Model} {record : Record}
    (hrecord : record ∈ analyzer.findings target base head) :
    coverage.Allows base head record := by
  rw [findings] at hrecord
  cases hresult : analyzer.compare target base head with
  | none =>
    rw [hresult] at hrecord
    cases hrecord
  | some records =>
    rw [hresult] at hrecord
    exact coverages_sound _ h target base head records hresult record hrecord

/-- A comparison depends on the configuration only through the settings for markup and the patterns
of side effects. -/
theorem compare_congr {analyzer : Analyzer} (h : analyzer ∈ all) {path : String}
    {config config' : Config} {similarity : String → String → Text.Similarity}
    (hmarkup : config.markup = config'.markup)
    (hcallees : config.sideEffectCallees = config'.sideEffectCallees)
    (hmodules : config.sideEffectModules = config'.sideEffectModules) (base head : Model) :
    analyzer.compare ⟨path, config, similarity⟩ base head =
      analyzer.compare ⟨path, config', similarity⟩ base head := by
  cases config
  cases config'
  cases hmarkup
  cases hcallees
  cases hmodules
  revert analyzer
  simp only [all, core, structural, List.cons_append, List.nil_append, List.forall_mem_cons,
    List.not_mem_nil, false_implies, implies_true, and_true]
  exact ⟨rfl, rfl, rfl, rfl, rfl, rfl, rfl, rfl, rfl, rfl, rfl, rfl, rfl, rfl, rfl, rfl, rfl, rfl,
    rfl, rfl, rfl, rfl, rfl, rfl, rfl, rfl⟩

end Analyzer

namespace Detect

open ChangeLens.Analyzer

/-- What the running analyzers find that `isChosen` picks by name. -/
def findingsOf (isChosen : String → Bool) (analyzers : List Analyzer) (target : Target)
    (base head : Model) : List Record :=
  ((analyzers.filter (·.runsUnder target.config)).filter (isChosen ·.name)).flatMap
    (·.findings target base head)

/-- A record is found if some analyzer that runs and is asked about finds it. -/
theorem mem_findingsOf {isChosen : String → Bool} {analyzers : List Analyzer} {target : Target}
    {base head : Model} {record : Record} :
    record ∈ findingsOf isChosen analyzers target base head ↔
      ∃ analyzer ∈ analyzers, analyzer.runsUnder target.config = true ∧
        isChosen analyzer.name = true ∧ record ∈ analyzer.findings target base head := by
  simp only [findingsOf, List.mem_flatMap, List.mem_filter, and_assoc]

/-- What is found about functions. -/
def functionFindings (analyzers : List Analyzer) (target : Target) (base head : Model) :
    List Record :=
  findingsOf (· == "functions") analyzers target base head

/-- What is found about everything else. -/
def otherFindings (analyzers : List Analyzer) (target : Target) (base head : Model) :
    List Record :=
  findingsOf (!· == "functions") analyzers target base head

/-- What is found about functions, together with what the coarser checks add. -/
def signatureFindings (analyzers : List Analyzer) (target : Target) (base head : Model) :
    List Record :=
  let found := functionFindings analyzers target base head
  found ++ fallbacks target base head found

/-- If every item has an answer, so has the list. -/
theorem mapM_eq_some_map {α β : Type} {f : α → Option β} {g : α → β} {items : List α}
    (h : ∀ item ∈ items, f item = some (g item)) : items.mapM f = some (items.map g) := by
  induction items with
  | nil => rfl
  | cons item items ih =>
    rw [List.mapM_cons, h item List.mem_cons_self, ih fun a ha => h a (List.mem_cons_of_mem _ ha)]
    rfl

/-- If some item has no answer, neither has the list. -/
theorem mapM_eq_none {α β : Type} {f : α → Option β} {items : List α} {item : α}
    (hitem : item ∈ items) (h : f item = none) : items.mapM f = none := by
  induction items with
  | nil => cases hitem
  | cons first rest ih =>
    rw [List.mapM_cons]
    rcases List.mem_cons.1 hitem with rfl | hitem
    · rw [h]
      rfl
    · rw [ih hitem]
      cases f first <;> rfl

/-- No running analyzer breaks down. -/
def Completes (analyzers : List Analyzer) (target : Target) (base head : Model) : Prop :=
  ∀ analyzer ∈ analyzers, analyzer.runsUnder target.config = true →
    analyzer.compare target base head ≠ none

/-- Analyzers that do not break down yield their findings. -/
theorem runAnalyzers_of_completes {analyzers : List Analyzer} {target : Target} {base head : Model}
    (h : Completes analyzers target base head) :
    runAnalyzers analyzers target base head =
      some (functionFindings analyzers target base head,
        otherFindings analyzers target base head) := by
  have hproduced : (analyzers.filter (·.runsUnder target.config)).mapM
      (fun analyzer => (analyzer.compare target base head).map fun records =>
        (analyzer.name == "functions", records)) =
      some ((analyzers.filter (·.runsUnder target.config)).map fun analyzer =>
        (analyzer.name == "functions", analyzer.findings target base head)) := by
    refine mapM_eq_some_map fun analyzer hanalyzer => ?_
    obtain ⟨hlisted, hruns⟩ := List.mem_filter.1 hanalyzer
    rw [compare_eq_findings (h analyzer hlisted hruns), Option.map_some]
  simp only [runAnalyzers, hproduced, Option.bind_eq_bind, Option.bind_some, List.filter_map,
    List.flatMap_map]
  rfl

/-- The changes between two models, stage by stage. -/
theorem changes_of_completes {analyzers : List Analyzer} {target : Target} {base head : Model}
    (h : Completes analyzers target base head) (hunks : List Hunk) :
    changes analyzers target hunks base head =
      fold target hunks (signatureFindings analyzers target base head)
        (otherFindings analyzers target base head) := by
  rw [changes, runAnalyzers_of_completes h]
  rfl

/-- One analyzer that breaks down is enough for none of them to yield anything. -/
theorem runAnalyzers_eq_none {analyzers : List Analyzer} {target : Target} {base head : Model}
    (h : ¬ Completes analyzers target base head) :
    runAnalyzers analyzers target base head = none := by
  simp only [Completes, not_forall, not_not] at h
  obtain ⟨analyzer, hlisted, hruns, hnone⟩ := h
  have hproduced : (analyzers.filter (·.runsUnder target.config)).mapM
      (fun analyzer => (analyzer.compare target base head).map fun records =>
        (analyzer.name == "functions", records)) = none :=
    mapM_eq_none (List.mem_filter.2 ⟨hlisted, hruns⟩) (by rw [hnone, Option.map_none])
  simp only [runAnalyzers, hproduced, Option.bind_eq_bind, Option.bind_none]

/-- Then nothing is reported. -/
theorem changes_eq_nil {analyzers : List Analyzer} {target : Target} {base head : Model}
    (h : ¬ Completes analyzers target base head) (hunks : List Hunk) :
    changes analyzers target hunks base head = [] := by
  rw [changes, runAnalyzers_eq_none h]

/-- What the listed analyzers find goes through all stages, or one of them breaks down and nothing
is reported. -/
theorem changes_cases (analyzers : List Analyzer) (target : Target) (hunks : List Hunk)
    (base head : Model) :
    Completes analyzers target base head ∧
        changes analyzers target hunks base head =
          fold target hunks (signatureFindings analyzers target base head)
            (otherFindings analyzers target base head) ∨
      ¬ Completes analyzers target base head ∧ changes analyzers target hunks base head = [] := by
  by_cases h : Completes analyzers target base head
  · exact Or.inl ⟨h, changes_of_completes h hunks⟩
  · exact Or.inr ⟨h, changes_eq_nil h hunks⟩

/-- The analyzers of the registry get through exactly if all new modules can be matched with the
patterns of side effects, and all calls too unless the analyzer that does this is skipped. -/
theorem completes_all_iff {target : Target} {base head : Model} :
    Completes all target base head ↔
      ¬ target.config.FailsOnImports base head ∧
        (sideEffects.runsUnder target.config = true → ¬ target.config.FailsOnCalls head) := by
  -- Imports always run; side effects only where they are not skipped, so their patterns count only
  -- there.
  constructor
  · intro h
    constructor
    · intro hfails
      exact h imports (by simp [all, core]) rfl
        ((compare_eq_none_iff target base head (by simp [all, core])).2 (Or.inl ⟨rfl, hfails⟩))
    · intro hruns hfails
      exact h sideEffects (by simp [all, structural]) hruns
        ((compare_eq_none_iff target base head (by simp [all, structural])).2
          (Or.inr ⟨rfl, hfails⟩))
  · rintro ⟨himports, hcalls⟩ analyzer hanalyzer hruns hnone
    rcases (compare_eq_none_iff target base head hanalyzer).1 hnone with
      ⟨-, hfails⟩ | ⟨rfl, hfails⟩
    · exact himports hfails
    · exact hcalls hruns hfails

/-- When all patterns of side effects are texts, every analyzer of the registry gets through. -/
theorem completes_of_texts {analyzers : List Analyzer} (h : ∀ analyzer ∈ analyzers, analyzer ∈ all)
    {target : Target} (hcallees : target.config.sideEffectCallees.AreTexts)
    (hmodules : target.config.sideEffectModules.AreTexts) (base head : Model) :
    Completes analyzers target base head := by
  intro analyzer hlisted _ hnone
  rcases (compare_eq_none_iff target base head (h analyzer hlisted)).1 hnone with
    ⟨-, site, -, -, fault, hfails⟩ | ⟨-, call, -, fault, hfails⟩
  · exact hmodules.matches_ne_error _ _ hfails
  · exact hcallees.matches_ne_error _ _ hfails

/-- Whatever a running analyzer finds goes into the fold. -/
theorem mem_found {analyzers : List Analyzer} {analyzer : Analyzer} {target : Target}
    {base head : Model} {record : Record} (hanalyzer : analyzer ∈ analyzers)
    (hruns : analyzer.runsUnder target.config = true)
    (hrecord : record ∈ analyzer.findings target base head) :
    record ∈ signatureFindings analyzers target base head ++
      otherFindings analyzers target base head := by
  rw [List.mem_append]
  cases hname : analyzer.name == "functions" with
  | true =>
    exact Or.inl (List.mem_append_left _
      (mem_findingsOf.2 ⟨analyzer, hanalyzer, hruns, hname, hrecord⟩))
  | false =>
    exact Or.inr (mem_findingsOf.2 ⟨analyzer, hanalyzer, hruns, by rw [hname]; rfl, hrecord⟩)

/-- A finding of a running analyzer that is enabled and in scope is reported under its key, unless
some analyzer breaks down. -/
theorem mem_keys_detectChanges {analyzers : List Analyzer} {analyzer : Analyzer} {target : Target}
    {hunks : List Hunk} {base head : Source} {record : Record}
    (h : Completes analyzers target (Model.ofSource base (dialectForPath target.path))
      (Model.ofSource head (dialectForPath target.path))) (hanalyzer : analyzer ∈ analyzers)
    (hruns : analyzer.runsUnder target.config = true)
    (hrecord : record ∈ analyzer.findings target
      (Model.ofSource base (dialectForPath target.path))
      (Model.ofSource head (dialectForPath target.path)))
    (henabled : target.config.kindEnabled record.kind = true)
    (hscope : hunks ≠ [] → Hunk.touches hunks record = true) :
    record.key ∈ (detectChanges analyzers target hunks base head).map Record.key := by
  rw [detectChanges, changes_of_completes h]
  exact mem_keys_fold (mem_found hanalyzer hruns hrecord) henabled hscope

/-- Among all analyzers only one is about functions, and it always runs. -/
theorem functionFindings_all (target : Target) (base head : Model) :
    functionFindings all target base head = compareFunctions target base head := by
  have hfunctions : ((all.filter (·.runsUnder target.config)).filter (·.name == "functions")) =
      [functions] := by
    rw [List.filter_filter]
    rfl
  rw [functionFindings, findingsOf, hfunctions, List.flatMap_singleton]
  rfl

/-! ### The coarser checks of signatures -/

/-- The record about a function whose number of parameters differs. -/
def countRecord (target : Target) (before after : FunctionSite) : Record :=
  target.report .functionSignatureChanged .high after.span "FunctionDeclaration"
    s!"Function signature changed: '{after.name}'" (some (arrow before.signature after.signature))

/-- One record for each function whose number of parameters is not that of the last base function of
its key. -/
theorem mem_countChanges {target : Target} {key : FunctionSite → String} {base head : Model}
    {record : Record} :
    record ∈ countChanges target key base head ↔
      ∃ after ∈ head.namedFunctions, ∃ before,
        lastWith? key (key after) base.namedFunctions = some before ∧
          before.parameters.length ≠ after.parameters.length ∧
          record = countRecord target before after := by
  rw [countChanges, List.mem_filterMap]
  refine exists_congr fun after => and_congr_right fun _ => ?_
  cases lastWith? key (key after) base.namedFunctions with
  | none => simp
  | some before =>
    simp only [Option.some.injEq, exists_eq_left']
    split
    · rename_i heq
      simp [heq]
    · rename_i hne
      simp [hne, countRecord, eq_comm]

/-- Nothing is reported by a key exactly if every named function has as many parameters as the last
base function with its key. -/
theorem countChanges_eq_nil {target : Target} {key : FunctionSite → String} {base head : Model} :
    countChanges target key base head = [] ↔
      ∀ after ∈ head.namedFunctions, ∀ before,
        lastWith? key (key after) base.namedFunctions = some before →
          before.parameters.length = after.parameters.length := by
  rw [List.eq_nil_iff_forall_not_mem]
  constructor
  · intro hnil after hafter before hbefore
    refine Decidable.byContradiction fun hdiffers => ?_
    exact hnil _ (mem_countChanges.2 ⟨after, hafter, before, hbefore, hdiffers, rfl⟩)
  · intro hagree record hrecord
    obtain ⟨after, hafter, before, hbefore, hdiffers, -⟩ := mem_countChanges.1 hrecord
    exact hdiffers (hagree after hafter before hbefore)

/-- The record about a function head in the text with another number of parameters. -/
def textRecord (target : Target) (name : String) (before after : Nat) : Record :=
  target.reportFile .functionSignatureChanged .high s!"Function signature changed: '{name}'"
    (some s!"Param count: {before} -> {after}")

/-- One record for each name whose first head has another number of parameters than the last head of
it in the base version. -/
theorem mem_byText {target : Target} {base head : String} {record : Record} :
    record ∈ byText target base head ↔
      ∃ after ∈ firstOfEach Prod.fst (parameterCounts head), ∃ before,
        lastWith? Prod.fst after.1 (parameterCounts base) = some before ∧ before.2 ≠ after.2 ∧
          record = textRecord target after.1 before.2 after.2 := by
  rw [byText, List.mem_filterMap]
  refine exists_congr fun after => and_congr_right fun _ => ?_
  dsimp only
  cases lastWith? Prod.fst after.1 (parameterCounts base) with
  | none => simp
  | some before =>
    simp only [Option.some.injEq, exists_eq_left']
    split
    · rename_i heq
      simp [heq]
    · rename_i hne
      simp [hne, textRecord, eq_comm]

/-- Nothing is reported by the text exactly if the first head of each name has as many parameters as
the last base head of that name. -/
theorem byText_eq_nil {target : Target} {base head : String} :
    byText target base head = [] ↔
      ∀ name first last,
        ((parameterCounts head).find? fun head => head.1 == name) = some first →
          lastWith? Prod.fst name (parameterCounts base) = some last → first.2 = last.2 := by
  rw [List.eq_nil_iff_forall_not_mem]
  constructor
  · intro hnil name first last hfirst hlast
    refine Decidable.byContradiction fun hdiffers => ?_
    have hname : first.1 = name := by simpa using List.find?_some hfirst
    rw [← hname] at hfirst hlast
    exact hnil _ (mem_byText.2
      ⟨first, mem_firstOfEach.2 hfirst, last, hlast, fun heq => hdiffers heq.symm, rfl⟩)
  · intro hagree record hrecord
    obtain ⟨after, hafter, before, hbefore, hdiffers, -⟩ := mem_byText.1 hrecord
    exact hdiffers (hagree after.1 after before (mem_firstOfEach.1 hafter) hbefore).symm

/-- Without a changed signature, the coarser checks stay silent exactly if each of the three does. -/
theorem fallbacks_eq_nil {target : Target} {base head : Model} {found : List Record}
    (h : hasSignatureChange found = false) :
    fallbacks target base head found = [] ↔
      byIdentity target base head = [] ∧ byName target base head = [] ∧
        byText target base.text head.text = [] := by
  rw [fallbacks, h, if_neg Bool.false_ne_true]
  split
  · split <;> simp_all
  · simp_all

/-- A record of the coarser checks comes from one of the three. -/
theorem mem_fallbacks {target : Target} {base head : Model} {found : List Record} {record : Record}
    (h : record ∈ fallbacks target base head found) :
    record ∈ byIdentity target base head ∨ record ∈ byName target base head ∨
      record ∈ byText target base.text head.text := by
  rw [fallbacks] at h
  split at h
  · cases h
  · split at h
    · split at h
      · exact Or.inr (Or.inr h)
      · exact Or.inr (Or.inl h)
    · exact Or.inl h

/-- The coarser checks report changed signatures, of functions or of heads in the text. -/
theorem eq_of_mem_fallbacks {target : Target} {base head : Model} {found : List Record}
    {record : Record} (h : record ∈ fallbacks target base head found) :
    (∃ before after, record = countRecord target before after) ∨
      ∃ name before after, record = textRecord target name before after := by
  rcases mem_fallbacks h with h | h | h
  · obtain ⟨after, -, before, -, -, rfl⟩ := mem_countChanges.1 h
    exact Or.inl ⟨before, after, rfl⟩
  · obtain ⟨after, -, before, -, -, rfl⟩ := mem_countChanges.1 h
    exact Or.inl ⟨before, after, rfl⟩
  · obtain ⟨after, -, before, -, -, rfl⟩ := mem_byText.1 h
    exact Or.inr ⟨after.1, before.2, after.2, rfl⟩

/-- All records of the coarser checks are about changed signatures. -/
theorem fallbacks_kind {target : Target} {base head : Model} {found : List Record} {record : Record}
    (h : record ∈ fallbacks target base head found) : record.kind = .functionSignatureChanged := by
  rcases eq_of_mem_fallbacks h with ⟨before, after, rfl⟩ | ⟨name, before, after, rfl⟩
  · rfl
  · rfl

/-- A reported change other than a changed signature has been found by one of the running
analyzers. -/
theorem found_of_mem_changes {analyzers : List Analyzer} {target : Target} {hunks : List Hunk}
    {base head : Model} {record : Record}
    (hrecord : record ∈ changes analyzers target hunks base head)
    (hkind : record.kind ≠ .functionSignatureChanged) :
    ∃ analyzer ∈ analyzers, analyzer.runsUnder target.config = true ∧
      ∃ found ∈ analyzer.findings target base head, target.config.regrade found = record := by
  rcases changes_cases analyzers target hunks base head with ⟨-, hchanges⟩ | ⟨-, hnil⟩
  swap
  · rw [hnil] at hrecord
    cases hrecord
  rw [hchanges] at hrecord
  rcases mem_fold.1 hrecord with hrecord | ⟨-, hrecord⟩
  · -- It survived, so it was found; the coarser checks and the inferred record are all signatures.
    obtain ⟨⟨found, hfound, -, rfl⟩, -⟩ := mem_surviving hrecord
    have hanalyzer {isChosen : String → Bool}
        (hfound : found ∈ findingsOf isChosen analyzers target base head) :
        ∃ analyzer ∈ analyzers, analyzer.runsUnder target.config = true ∧
          ∃ found' ∈ analyzer.findings target base head,
            target.config.regrade found' = target.config.regrade found := by
      obtain ⟨analyzer, hlisted, hruns, -, hfound⟩ := mem_findingsOf.1 hfound
      exact ⟨analyzer, hlisted, hruns, found, hfound, rfl⟩
    rcases List.mem_append.1 hfound with hfound | hfound
    · rcases List.mem_append.1 hfound with hfound | hfound
      · exact hanalyzer hfound
      · exact absurd (fallbacks_kind hfound) hkind
    · exact hanalyzer hfound
  · -- The inferred record is of the kind that is left out.
    obtain ⟨-, rfl⟩ := mem_inferredRecord.1 hrecord
    exact absurd rfl hkind

end Detect

end ChangeLens
