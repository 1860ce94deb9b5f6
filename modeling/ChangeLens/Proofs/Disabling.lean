import ChangeLens.Proofs.Settled
import ChangeLens.Text.Distance

/-!
# `ChangeLens.Proofs.Disabling`: disabling one more kind

A kind that is disabled is dropped by the policy, and every later stage could let this show in other
records: duplicates are compared with each other, a signature is inferred where none is left, and
sorting moves records around. It does not show. Duplicates have one key and so one kind
(`Detect.deduplicate_filter`). Disabling a kind other than changed signatures leaves all signatures
in place, so none is inferred that was not inferred before; disabling changed signatures disables the
inferred one with them. Sorting is stable, so what is left is in the same order
(`Detect.sortRecords_sublist`).

`detectChanges_disabling` is the main result: nothing comes in, and only records of the kind and the
inferred record go.
-/

set_option autoImplicit false

namespace ChangeLens

/-! ### The policy -/

namespace Config

/-- The configuration with one more kind disabled. -/
def disabling (config : Config) (kind : ChangeKind) : Config :=
  { config with disabledKinds := kind :: config.disabledKinds }

/-- One more kind is disabled, and nothing else changes. -/
theorem kindEnabled_disabling (config : Config) (kind other : ChangeKind) :
    (config.disabling kind).kindEnabled other = (other != kind && config.kindEnabled other) := by
  show (!(kind :: config.disabledKinds).contains other && other.group?.all config.groupEnabled) = _
  rw [List.contains_cons, Bool.not_or, Bool.and_assoc]
  rfl

/-- The policy drops the records of the kind too. -/
theorem applyPolicy_disabling (config : Config) (kind : ChangeKind) (records : List Record) :
    (config.disabling kind).applyPolicy records =
      (config.applyPolicy records).filter (·.kind != kind) := by
  rw [applyPolicy, applyPolicy, List.filter_map, List.filter_filter]
  simp only [kindEnabled_disabling]
  rfl

end Config

/-- The same file under the configuration with one more kind disabled. -/
def Target.disabling (target : Target) (kind : ChangeKind) : Target :=
  { target with config := target.config.disabling kind }

/-- Hunks look at each record alone. -/
theorem Hunk.scope_filter (hunks : List Hunk) (p : Record → Bool) (records : List Record) :
    Hunk.scope hunks (records.filter p) = (Hunk.scope hunks records).filter p := by
  rw [scope, scope]
  split
  · rfl
  · exact List.filter_comm _ _ records

namespace Detect

/-! ### Duplicates -/

/-- A record passes the filter with its duplicates or not at all, so filtering may come before or
after it is put among unique ones. -/
theorem keepSevere_filter (p : RecordKey → Bool) (record : Record) (kept : List Record) :
    (keepSevere record kept).filter (p ·.key) =
      if p record.key then keepSevere record (kept.filter (p ·.key))
      else kept.filter (p ·.key) := by
  induction kept with
  | nil =>
    rw [keepSevere, List.filter_cons]
    rfl
  | cons first rest ih =>
    rw [keepSevere]
    by_cases hkey : first.key = record.key
    · -- Which of the two records stays does not matter to the filter, as both have the key.
      have hstays : (if first.severity.rank < record.severity.rank then record else first).key =
          record.key := by
        split
        · rfl
        · exact hkey
      rw [if_pos hkey, List.filter_cons, List.filter_cons, hstays, hkey]
      split
      · rw [keepSevere, if_pos hkey]
      · rfl
    · rw [if_neg hkey, List.filter_cons, List.filter_cons, ih]
      -- Another key: the filter decides about the first record and about the new one separately.
      cases p first.key
      · rfl
      · cases p record.key
        · rfl
        · exact (if_neg hkey).symm

/-- Filtering by key may come before or after duplicates are gone. -/
theorem deduplicate_filter (p : RecordKey → Bool) (records : List Record) :
    deduplicate (records.filter (p ·.key)) = (deduplicate records).filter (p ·.key) := by
  have hfold (kept : List Record) :
      (records.filter (p ·.key)).foldl (fun kept record => keepSevere record kept)
          (kept.filter (p ·.key)) =
        (records.foldl (fun kept record => keepSevere record kept) kept).filter (p ·.key) := by
    induction records generalizing kept with
    | nil => rfl
    | cons record rest ih =>
      rw [List.foldl_cons, ← ih, keepSevere_filter, List.filter_cons]
      split <;> rfl
  exact hfold []

/-! ### Order -/

/-- Sorting puts a first record between those that come strictly before it and all others. -/
theorem sortRecords_cons (record : Record) (records : List Record) :
    sortRecords (record :: records) =
      (sortRecords records).filter (!comesFirst record ·) ++
        record :: (sortRecords records).filter (comesFirst record ·) := by
  obtain ⟨before, after, hcons, hrest, hbefore⟩ :=
    List.mergeSort_cons comesFirst_trans comesFirst_total record records
  have hafter : ∀ other ∈ after, comesFirst record other = true := by
    have hsorted := List.pairwise_mergeSort comesFirst_trans comesFirst_total (record :: records)
    rw [hcons, List.pairwise_append, List.pairwise_cons] at hsorted
    exact hsorted.2.1.1
  -- What is sorted in front is strictly before the record, so none of it comes behind; and the
  -- other way round.
  have hlate : before.filter (comesFirst record ·) = [] := by
    rw [List.filter_eq_nil_iff]
    exact fun other hother => by simpa using hbefore other hother
  have hearly : after.filter (!comesFirst record ·) = [] := by
    rw [List.filter_eq_nil_iff]
    exact fun other hother => by simp [hafter other hother]
  rw [sortRecords, sortRecords, hcons, hrest, List.filter_append, List.filter_append,
    List.filter_eq_self.2 hbefore, List.filter_eq_self.2 hafter, hlate, hearly, List.append_nil,
    List.nil_append]

/-- Fewer records are sorted into the same order. -/
theorem sortRecords_sublist {fewer records : List Record} (h : fewer.Sublist records) :
    (sortRecords fewer).Sublist (sortRecords records) := by
  induction h with
  | slnil => exact .refl _
  -- The record is only in the longer list, where it is put between two parts of the sorted rest.
  | cons record _ ih =>
    obtain ⟨before, after, hcons, hrest, -⟩ :=
      List.mergeSort_cons comesFirst_trans comesFirst_total record _
    refine ih.trans ?_
    rw [sortRecords, sortRecords, hcons, hrest]
    exact (List.Sublist.refl before).append (List.sublist_cons_self record after)
  | cons_cons record _ ih =>
    rw [sortRecords_cons, sortRecords_cons]
    exact (ih.filter _).append ((ih.filter _).cons_cons record)

/-! ### All stages after the analyzers -/

/-- The policy alone tells the two configurations apart. -/
theorem admitted_disabling (target : Target) (kind : ChangeKind) (hunks : List Hunk)
    (found : List Record) :
    admitted (target.disabling kind) hunks found =
      (admitted target hunks found).filter (·.kind != kind) := by
  rw [admitted, admitted, Target.disabling, Config.applyPolicy_disabling, Hunk.scope_filter]

/-- Duplicates of one another have one kind, so they stay or go together. -/
theorem surviving_disabling (target : Target) (kind : ChangeKind) (hunks : List Hunk)
    (found : List Record) :
    surviving (target.disabling kind) hunks found =
      (surviving target hunks found).filter (·.kind != kind) := by
  show deduplicate (admitted _ _ _) = (deduplicate (admitted _ _ _)).filter _
  rw [admitted_disabling]
  exact deduplicate_filter (·.kind != kind) _

/-- When another kind is disabled, nothing is inferred that was not inferred before. -/
theorem infers_of_infers_disabling {target : Target} {kind : ChangeKind}
    (hkind : ChangeKind.functionSignatureChanged ≠ kind) {hunks : List Hunk}
    {aboutFunctions others : List Record}
    (h : infers (target.disabling kind) hunks aboutFunctions others = true) :
    infers target hunks aboutFunctions others = true := by
  rw [infers_iff, admitted_disabling] at h
  obtain ⟨hnone, record, hrecord, hkey⟩ := h
  refine infers_iff.2 ⟨fun signature hsignature hsame => ?_,
    record, (List.mem_filter.1 hrecord).1, hkey⟩
  -- A changed signature would have been left in place.
  exact hnone signature (List.mem_filter.2 ⟨hsignature, by simpa [hsame] using hkind⟩) hsame

/-- What is inferred with a kind disabled is inferred without, too. -/
theorem inferred_sublist (target : Target) (kind : ChangeKind) (hunks : List Hunk)
    (aboutFunctions others : List Record) :
    (if infers (target.disabling kind) hunks aboutFunctions others then
        inferredRecord (target.disabling kind) else []).Sublist
      (if infers target hunks aboutFunctions others then inferredRecord target else []) := by
  have hinferred : inferredRecord (target.disabling kind) =
      (inferredRecord target).filter (·.kind != kind) :=
    Config.applyPolicy_disabling target.config kind _
  by_cases hkind : ChangeKind.functionSignatureChanged = kind
  · -- The inferred record is of the kind itself.
    have hnone : inferredRecord (target.disabling kind) = [] := by
      rw [List.eq_nil_iff_forall_not_mem]
      intro record hrecord
      have henabled := (mem_inferredRecord.1 hrecord).1
      rw [Target.disabling, Config.kindEnabled_disabling, hkind] at henabled
      simp at henabled
    rw [hnone, ite_self]
    exact List.nil_sublist _
  · split
    · rename_i hinfers
      rw [if_pos (infers_of_infers_disabling hkind hinfers), hinferred]
      exact List.filter_sublist
    · exact List.nil_sublist _

/-- Nothing comes in, and what is left keeps its order. -/
theorem fold_disabling_sublist (target : Target) (kind : ChangeKind) (hunks : List Hunk)
    (aboutFunctions others : List Record) :
    (fold (target.disabling kind) hunks aboutFunctions others).Sublist
      (fold target hunks aboutFunctions others) := by
  rw [fold_eq, fold_eq, surviving_disabling]
  exact sortRecords_sublist
    (List.filter_sublist.append (inferred_sublist target kind hunks aboutFunctions others))

/-- Only records of the kind and the inferred record can go. -/
theorem mem_fold_disabling {target : Target} {kind : ChangeKind} {hunks : List Hunk}
    {aboutFunctions others : List Record} {record : Record}
    (h : record ∈ fold target hunks aboutFunctions others) (hkind : record.kind ≠ kind)
    (hinferred : record ≠ target.config.regrade (inferredChange target)) :
    record ∈ fold (target.disabling kind) hunks aboutFunctions others := by
  rcases mem_fold.1 h with h | ⟨-, h⟩
  · refine mem_fold.2 (Or.inl ?_)
    rw [surviving_disabling]
    exact List.mem_filter.2 ⟨h, by simpa using hkind⟩
  · exact absurd (mem_inferredRecord.1 h).2.symm hinferred

/-! ### The analyzers -/

open ChangeLens.Analyzer

/-- The comparisons do not read which kinds are disabled. -/
theorem compare_disabling {analyzer : Analyzer} (h : analyzer ∈ all) (target : Target)
    (kind : ChangeKind) (base head : Model) :
    analyzer.compare (target.disabling kind) base head = analyzer.compare target base head := by
  refine compare_congr h ?_ ?_ ?_ base head
  all_goals rfl

/-- So the same analyzers break down. -/
theorem completes_disabling {analyzers : List Analyzer}
    (h : ∀ analyzer ∈ analyzers, analyzer ∈ all) (target : Target) (kind : ChangeKind)
    (base head : Model) :
    Completes analyzers (target.disabling kind) base head ↔
      Completes analyzers target base head := by
  refine forall_congr' fun analyzer => forall_congr' fun hlisted => ?_
  rw [compare_disabling (h analyzer hlisted)]
  rfl

/-- And the same is found. -/
theorem findingsOf_disabling (isChosen : String → Bool) {analyzers : List Analyzer}
    (h : ∀ analyzer ∈ analyzers, analyzer ∈ all) (target : Target) (kind : ChangeKind)
    (base head : Model) :
    findingsOf isChosen analyzers (target.disabling kind) base head =
      findingsOf isChosen analyzers target base head := by
  show List.flatMap _ ((analyzers.filter (·.runsUnder target.config)).filter _) = _
  rw [findingsOf, List.flatMap_def, List.flatMap_def]
  refine congrArg List.flatten (List.map_congr_left fun analyzer hanalyzer => ?_)
  have hlisted := (List.mem_filter.1 (List.mem_filter.1 hanalyzer).1).1
  rw [findings, findings, compare_disabling (h analyzer hlisted)]

/-- The coarser checks do not read which kinds are disabled either. -/
theorem signatureFindings_disabling {analyzers : List Analyzer}
    (h : ∀ analyzer ∈ analyzers, analyzer ∈ all) (target : Target) (kind : ChangeKind)
    (base head : Model) :
    signatureFindings analyzers (target.disabling kind) base head =
      signatureFindings analyzers target base head := by
  rw [signatureFindings, signatureFindings, functionFindings, functionFindings,
    findingsOf_disabling _ h]
  rfl

/-- Between two models, disabling one more kind removes records of this kind and the inferred one. -/
theorem changes_disabling {analyzers : List Analyzer}
    (h : ∀ analyzer ∈ analyzers, analyzer ∈ all) (target : Target) (kind : ChangeKind)
    (hunks : List Hunk) (base head : Model) :
    let before := changes analyzers target hunks base head
    let after := changes analyzers (target.disabling kind) hunks base head
    after.Sublist before ∧
      (∀ record ∈ before, record ∉ after →
        record.kind = kind ∨ record = target.config.regrade (inferredChange target)) ∧
      ∀ record ∈ after, record.kind ≠ kind := by
  by_cases hcompletes : Completes analyzers target base head
  · simp only [changes_of_completes hcompletes,
      changes_of_completes ((completes_disabling h target kind base head).2 hcompletes),
      otherFindings, signatureFindings_disabling h, findingsOf_disabling _ h]
    -- Nothing new is reported, what is gone is of the kind or inferred, and nothing of the kind is
    -- left.
    refine ⟨fold_disabling_sublist _ _ _ _ _, fun record hbefore hafter => ?_,
      fun record hafter hkind => ?_⟩
    · refine or_iff_not_imp_left.2 fun hkind => Decidable.byContradiction fun hinferred => ?_
      exact hafter (mem_fold_disabling hbefore hkind hinferred)
    · have henabled := (mem_fold_graded hafter).1
      rw [Target.disabling, Config.kindEnabled_disabling, hkind] at henabled
      simp at henabled
  · -- An analyzer breaks down under both configurations, and both reports are empty.
    simp only [changes_eq_nil hcompletes,
      changes_eq_nil (mt (completes_disabling h target kind base head).1 hcompletes)]
    exact ⟨.slnil, fun _ hrecord => absurd hrecord List.not_mem_nil,
      fun _ hrecord => absurd hrecord List.not_mem_nil⟩

end Detect

/-- Disabling one more kind only removes records: what is left of them keeps its order, what is gone
is of that kind or the inferred signature change, and nothing of that kind is left. -/
theorem detectChanges_disabling {analyzers : List Analyzer}
    (h : ∀ analyzer ∈ analyzers, analyzer ∈ Analyzer.all) (target : Target) (kind : ChangeKind)
    (hunks : List Hunk) (base head : Source) :
    let before := detectChanges analyzers target hunks base head
    let after := detectChanges analyzers (target.disabling kind) hunks base head
    after.Sublist before ∧
      (∀ record ∈ before, record ∉ after →
        record.kind = kind ∨
          record = target.config.regrade (Detect.inferredChange target)) ∧
      ∀ record ∈ after, record.kind ≠ kind :=
  Detect.changes_disabling h target kind hunks _ _

/-- Two texts without a tree, in which a function loses a parameter, once with changed signatures
disabled. -/
theorem detectChanges_disabling_signatures :
    (∀ analyzer ∈ [Analyzer.types, Analyzer.functions], analyzer ∈ Analyzer.all) ∧
      (detectChanges [Analyzer.types, Analyzer.functions]
          (Target.disabling ⟨"a.ts", {}, Text.similarity⟩ .functionSignatureChanged) []
          ⟨"function f(a) {}", none, _, rfl⟩ ⟨"function f() {}", none, _, rfl⟩).Sublist
        (detectChanges [Analyzer.types, Analyzer.functions] ⟨"a.ts", {}, Text.similarity⟩ []
          ⟨"function f(a) {}", none, _, rfl⟩ ⟨"function f() {}", none, _, rfl⟩) := by
  have hlisted : ∀ analyzer ∈ [Analyzer.types, Analyzer.functions], analyzer ∈ Analyzer.all := by
    simp [Analyzer.all, Analyzer.core]
  exact ⟨hlisted, (detectChanges_disabling hlisted _ _ _ _ _).1⟩

end ChangeLens
