import ChangeLens.Proofs.Folding
import ChangeLens.Text.Distance
import Mathlib.Data.List.Perm.Basic

/-!
# `ChangeLens.Proofs.Reordering`: the order of the analyzers

Analyzers in another order find the same records in another order. Policy and hunks look at each
record alone, and what is inferred depends on which records there are. Duplicates are different: of
equally severe records with one key the first one stays, so the order decides which of them is
reported. It does not decide more: `Detect.mem_ratings_deduplicate` says which keys with which
severities stay, and the order of the records does not occur in it. As the final order is by
severity and position, which both can be read off a key with its severity, it is the same up to
records that stand at the same place in it.

`detectChanges_perm` is the main result. It does not assume that the analyzers do not break down: one
that does leaves nothing to report, wherever it stands.
-/

set_option autoImplicit false

namespace ChangeLens

/-- Severities of the same rank are equal. -/
theorem Severity.eq_of_rank_eq {a b : Severity} (h : a.rank = b.rank) : a = b := by
  cases a <;> cases b <;> first | rfl | cases h

namespace Record

/-- What a record reports, and how severe that is. -/
def rating (record : Record) : RecordKey × Severity :=
  (record.key, record.severity)

/-- What records are sorted by. -/
def standing (record : Record) : Severity × Int × Int :=
  (record.severity, record.span.startLine, record.span.startColumn)

end Record

namespace Detect

/-! ### Duplicates -/

/-- Putting a record among unique ones loses no severity of a key. -/
theorem exists_mem_keepSevere {record a : Record} {kept : List Record} (h : a = record ∨ a ∈ kept) :
    ∃ b ∈ keepSevere record kept, b.key = a.key ∧ a.severity.rank ≤ b.severity.rank := by
  induction kept with
  | nil =>
    rcases h with rfl | h
    · exact ⟨a, List.mem_singleton_self a, rfl, Nat.le_refl _⟩
    · cases h
  | cons first rest ih =>
    rw [keepSevere]
    by_cases hkey : first.key = record.key
    · -- The record has the key of the first one, and the more severe of the two stays.
      rw [if_pos hkey]
      rcases h with rfl | h
      · split
        · exact ⟨a, List.mem_cons_self, rfl, Nat.le_refl _⟩
        · exact ⟨first, List.mem_cons_self, hkey, by omega⟩
      · rcases List.mem_cons.1 h with rfl | h
        · split
          · exact ⟨record, List.mem_cons_self, hkey.symm, by omega⟩
          · exact ⟨a, List.mem_cons_self, rfl, Nat.le_refl _⟩
        · exact ⟨a, List.mem_cons_of_mem _ h, rfl, Nat.le_refl _⟩
    · rw [if_neg hkey]
      -- The first record stays, and the record is compared with the rest.
      have hrest (h : a = record ∨ a ∈ rest) :
          ∃ b ∈ first :: keepSevere record rest,
            b.key = a.key ∧ a.severity.rank ≤ b.severity.rank := by
        obtain ⟨b, hb, hsevere⟩ := ih h
        exact ⟨b, List.mem_cons_of_mem _ hb, hsevere⟩
      rcases h with rfl | h
      · exact hrest (Or.inl rfl)
      · rcases List.mem_cons.1 h with rfl | h
        · exact ⟨a, List.mem_cons_self, rfl, Nat.le_refl _⟩
        · exact hrest (Or.inr h)

/-- Every record leaves one of its key behind that is at least as severe. -/
theorem exists_mem_deduplicate {records : List Record} {a : Record} (h : a ∈ records) :
    ∃ b ∈ deduplicate records, b.key = a.key ∧ a.severity.rank ≤ b.severity.rank := by
  have hfold (records kept : List Record) (a : Record) (h : a ∈ kept ∨ a ∈ records) :
      ∃ b ∈ records.foldl (fun kept record => keepSevere record kept) kept,
        b.key = a.key ∧ a.severity.rank ≤ b.severity.rank := by
    -- A record may be replaced on the way; the rest of the fold is about the one that replaces it.
    induction records generalizing kept a with
    | nil => exact ⟨a, h.resolve_right List.not_mem_nil, rfl, Nat.le_refl _⟩
    | cons first rest ih =>
      rw [List.foldl_cons]
      have hstep (h : a = first ∨ a ∈ kept) :
          ∃ b ∈ rest.foldl (fun kept record => keepSevere record kept) (keepSevere first kept),
            b.key = a.key ∧ a.severity.rank ≤ b.severity.rank := by
        obtain ⟨b, hb, hkey, hsevere⟩ := exists_mem_keepSevere h
        obtain ⟨c, hc, hkey', hsevere'⟩ := ih _ b (Or.inl hb)
        exact ⟨c, hc, hkey'.trans hkey, Nat.le_trans hsevere hsevere'⟩
      rcases h with h | h
      · exact hstep (Or.inr h)
      · rcases List.mem_cons.1 h with rfl | h
        · exact hstep (Or.inl rfl)
        · exact ih _ a (Or.inr h)
  exact hfold records [] a (Or.inr h)

/-- A key stays with the greatest severity that one of its records has. -/
theorem mem_ratings_deduplicate {records : List Record} {key : RecordKey} {severity : Severity} :
    (key, severity) ∈ (deduplicate records).map Record.rating ↔
      (∃ record ∈ records, record.rating = (key, severity)) ∧
        ∀ record ∈ records, record.key = key → record.severity.rank ≤ severity.rank := by
  rw [List.mem_map]
  constructor
  · rintro ⟨kept, hkept, hrating⟩
    cases hrating
    refine ⟨⟨kept, mem_of_mem_deduplicate hkept, rfl⟩, fun record hrecord hkey => ?_⟩
    obtain ⟨other, hother, hotherKey, hsevere⟩ := exists_mem_deduplicate hrecord
    -- Keys are unique among the records that stay.
    have hsame : other = kept :=
      List.inj_on_of_nodup_map (deduplicate_nodup records) hother hkept (hotherKey.trans hkey)
    exact hsame ▸ hsevere
  · rintro ⟨⟨record, hrecord, hrating⟩, hgreatest⟩
    cases hrating
    obtain ⟨kept, hkept, hkey, hsevere⟩ := exists_mem_deduplicate hrecord
    have hbound := hgreatest kept (mem_of_mem_deduplicate hkept) hkey
    have hseverity : kept.severity = record.severity :=
      Severity.eq_of_rank_eq (Nat.le_antisymm hbound hsevere)
    exact ⟨kept, hkept, by rw [Record.rating, hkey, hseverity]⟩

/-- No rating occurs twice, because no key does. -/
theorem ratings_nodup (records : List Record) :
    ((deduplicate records).map Record.rating).Nodup := by
  refine List.Nodup.of_map Prod.fst ?_
  rw [List.map_map]
  exact deduplicate_nodup records

/-- The ratings after removing duplicates do not depend on the order of the records. -/
theorem deduplicate_perm {first second : List Record} (h : first.Perm second) :
    ((deduplicate first).map Record.rating).Perm ((deduplicate second).map Record.rating) := by
  rw [List.perm_ext_iff_of_nodup (ratings_nodup first) (ratings_nodup second)]
  rintro ⟨key, severity⟩
  simp only [mem_ratings_deduplicate, h.mem_iff]

/-! ### All stages after the analyzers -/

/-- Filtering by the configuration and the hunks respects the order of the records. -/
theorem admitted_perm (target : Target) (hunks : List Hunk) {first second : List Record}
    (h : first.Perm second) :
    (admitted target hunks first).Perm (admitted target hunks second) := by
  have hallowed : (target.config.applyPolicy first).Perm (target.config.applyPolicy second) :=
    (h.filter _).map _
  rw [admitted, admitted, Hunk.scope, Hunk.scope]
  split
  · exact hallowed
  · exact hallowed.filter _

/-- What is inferred does not depend on the order of the findings. -/
theorem infers_perm (target : Target) (hunks : List Hunk)
    {aboutFunctions aboutFunctions' others others' : List Record}
    (hfunctions : aboutFunctions.Perm aboutFunctions') (hothers : others.Perm others') :
    infers target hunks aboutFunctions others = infers target hunks aboutFunctions' others' := by
  have hadmitted := admitted_perm target hunks (hfunctions.append hothers)
  rw [Bool.eq_iff_iff, infers_iff, infers_iff]
  simp only [hadmitted.mem_iff, (hothers.map Record.key).mem_iff]

/-- All stages after the analyzers give the same ratings for records in another order. -/
theorem fold_ratings_perm (target : Target) (hunks : List Hunk)
    {aboutFunctions aboutFunctions' others others' : List Record}
    (hfunctions : aboutFunctions.Perm aboutFunctions') (hothers : others.Perm others') :
    ((fold target hunks aboutFunctions others).map Record.rating).Perm
      ((fold target hunks aboutFunctions' others').map Record.rating) := by
  have hsorted (records : List Record) :
      ((sortRecords records).map Record.rating).Perm (records.map Record.rating) :=
    (List.mergeSort_perm records _).map _
  have hsurviving := deduplicate_perm (admitted_perm target hunks (hfunctions.append hothers))
  rw [fold_eq, fold_eq, infers_perm target hunks hfunctions hothers]
  refine (hsorted _).trans (List.Perm.trans ?_ (hsorted _).symm)
  rw [List.map_append, List.map_append]
  exact hsurviving.append_right _

/-- Sorted records with the same standings have them in the same order. -/
theorem standings_eq {first second : List Record} (hfirst : first.Pairwise Record.Precedes)
    (hsecond : second.Pairwise Record.Precedes)
    (h : (first.map Record.rating).Perm (second.map Record.rating)) :
    first.map Record.standing = second.map Record.standing := by
  let precedes (a b : Severity × Int × Int) : Prop :=
    b.1.rank < a.1.rank ∨
      a.1.rank = b.1.rank ∧ (a.2.1 < b.2.1 ∨ a.2.1 = b.2.1 ∧ a.2.2 ≤ b.2.2)
  -- Two sorted lists with the same items are equal, because a standing that comes before another
  -- one and after it is that one.
  have hantisymm (a b : Severity × Int × Int) (hab : precedes a b) (hba : precedes b a) :
      a = b := by
    simp only [precedes] at hab hba
    have hseverity : a.1 = b.1 := Severity.eq_of_rank_eq (by omega)
    exact Prod.ext hseverity (Prod.ext (by omega) (by omega))
  have hstandings : (first.map Record.standing).Perm (second.map Record.standing) := by
    have hmap := h.map fun rating : RecordKey × Severity =>
      (rating.2, rating.1.position.line, rating.1.position.column)
    rw [List.map_map, List.map_map] at hmap
    exact hmap
  have hordered {records : List Record} (hrecords : records.Pairwise Record.Precedes) :
      (records.map Record.standing).Pairwise precedes :=
    List.pairwise_map.2 hrecords
  exact hstandings.eq_of_pairwise (fun a b _ _ => hantisymm a b) (hordered hfirst)
    (hordered hsecond)

/-! ### The analyzers -/

/-- Analyzers in another order find the same records. -/
theorem findingsOf_perm (isChosen : String → Bool) {first second : List Analyzer}
    (h : first.Perm second) (target : Target) (base head : Model) :
    (findingsOf isChosen first target base head).Perm
      (findingsOf isChosen second target base head) :=
  ((h.filter _).filter _).flatMap_right _

/-- The coarser checks ask only whether a changed signature was found. -/
theorem fallbacks_congr (target : Target) (base head : Model) {found found' : List Record}
    (h : hasSignatureChange found = hasSignatureChange found') :
    fallbacks target base head found = fallbacks target base head found' := by
  rw [fallbacks, fallbacks, h]

/-- Analyzers in another order find the same changes of signatures. -/
theorem signatureFindings_perm {first second : List Analyzer} (h : first.Perm second)
    (target : Target) (base head : Model) :
    (signatureFindings first target base head).Perm
      (signatureFindings second target base head) := by
  have hfound := findingsOf_perm (· == "functions") h target base head
  have hfallbacks := fallbacks_congr target base head (hfound.any_eq)
  rw [signatureFindings, signatureFindings]
  exact hfound.append (.of_eq hfallbacks)

/-- Whether the analyzers all complete does not depend on their order. -/
theorem completes_perm {first second : List Analyzer} (h : first.Perm second) {target : Target}
    {base head : Model} :
    Completes first target base head ↔ Completes second target base head := by
  simp only [Completes, h.mem_iff]

end Detect

/-- The order of the analyzers does not matter: the same keys are reported with the same severities,
and severities and positions come in the same order. -/
theorem detectChanges_perm {first second : List Analyzer} (h : first.Perm second) (target : Target)
    (hunks : List Hunk) (base head : Source) :
    ((detectChanges first target hunks base head).map Record.rating).Perm
        ((detectChanges second target hunks base head).map Record.rating) ∧
      (detectChanges first target hunks base head).map Record.standing =
        (detectChanges second target hunks base head).map Record.standing := by
  simp only [detectChanges]
  generalize Model.ofSource base (dialectForPath target.path) = before
  generalize Model.ofSource head (dialectForPath target.path) = after
  by_cases hcompletes : Detect.Completes first target before after
  · rw [Detect.changes_of_completes hcompletes,
      Detect.changes_of_completes ((Detect.completes_perm h).1 hcompletes)]
    have hratings := Detect.fold_ratings_perm target hunks
      (Detect.signatureFindings_perm h target before after)
      (Detect.findingsOf_perm (!· == "functions") h target before after)
    exact ⟨hratings, Detect.standings_eq (Detect.sortRecords_sorted _)
      (Detect.sortRecords_sorted _) hratings⟩
  · rw [Detect.changes_eq_nil hcompletes,
      Detect.changes_eq_nil (mt (Detect.completes_perm h).2 hcompletes)]
    exact ⟨.refl _, rfl⟩

/-- The registry back to front, on two texts without a tree, in which a function loses a
parameter. -/
theorem detectChanges_perm_reverse :
    Analyzer.all.reverse.Perm Analyzer.all ∧
      (detectChanges Analyzer.all.reverse ⟨"a.ts", {}, Text.similarity⟩ [] ⟨"function f(a) {}", none, _, rfl⟩
          ⟨"function f() {}", none, _, rfl⟩).map Record.standing =
        (detectChanges Analyzer.all ⟨"a.ts", {}, Text.similarity⟩ [] ⟨"function f(a) {}", none, _, rfl⟩
          ⟨"function f() {}", none, _, rfl⟩).map Record.standing :=
  ⟨List.reverse_perm _, (detectChanges_perm (List.reverse_perm _) _ _ _ _).2⟩

end ChangeLens
