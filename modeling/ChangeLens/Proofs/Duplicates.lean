import ChangeLens.Proofs.Reordering
import Mathlib.Data.List.Induction

/-!
# `ChangeLens.Proofs.Duplicates`: which of several records with one key stays

`Detect.deduplicate` goes through the records once and keeps a list with one record for each key. A
more severe record takes the place of the one that was kept, so a record may stand further to the
front than where it was found: places go by the first occurrence of a key
(`Detect.map_key_deduplicate`), records by severity (`Detect.mem_deduplicate_iff`).

`Record.FirstMostSevere` says which record of a key that is, without the list that is kept on the
way. Each record in turn is the last one of those seen so far, so `Detect.firstMostSevere_of_mem`
goes by induction from the back, with `Detect.mem_keepSevere_iff` for one step.

`Detect.deduplicate_firstMostSevere` is the main result. It also says that the question whether
tests are required can be asked before or after duplicates are gone: a kind that requires tests at
some severity requires them at every greater one (`Config.changeRequiresTests_mono`).
-/

set_option autoImplicit false

namespace ChangeLens

/-! ### Tests -/

namespace Config

/-- What requires tests does so all the more when it is more severe. -/
theorem changeRequiresTests_mono {config : Config} {kind : ChangeKind} {less more : Severity}
    (hle : less.rank ≤ more.rank) (h : config.changeRequiresTests kind less = true) :
    config.changeRequiresTests kind more = true := by
  unfold changeRequiresTests at h ⊢
  split
  · rfl
  · rename_i hlisted
    rw [if_neg hlisted] at h
    split
    · rename_i hnever
      rw [if_pos hnever] at h
      cases h
    · rename_i hnever
      rw [if_neg hnever] at h
      split at h
      · exact decide_eq_true (Nat.le_trans (of_decide_eq_true h) hle)
      · -- Nothing is more severe than `high`.
        obtain rfl := eq_of_beq h
        cases more
        · exact absurd hle (by decide)
        · exact absurd hle (by decide)
        · rfl

/-- Tests are required exactly if some record requires them. -/
theorem requiresTests_iff {config : Config} {records : List Record} :
    config.requiresTests records = true ↔
      ∃ record ∈ records, config.changeRequiresTests record.kind record.severity = true :=
  List.any_eq_true

end Config

/-! ### The record that stays -/

/-- A record is the first most severe one of its key: all earlier ones of the key are less severe,
and no later one is more severe. -/
def Record.FirstMostSevere (records : List Record) (record : Record) : Prop :=
  ∃ before after, records = before ++ record :: after ∧
    (∀ other ∈ before, other.key = record.key → other.severity.rank < record.severity.rank) ∧
    ∀ other ∈ after, other.key = record.key → other.severity.rank ≤ record.severity.rank

/-- There is one first most severe record of a key. -/
theorem Record.FirstMostSevere.eq {records : List Record} {a b : Record}
    (ha : a.FirstMostSevere records) (hb : b.FirstMostSevere records) (hkey : a.key = b.key) :
    a = b := by
  -- Of two places, the record at the later one would be more severe and not more severe.
  have hnever {before between after : List Record} {a b : Record} (hkey : a.key = b.key)
      (hbefore : ∀ other ∈ before ++ a :: between, other.key = b.key →
        other.severity.rank < b.severity.rank)
      (hafter : ∀ other ∈ between ++ b :: after, other.key = a.key →
        other.severity.rank ≤ a.severity.rank) : False := by
    have hless := hbefore a (by simp) hkey
    have hmore := hafter b (by simp) hkey.symm
    omega
  obtain ⟨before, after, rfl, hbefore, hafter⟩ := ha
  obtain ⟨before', after', hsplit, hbefore', hafter'⟩ := hb
  rcases List.append_eq_append_iff.1 hsplit with ⟨between, hfront, hback⟩ | ⟨between, hfront, hback⟩
  · cases between with
    | nil => exact (List.cons.inj hback).1
    | cons first between =>
      obtain ⟨rfl, rfl⟩ := List.cons.inj hback
      exact (hnever hkey (hfront ▸ hbefore') hafter).elim
  · cases between with
    | nil => exact (List.cons.inj hback).1.symm
    | cons first between =>
      obtain ⟨rfl, rfl⟩ := List.cons.inj hback
      exact (hnever hkey.symm (hfront ▸ hbefore) hafter').elim

namespace Detect

/-- The fold takes one record after the other, so the last one is compared with what was kept of the
others. -/
theorem deduplicate_concat (records : List Record) (record : Record) :
    deduplicate (records ++ [record]) = keepSevere record (deduplicate records) :=
  List.foldl_append

/-- What is kept after one more record: the records that it does not surpass, and the record itself
if it surpasses the one of its key. -/
theorem mem_keepSevere_iff {record a : Record} {kept : List Record}
    (hkept : (kept.map Record.key).Nodup) :
    a ∈ keepSevere record kept ↔
      a ∈ kept ∧ (a.key = record.key → record.severity.rank ≤ a.severity.rank) ∨
        a = record ∧ ∀ b ∈ kept, b.key = record.key → b.severity.rank < record.severity.rank := by
  induction kept with
  | nil => simp [keepSevere]
  | cons first rest ih =>
    obtain ⟨hfirst, hrest⟩ := List.nodup_cons.1 hkept
    rw [keepSevere]
    by_cases hkey : first.key = record.key
    · -- No other record that is kept has this key.
      have hother : ∀ b ∈ rest, b.key ≠ record.key := fun b hb hbkey =>
        hfirst (List.mem_map.2 ⟨b, hb, hbkey.trans hkey.symm⟩)
      rw [if_pos hkey]
      split <;> rename_i hsevere
      · constructor
        · intro ha
          rcases List.mem_cons.1 ha with rfl | ha
          · refine Or.inr ⟨rfl, fun b hb hbkey => ?_⟩
            rcases List.mem_cons.1 hb with rfl | hb
            · exact hsevere
            · exact absurd hbkey (hother b hb)
          · exact Or.inl ⟨List.mem_cons_of_mem _ ha, fun hakey => absurd hakey (hother a ha)⟩
        · rintro (⟨ha, hnot⟩ | ⟨rfl, -⟩)
          · rcases List.mem_cons.1 ha with rfl | ha
            · exact absurd (hnot hkey) (Nat.not_le_of_lt hsevere)
            · exact List.mem_cons_of_mem _ ha
          · exact List.mem_cons_self
      · constructor
        · intro ha
          refine Or.inl ⟨ha, fun hakey => ?_⟩
          rcases List.mem_cons.1 ha with rfl | ha
          · exact Nat.le_of_not_lt hsevere
          · exact absurd hakey (hother a ha)
        · rintro (⟨ha, -⟩ | ⟨-, hmost⟩)
          · exact ha
          · exact absurd (hmost first List.mem_cons_self hkey) hsevere
    · rw [if_neg hkey, List.mem_cons, ih hrest]
      constructor
      · rintro (rfl | ⟨ha, hnot⟩ | ⟨rfl, hmost⟩)
        · exact Or.inl ⟨List.mem_cons_self, fun hakey => absurd hakey hkey⟩
        · exact Or.inl ⟨List.mem_cons_of_mem _ ha, hnot⟩
        · refine Or.inr ⟨rfl, fun b hb hbkey => ?_⟩
          rcases List.mem_cons.1 hb with rfl | hb
          · exact absurd hbkey hkey
          · exact hmost b hb hbkey
      · rintro (⟨ha, hnot⟩ | ⟨rfl, hmost⟩)
        · exact (List.mem_cons.1 ha).imp_right fun ha => Or.inl ⟨ha, hnot⟩
        · exact Or.inr (Or.inr ⟨rfl, fun b hb => hmost b (List.mem_cons_of_mem _ hb)⟩)

/-- What is kept for a key is the first of the most severe records of this key. -/
theorem firstMostSevere_of_mem {records : List Record} {record : Record}
    (h : record ∈ deduplicate records) : record.FirstMostSevere records := by
  induction records using List.reverseRecOn with
  | nil => cases h
  | append_singleton records last ih =>
    rw [deduplicate_concat, mem_keepSevere_iff (deduplicate_nodup records)] at h
    rcases h with ⟨hkept, hnot⟩ | ⟨rfl, hmost⟩
    · obtain ⟨before, after, rfl, hbefore, hafter⟩ := ih hkept
      refine ⟨before, after ++ [last], by simp, hbefore, fun other hother hkey => ?_⟩
      rcases List.mem_append.1 hother with hother | hother
      · exact hafter other hother hkey
      · obtain rfl := List.mem_singleton.1 hother
        exact hnot hkey.symm
    · -- Whatever has this key is at most as severe as the record that was kept for it.
      refine ⟨records, [], rfl, fun other hother hkey => ?_, fun _ hnone => by cases hnone⟩
      obtain ⟨kept, hkept, hsame, hle⟩ := exists_mem_deduplicate hother
      exact Nat.lt_of_le_of_lt hle (hmost kept hkept (hsame.trans hkey))

/-- The records that stay are the first most severe ones of their keys. -/
theorem mem_deduplicate_iff {records : List Record} {record : Record} :
    record ∈ deduplicate records ↔ record.FirstMostSevere records := by
  refine ⟨firstMostSevere_of_mem, fun hfirst => ?_⟩
  have hmem : record ∈ records := by
    obtain ⟨before, after, rfl, -⟩ := hfirst
    simp
  obtain ⟨kept, hkept, hkey, -⟩ := exists_mem_deduplicate hmem
  rw [hfirst.eq (firstMostSevere_of_mem hkept) hkey.symm]
  exact hkept

/-! ### Their places -/

/-- Keys stay in the order in which they first occur. -/
theorem map_key_deduplicate (records : List Record) :
    (deduplicate records).map Record.key = (records.map Record.key).eraseDups := by
  induction records using List.reverseRecOn with
  | nil => rfl
  | append_singleton records last ih =>
    rw [deduplicate_concat, map_key_keepSevere, ih, List.map_append, List.eraseDups_append,
      List.removeAll, List.map_singleton, List.filter_singleton]
    by_cases hknown : last.key ∈ records.map Record.key
    · rw [if_pos (List.mem_eraseDups.2 hknown), List.elem_eq_true_of_mem hknown]
      exact (List.append_nil _).symm
    · rw [if_neg fun hmem => hknown (List.mem_eraseDups.1 hmem),
        Bool.eq_false_iff.2 (mt List.elem_iff.1 hknown)]
      rfl

/-- A record with a new key goes behind the others. -/
theorem keepSevere_of_notMem {record : Record} {kept : List Record}
    (h : record.key ∉ kept.map Record.key) : keepSevere record kept = kept ++ [record] := by
  induction kept with
  | nil => rfl
  | cons first rest ih =>
    rw [List.map_cons, List.mem_cons, not_or] at h
    rw [keepSevere, if_neg (Ne.symm h.1), ih h.2, List.cons_append]

/-- Where there are no duplicates, everything stays as it is. -/
theorem deduplicate_of_nodup {records : List Record} (h : (records.map Record.key).Nodup) :
    deduplicate records = records := by
  induction records using List.reverseRecOn with
  | nil => rfl
  | append_singleton records last ih =>
    rw [List.map_append, List.nodup_append] at h
    obtain ⟨hrecords, -, hdisjoint⟩ := h
    have hnew : last.key ∉ records.map Record.key := fun hmem =>
      hdisjoint _ hmem _ (List.mem_singleton_self _) rfl
    rw [deduplicate_concat, ih hrecords, keepSevere_of_notMem hnew]

/-! ### The verdict -/

/-- Removing duplicates does not change the verdict: the most severe record of a key stays. -/
theorem requiresTests_deduplicate (config : Config) (records : List Record) :
    config.requiresTests (deduplicate records) = config.requiresTests records := by
  rw [Bool.eq_iff_iff, Config.requiresTests_iff, Config.requiresTests_iff]
  constructor
  · rintro ⟨record, hrecord, hrequires⟩
    exact ⟨record, mem_of_mem_deduplicate hrecord, hrequires⟩
  · rintro ⟨record, hrecord, hrequires⟩
    obtain ⟨kept, hkept, hkey, hsevere⟩ := exists_mem_deduplicate hrecord
    have hkind : kept.kind = record.kind := congrArg RecordKey.kind hkey
    rw [← hkind] at hrequires
    exact ⟨kept, hkept, Config.changeRequiresTests_mono hsevere hrequires⟩

/-- Sorting does not change the verdict. -/
theorem requiresTests_sortRecords (config : Config) (records : List Record) :
    config.requiresTests (sortRecords records) = config.requiresTests records :=
  (List.mergeSort_perm records comesFirst).any_eq

/-- Of the records with one key the first most severe one stays, at the place at which the key first
occurs. Without duplicates nothing changes any more. Neither this nor sorting changes whether tests
are required. -/
theorem deduplicate_firstMostSevere (records : List Record) :
    (deduplicate records).map Record.key = (records.map Record.key).eraseDups ∧
      (∀ record, record ∈ deduplicate records ↔ record.FirstMostSevere records) ∧
      deduplicate (deduplicate records) = deduplicate records ∧
      ∀ config : Config,
        config.requiresTests (deduplicate records) = config.requiresTests records ∧
          config.requiresTests (sortRecords records) = config.requiresTests records ∧
          config.requiresTests (sortRecords (deduplicate records)) =
            config.requiresTests records := by
  refine ⟨map_key_deduplicate records, fun _ => mem_deduplicate_iff,
    deduplicate_of_nodup (deduplicate_nodup records), fun config => ?_⟩
  refine ⟨requiresTests_deduplicate config records, requiresTests_sortRecords config records, ?_⟩
  rw [requiresTests_sortRecords, requiresTests_deduplicate]

end Detect

end ChangeLens
