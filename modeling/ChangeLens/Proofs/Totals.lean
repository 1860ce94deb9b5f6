import ChangeLens.Proofs.PrintedDiffs
import ChangeLens.Report
import Mathlib.Algebra.GroupWithZero.Nat
import Mathlib.Data.List.Induction
import Mathlib.Data.List.Nodup

/-!
# `ChangeLens.Proofs.Totals`: a report adds up

`Report.build` counts the same changes several times: all of them, by severity, by kind, the severe
ones it names, and once more in the line that sums it up.

* `Report.Tallied` says what the counts of kinds have to do with the changes. `tallied_countChange`
  and `firstSeen_countChange` are the step of the loop that counts them, `tallied_tally` is the
  whole loop.
* `countKinds_pairwise`: sorting by frequency is stable, so that order decides between kinds that
  occur equally often.
* `summary_eq_iff`: the line can be read back. Two reports have the same line exactly if they have
  the same counts and the same verdict.
* `Report.build_adds_up` puts this together.
-/

set_option autoImplicit false

namespace ChangeLens

namespace Report

variable {change : Record} {seen : List Record} {entries : List KindCount}

/-! ### The loop that counts kinds -/

/-- The counts of the changes so far, in the order in which their kinds first occur. -/
def tally (changes : List Record) : List KindCount :=
  changes.foldl (fun entries change => countChange change entries) []

/-- The count of a kind is right: its number of changes and the greatest severity among them. -/
structure Counted (seen : List Record) (entry : KindCount) : Prop where
  /-- The kind is counted as often as it occurs. -/
  count : entry.count = seen.countP fun change => change.kind = entry.kind
  /-- Some change of the kind has the severity. -/
  attained : ∃ change ∈ seen, change.kind = entry.kind ∧ change.severity = entry.worst
  /-- No change of the kind has a greater one. -/
  greatest : ∀ change ∈ seen, change.kind = entry.kind → change.severity.rank ≤ entry.worst.rank

/-- Each kind that occurs is counted once, and its count is right. -/
structure Tallied (seen : List Record) (entries : List KindCount) : Prop where
  /-- No kind is counted twice. -/
  nodup : (entries.map (·.kind)).Nodup
  /-- The kinds that are counted are those that occur. -/
  occurs : ∀ kind, kind ∈ entries.map (·.kind) ↔ kind ∈ seen.map (·.kind)
  /-- The counts are right. -/
  counted : ∀ entry ∈ entries, Counted seen entry

/-- One kind occurs before another one does. -/
def FirstSeen (seen : List Record) (a b : ChangeKind) : Prop :=
  (seen.map (·.kind)).idxOf a < (seen.map (·.kind)).idxOf b

/-- A kind that was not counted yet is counted behind the others. -/
theorem countChange_of_notMem (h : change.kind ∉ entries.map (·.kind)) :
    countChange change entries = entries ++ [⟨change.kind, 1, change.severity⟩] := by
  induction entries with
  | nil => rfl
  | cons first rest ih =>
    obtain ⟨hne, hrest⟩ := not_or.1 (fun hin => h (List.mem_cons.2 hin))
    rw [countChange, if_neg (Ne.symm hne), ih hrest]
    rfl

/-- A kind that was counted already is counted where it stands. -/
theorem countChange_of_mem (h : change.kind ∈ entries.map (·.kind)) :
    ∃ front entry back, entries = front ++ entry :: back ∧ entry.kind = change.kind ∧
      countChange change entries =
        front ++ ⟨entry.kind, entry.count + 1, entry.worst.worse change.severity⟩ :: back := by
  induction entries with
  | nil => cases h
  | cons first rest ih =>
    -- The entry is the first one of its kind; those in front of it are passed unchanged.
    by_cases hfirst : first.kind = change.kind
    · exact ⟨[], first, rest, rfl, hfirst, by rw [countChange, if_pos hfirst, List.nil_append]⟩
    · have hrest : change.kind ∈ rest.map (·.kind) :=
        (List.mem_cons.1 h).resolve_left (Ne.symm hfirst)
      obtain ⟨front, entry, back, rfl, hkind, hcount⟩ := ih hrest
      exact ⟨first :: front, entry, back, rfl, hkind, by
        rw [countChange, if_neg hfirst, hcount, List.cons_append]⟩

/-- Counting a kind that is known leaves the list of kinds. -/
theorem map_kind_countChange_of_mem (h : change.kind ∈ entries.map (·.kind)) :
    (countChange change entries).map (·.kind) = entries.map (·.kind) := by
  obtain ⟨front, entry, back, rfl, -, hcount⟩ := countChange_of_mem h
  simp [hcount]

/-- Each change adds one to the sum of all counts. -/
theorem sum_countChange (change : Record) (entries : List KindCount) :
    ((countChange change entries).map (·.count)).sum = (entries.map (·.count)).sum + 1 := by
  by_cases h : change.kind ∈ entries.map (·.kind)
  · obtain ⟨front, entry, back, rfl, -, hcount⟩ := countChange_of_mem h
    simp [hcount]
    omega
  · simp [countChange_of_notMem h]

/-- The worse of two severities has the greater rank. -/
theorem rank_worse (a b : Severity) : (a.worse b).rank = max a.rank b.rank := by
  cases a <;> cases b <;> rfl

/-- The worse of two severities is one of them. -/
theorem worse_eq_or (a b : Severity) : a.worse b = a ∨ a.worse b = b := by
  rw [Severity.worse]
  split
  · exact .inr rfl
  · exact .inl rfl

/-- A change of another kind leaves a count right. -/
theorem Counted.other {entry : KindCount} (h : Counted seen entry)
    (hkind : change.kind ≠ entry.kind) : Counted (seen ++ [change]) entry := by
  obtain ⟨hcount, ⟨best, hbest, hattained⟩, hgreatest⟩ := h
  refine ⟨?_, ⟨best, List.mem_append_left _ hbest, hattained⟩, fun other hother hsame => ?_⟩
  · simp [hcount, hkind]
  · rcases List.mem_append.1 hother with hseen | hlast
    · exact hgreatest other hseen hsame
    · rw [List.mem_singleton.1 hlast] at hsame
      exact absurd hsame hkind

/-- A change of the same kind is counted in. -/
theorem Counted.same {entry : KindCount} (h : Counted seen entry)
    (hkind : change.kind = entry.kind) : Counted (seen ++ [change])
      ⟨entry.kind, entry.count + 1, entry.worst.worse change.severity⟩ := by
  obtain ⟨hcount, ⟨best, hbest, hsame, hworst⟩, hgreatest⟩ := h
  refine ⟨?_, ?_, fun other hother hsame => ?_⟩
  · simp [hcount, hkind]
  · -- The worst severity is the old one or that of the change, so there is still a change that has
    -- it.
    rcases worse_eq_or entry.worst change.severity with heq | heq
    · exact ⟨best, List.mem_append_left _ hbest, hsame, by rw [hworst, heq]⟩
    · exact ⟨change, List.mem_append_right _ List.mem_cons_self, hkind, heq.symm⟩
  · rw [rank_worse]
    rcases List.mem_append.1 hother with hseen | hlast
    · have := hgreatest other hseen hsame
      omega
    · rw [List.mem_singleton.1 hlast]
      omega

/-- The first change of a kind counts as one. -/
theorem counted_first (h : change.kind ∉ seen.map (·.kind)) :
    Counted (seen ++ [change]) ⟨change.kind, 1, change.severity⟩ := by
  have hnone (other : Record) (hother : other ∈ seen) : other.kind ≠ change.kind := fun heq =>
    h (heq ▸ List.mem_map_of_mem hother)
  refine ⟨?_, ⟨change, List.mem_append_right _ List.mem_cons_self, rfl, rfl⟩,
    fun other hother hsame => ?_⟩
  · -- No change before has the kind.
    have hzero : seen.countP (fun other => other.kind = change.kind) = 0 := by
      simpa [List.countP_eq_zero] using hnone
    simp [hzero]
  · rcases List.mem_append.1 hother with hseen | hlast
    · exact absurd hsame (hnone other hseen)
    · exact Nat.le_of_eq (by rw [List.mem_singleton.1 hlast])

/-- One more change leaves the order of the kinds before it. -/
theorem firstSeen_append {a b : ChangeKind} (ha : a ∈ seen.map (·.kind)) (h : FirstSeen seen a b) :
    FirstSeen (seen ++ [change]) a b := by
  -- The first place of `b` can only move back, and only if `b` has not been seen before.
  have hb : (seen.map (·.kind)).idxOf b ≤ ((seen ++ [change]).map (·.kind)).idxOf b := by
    rw [List.map_append]
    by_cases hin : b ∈ seen.map (·.kind)
    · exact Nat.le_of_eq (List.idxOf_append_of_mem hin).symm
    · rw [List.idxOf_append_of_notMem hin]
      exact Nat.le_trans List.idxOf_le_length (Nat.le_add_right _ _)
  rw [FirstSeen] at h ⊢
  rw [List.map_append, List.idxOf_append_of_mem ha, ← List.map_append]
  exact Nat.lt_of_lt_of_le h hb

/-- Counting a new kind puts it at the end of the list of kinds. -/
theorem map_kind_countChange_of_notMem (h : change.kind ∉ entries.map (·.kind)) :
    (countChange change entries).map (·.kind) = entries.map (·.kind) ++ [change.kind] := by
  rw [countChange_of_notMem h, List.map_append]
  rfl

/-- A change of a kind that was counted already is counted in. -/
theorem Tallied.known (h : Tallied seen entries) (hin : change.kind ∈ entries.map (·.kind)) :
    Tallied (seen ++ [change]) (countChange change entries) := by
  have hkinds := map_kind_countChange_of_mem hin
  obtain ⟨front, entry, back, rfl, hkind, hcount⟩ := countChange_of_mem hin
  refine ⟨hkinds ▸ h.nodup, fun kind => ?_, ?_⟩
  · rw [hkinds, h.occurs, List.map_append, List.mem_append]
    refine ⟨.inl, fun hseen => hseen.elim id fun hlast => ?_⟩
    exact List.mem_singleton.1 hlast ▸ (h.occurs _).1 hin
  · -- The kind of the change stands nowhere else.
    have hnodup := h.nodup
    rw [List.map_append, List.map_cons, List.nodup_middle, List.nodup_cons, hkind,
      ← List.map_append] at hnodup
    rw [hcount]
    intro other hother
    rcases List.mem_append.1 hother with hfront | hback
    · refine (h.counted other (List.mem_append_left _ hfront)).other fun heq => hnodup.1 ?_
      exact heq ▸ List.mem_map_of_mem (List.mem_append_left _ hfront)
    · rcases List.mem_cons.1 hback with rfl | hback
      · exact (h.counted entry (by simp)).same hkind.symm
      · refine (h.counted other (by simp [hback])).other fun heq => hnodup.1 ?_
        exact heq ▸ List.mem_map_of_mem (List.mem_append_right _ hback)

/-- The first change of a kind is counted as one. -/
theorem Tallied.first (h : Tallied seen entries) (hin : change.kind ∉ entries.map (·.kind)) :
    Tallied (seen ++ [change]) (countChange change entries) := by
  have hseen : change.kind ∉ seen.map (·.kind) := fun hseen => hin ((h.occurs _).2 hseen)
  have hkinds := map_kind_countChange_of_notMem hin
  refine ⟨?_, fun kind => ?_, ?_⟩
  · -- The new kind stands behind the old ones and is none of them.
    rw [hkinds, List.nodup_append]
    refine ⟨h.nodup, by simp, fun kind hkind other hother => ?_⟩
    rintro rfl
    exact hin (List.mem_singleton.1 hother ▸ hkind)
  · rw [hkinds, List.mem_append, List.map_append, List.mem_append, h.occurs]
    rfl
  · rw [countChange_of_notMem hin]
    intro other hother
    rcases List.mem_append.1 hother with hold | hnew
    · refine (h.counted other hold).other fun heq => hin ?_
      exact heq ▸ List.mem_map_of_mem hold
    · exact List.mem_singleton.1 hnew ▸ counted_first hseen

/-- Counting one more change keeps the counts right. -/
theorem tallied_countChange (h : Tallied seen entries) (change : Record) :
    Tallied (seen ++ [change]) (countChange change entries) := by
  by_cases hin : change.kind ∈ entries.map (·.kind)
  · exact h.known hin
  · exact h.first hin

/-- Counting one more change keeps the order in which the kinds first occur. -/
theorem firstSeen_countChange (h : Tallied seen entries)
    (horder : (entries.map (·.kind)).Pairwise (FirstSeen seen)) (change : Record) :
    ((countChange change entries).map (·.kind)).Pairwise (FirstSeen (seen ++ [change])) := by
  have horder' : (entries.map (·.kind)).Pairwise (FirstSeen (seen ++ [change])) :=
    horder.imp_of_mem fun ha _ => firstSeen_append ((h.occurs _).1 ha)
  by_cases hin : change.kind ∈ entries.map (·.kind)
  · rwa [map_kind_countChange_of_mem hin]
  · -- The new kind comes last, and each kind in front of it has been seen before.
    rw [map_kind_countChange_of_notMem hin, List.pairwise_append]
    refine ⟨horder', List.pairwise_singleton _ _, fun kind hkind other hother => ?_⟩
    have hbefore := (h.occurs kind).1 hkind
    rw [List.mem_singleton.1 hother, FirstSeen, List.map_append,
      List.idxOf_append_of_mem hbefore,
      List.idxOf_append_of_notMem fun hseen => hin ((h.occurs _).2 hseen)]
    exact Nat.lt_add_right _ (List.idxOf_lt_length_iff.2 hbefore)

/-- The counts of all changes are right, in the order in which the kinds first occur. -/
theorem tallied_tally (changes : List Record) : Tallied changes (tally changes) ∧
    ((tally changes).map (·.kind)).Pairwise (FirstSeen changes) := by
  induction changes using List.reverseRecOn with
  | nil => exact ⟨⟨List.nodup_nil, fun _ => Iff.rfl, fun _ h => by cases h⟩, .nil⟩
  | append_singleton seen change ih =>
    rw [tally, List.foldl_append]
    exact ⟨tallied_countChange ih.1 change, firstSeen_countChange ih.1 ih.2 change⟩

/-- Every change is counted once. -/
theorem sum_tally (changes : List Record) :
    ((tally changes).map (·.count)).sum = changes.length := by
  induction changes using List.reverseRecOn with
  | nil => rfl
  | append_singleton seen change ih =>
    rw [tally, List.foldl_append, List.length_append, ← ih]
    exact sum_countChange change _

/-! ### Sorting by frequency -/

/-- Sorting keeps the order of what it does not tell apart. -/
theorem pairwise_mergeSort_of_pairwise {α : Type} {le : α → α → Bool}
    (htrans : ∀ a b c, le a b = true → le b c = true → le a c = true)
    (htotal : ∀ a b, (le a b || le b a) = true) {r : α → α → Prop} {items : List α}
    (hitems : items.Pairwise r) :
    (items.mergeSort le).Pairwise fun a b => le a b = true ∧ (le b a = true → r a b) := by
  induction items with
  | nil => simp
  | cons first rest ih =>
    obtain ⟨hfirst, hrest⟩ := List.pairwise_cons.1 hitems
    obtain ⟨front, back, hsort, hrestSort, hfront⟩ := List.mergeSort_cons htrans htotal first rest
    have hsorted := List.pairwise_mergeSort htrans htotal (first :: rest)
    -- The first item comes right behind those that are strictly before it, so what is equal to it
    -- stands in the back, as in the list.
    have hback {other : α} (hother : other ∈ back) : r first other := by
      have hsort : other ∈ rest.mergeSort le := hrestSort ▸ List.mem_append_right _ hother
      exact hfirst other (List.mem_mergeSort.1 hsort)
    have ih := ih hrest
    rw [hrestSort, List.pairwise_append] at ih
    rw [hsort, List.pairwise_append, List.pairwise_cons] at hsorted
    obtain ⟨ihfront, ihback, ihacross⟩ := ih
    rw [hsort, List.pairwise_append, List.pairwise_cons]
    refine ⟨ihfront, ⟨fun other hother => ⟨hsorted.2.1.1 other hother, fun _ => hback hother⟩,
      ihback⟩, fun a ha b hb => ?_⟩
    rcases List.mem_cons.1 hb with rfl | hb
    · refine ⟨hsorted.2.2 a ha b List.mem_cons_self, fun hle => ?_⟩
      have hnot := hfront a ha
      rw [hle] at hnot
      cases hnot
    · exact ihacross a ha b hb

/-- The order of the counts does not matter for them to be right. -/
theorem Tallied.perm {other : List KindCount} (h : Tallied seen entries) (hperm : other.Perm entries) :
    Tallied seen other where
  nodup := (hperm.map _).nodup_iff.2 h.nodup
  occurs kind := (hperm.map _).mem_iff.trans (h.occurs kind)
  counted entry hentry := h.counted entry (hperm.mem_iff.1 hentry)

/-- Sorting the counted kinds neither adds nor loses an entry. -/
theorem countKinds_perm (changes : List Record) : (countKinds changes).Perm (tally changes) :=
  List.mergeSort_perm _ _

/-- The most frequent kinds come first, and those that occur equally often in the order in which
they first occur. -/
theorem countKinds_pairwise (changes : List Record) :
    (countKinds changes).Pairwise fun a b =>
      b.count < a.count ∨ a.count = b.count ∧ FirstSeen changes a.kind b.kind := by
  have horder := List.pairwise_map.1 (tallied_tally changes).2
  refine (pairwise_mergeSort_of_pairwise (fun a b c hab hbc => ?_) (fun a b => ?_) horder).imp
    fun {a b} hab => ?_
  · simp only [decide_eq_true_eq] at hab hbc ⊢
    omega
  · simp only [Bool.or_eq_true, decide_eq_true_eq]
    omega
  · simp only [decide_eq_true_eq] at hab
    -- The sort is stable, so kinds with the same count stay in the order of their first change.
    obtain ⟨hle, hfirst⟩ := hab
    rcases Nat.lt_or_eq_of_le hle with hlt | heq
    · exact .inl hlt
    · exact .inr ⟨heq.symm, hfirst (Nat.le_of_eq heq.symm)⟩

/-! ### Severities -/

/-- Every change has one of the three severities. -/
theorem length_eq_countSeverities (changes : List Record) :
    changes.length = (countSeverities changes).high + (countSeverities changes).medium +
      (countSeverities changes).low := by
  simp only [countSeverities, countSeverity]
  induction changes with
  | nil => rfl
  | cons change rest ih =>
    rw [List.countP_cons, List.countP_cons, List.countP_cons, List.length_cons]
    cases change.severity <;> simp <;> omega

/-! ### The line that sums up -/

/-- The line for some counts and a verdict. -/
def countsLine (total : Nat) (breakdown : Breakdown) (verdict : Bool) : String :=
  s!"{total} semantic changes detected, {breakdown.high} high-severity, " ++
    s!"{breakdown.medium} medium-severity, {breakdown.low} low-severity, " ++
    if verdict then "Tests required" else "No tests required"

/-- If there are changes the summary is the line that counts them. -/
theorem summarize_of_ne_nil {changes : List Record} (h : changes ≠ []) (breakdown : Breakdown)
    (verdict : Bool) :
    summarize changes breakdown verdict = countsLine changes.length breakdown verdict := by
  rw [summarize, if_neg (by simpa using h), countsLine, Text.join]
  simp [String.append_assoc, toString]

/-- The characters of that line: each number ends at a blank, so it can be read off again. -/
theorem countsLine_toList (total : Nat) (breakdown : Breakdown) (verdict : Bool) :
    (countsLine total breakdown verdict).toList =
      Nat.toDigits 10 total ++ ' ' :: ("semantic changes detected, ".toList ++
        (Nat.toDigits 10 breakdown.high ++ ' ' :: ("high-severity, ".toList ++
        (Nat.toDigits 10 breakdown.medium ++ ' ' :: ("medium-severity, ".toList ++
        (Nat.toDigits 10 breakdown.low ++ ' ' :: ("low-severity, ".toList ++
        (if verdict then "Tests required" else "No tests required").toList))))))) := by
  simp [countsLine, toString, Nat.repr]

/-- A number and a blank behind it are read back. -/
theorem toDigits_append_inj {n m : Nat} {rest rest' : List Char}
    (h : Nat.toDigits 10 n ++ ' ' :: rest = Nat.toDigits 10 m ++ ' ' :: rest') :
    n = m ∧ rest = rest' := by
  have hread := Hunk.readNumber?_append n (c := ' ') (by decide) rest
  rw [h, Hunk.readNumber?_append m (by decide) rest'] at hread
  simpa [eq_comm] using hread

/-- The line says the counts and the verdict. -/
theorem countsLine_inj {total total' : Nat} {breakdown breakdown' : Breakdown}
    {verdict verdict' : Bool} :
    countsLine total breakdown verdict = countsLine total' breakdown' verdict' ↔
      total = total' ∧ breakdown = breakdown' ∧ verdict = verdict' := by
  constructor
  · intro h
    have hchars := congrArg String.toList h
    rw [countsLine_toList, countsLine_toList] at hchars
    -- A number ends at the blank behind it, and the words up to the next number are always the same.
    obtain ⟨htotal, hchars⟩ := toDigits_append_inj hchars
    obtain ⟨hhigh, hchars⟩ := toDigits_append_inj (List.append_cancel_left hchars)
    obtain ⟨hmedium, hchars⟩ := toDigits_append_inj (List.append_cancel_left hchars)
    obtain ⟨hlow, hchars⟩ := toDigits_append_inj (List.append_cancel_left hchars)
    have hverdict := List.append_cancel_left hchars
    refine ⟨htotal, ?_, ?_⟩
    · cases breakdown
      cases breakdown'
      simp_all
    · revert hverdict
      cases verdict <;> cases verdict' <;> decide
  · rintro ⟨rfl, rfl, rfl⟩
    rfl

/-- The line starts with a number. -/
theorem countsLine_ne (total : Nat) (breakdown : Breakdown) (verdict : Bool) :
    countsLine total breakdown verdict ≠ "No semantic changes detected" := by
  intro h
  have hchars := congrArg String.toList h
  rw [countsLine_toList] at hchars
  -- One line begins with a number and the other one does not.
  have hread := congrArg Hunk.readNumber? hchars
  rw [Hunk.readNumber?_append total (by decide)] at hread
  have hnone : Hunk.readNumber? "No semantic changes detected".toList = none := by decide
  rw [hnone] at hread
  cases hread

/-! ### The report -/

section
variable (config : Config) (changes : List Record) (filesAnalyzed : Nat) (failed : List FailedFile)
  (timeMs : Nat)

/-- The summary of a report with changes states their number, its breakdown and the verdict. -/
theorem summary_of_ne_nil {changes : List Record} (h : changes ≠ []) :
    (build config changes filesAnalyzed failed timeMs).summary =
      countsLine changes.length (countSeverities changes) (config.requiresTests changes) :=
  summarize_of_ne_nil h _ _

/-- The summary says that nothing has changed exactly if nothing has. -/
theorem summary_eq_none_iff :
    (build config changes filesAnalyzed failed timeMs).summary = "No semantic changes detected" ↔
      changes = [] := by
  constructor
  · intro h
    by_contra hne
    rw [summary_of_ne_nil config filesAnalyzed failed timeMs hne] at h
    exact countsLine_ne _ _ _ h
  · rintro rfl
    rfl

/-- Reports have the same line exactly if they have the same counts and the same verdict. -/
theorem summary_eq_iff (config' : Config) (changes' : List Record) (filesAnalyzed' : Nat)
    (failed' : List FailedFile) (timeMs' : Nat) :
    (build config changes filesAnalyzed failed timeMs).summary =
        (build config' changes' filesAnalyzed' failed' timeMs').summary ↔
      changes.length = changes'.length ∧ countSeverities changes = countSeverities changes' ∧
        config.requiresTests changes = config'.requiresTests changes' := by
  -- The line without numbers is told apart from the others first, as only those can be read back.
  by_cases h : changes = []
  · subst h
    rw [eq_comm, (summary_eq_none_iff config [] filesAnalyzed failed timeMs).2 rfl,
      summary_eq_none_iff]
    constructor
    · rintro rfl
      exact ⟨rfl, rfl, rfl⟩
    · exact fun hcounts => List.eq_nil_of_length_eq_zero hcounts.1.symm
  · rw [summary_of_ne_nil config filesAnalyzed failed timeMs h]
    by_cases h' : changes' = []
    · subst h'
      rw [(summary_eq_none_iff config' [] filesAnalyzed' failed' timeMs').2 rfl]
      refine ⟨fun hline => absurd hline (countsLine_ne _ _ _), fun hcounts => ?_⟩
      exact absurd (List.eq_nil_of_length_eq_zero hcounts.1) h
    · rw [summary_of_ne_nil config' filesAnalyzed' failed' timeMs' h', countsLine_inj]

/-- A report adds up: all its counts are of the same changes, kinds come by frequency and then in
the order in which they first occur, the severe changes it names are the first ones, its verdict is the
configuration's on these changes, and its line says exactly the counts and the verdict. -/
theorem build_adds_up :
    let report := build config changes filesAnalyzed failed timeMs
    report.totalChanges = changes.length ∧
    report.totalChanges =
      report.breakdown.high + report.breakdown.medium + report.breakdown.low ∧
    report.breakdown = ⟨changes.countP fun change => change.severity = .high,
      changes.countP fun change => change.severity = .medium,
      changes.countP fun change => change.severity = .low⟩ ∧
    report.totalChanges = (report.kindCounts.map (·.count)).sum ∧
    Tallied changes report.kindCounts ∧
    report.kindCounts.Pairwise (fun a b =>
      b.count < a.count ∨ a.count = b.count ∧ FirstSeen changes a.kind b.kind) ∧
    report.critical =
      (changes.filter fun change => change.severity = .high).take (min 20 report.breakdown.high) ∧
    report.critical.length = min 20 report.breakdown.high ∧
    report.requiresTests = config.requiresTests changes ∧
    (report.summary = "No semantic changes detected" ↔ changes = []) ∧
    (changes ≠ [] →
      report.summary = countsLine report.totalChanges report.breakdown report.requiresTests) ∧
    ∀ config' changes' filesAnalyzed' failed' timeMs',
      let other := build config' changes' filesAnalyzed' failed' timeMs'
      report.summary = other.summary ↔ report.totalChanges = other.totalChanges ∧
        report.breakdown = other.breakdown ∧ report.requiresTests = other.requiresTests := by
  intro report
  have hcritical : report.critical =
      (changes.filter fun change => change.severity = .high).take 20 := rfl
  have hhigh : report.breakdown.high =
      (changes.filter fun change => change.severity = .high).length :=
    List.countP_eq_length_filter
  refine ⟨rfl, length_eq_countSeverities changes, rfl, ?_, ?_, countKinds_pairwise changes, ?_, ?_,
    rfl, summary_eq_none_iff config changes filesAnalyzed failed timeMs, summary_of_ne_nil _ _ _ _,
    summary_eq_iff config changes filesAnalyzed failed timeMs⟩
  · show changes.length = ((countKinds changes).map (·.count)).sum
    rw [((countKinds_perm changes).map _).sum_nat, sum_tally]
  · exact (tallied_tally changes).1.perm (countKinds_perm changes)
  · -- The list of critical changes is a prefix of the high ones, as long as the smaller number.
    rw [hcritical, hhigh, ← List.take_eq_take_min]
  · rw [hcritical, hhigh, List.length_take]

end

end Report

end ChangeLens
