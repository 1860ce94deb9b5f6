import ChangeLens.Analyzer.Values
import ChangeLens.Extract
import ChangeLens.Proofs.Cascade
import ChangeLens.Proofs.Coverage
import ChangeLens.Proofs.Mirroring
import ChangeLens.Text.Distance
import Mathlib.Data.List.Forall2

/-!
# `ChangeLens.Proofs.TrailingArguments`: dropping undefined arguments at the end of calls

`undefined` at the end of the arguments of a call can be dropped, and on its own such an edit is not
reported (`Trimmed.unremarkable`). With several calls of one path it depends on which calls are
compared with each other. A callee that is written once finds its counterpart. Of the repeated ones,
the pass by path and arguments goes first, and a trimmed call no longer has the arguments it had: it
may even have those of another call, which then takes its place. What is left is compared by rank
within each path.

`compareCalls_trimmed` says exactly when all that stays silent. No call ever counts as added or
removed. In particular nothing is reported where trimmed calls are unmistakable, that is where no
other call of the same path has the arguments of a trimmed call before or after the edit.
`trimmedCalls_reported` shows three calls where the edit is reported.
-/

set_option autoImplicit false

namespace ChangeLens

namespace Pairing

universe u w

variable {α : Type u} {κ : Type w} [DecidableEq κ] {key : α → κ} {base head : List α}

/-- Where a key of the head items is not rarer among them, a pass leaves exactly the base items
whose key no head item has. -/
theorem pairBy_base_eq_filter
    (h : ∀ k, ofKey key k head ≠ [] → (ofKey key k base).length ≤ (ofKey key k head).length) :
    (pairBy key base head).base = base.filter fun b => (ofKey key (key b) head).isEmpty := by
  have hparts := pairBy_partitions key base head
  -- A call is left only if the other version has no call of its key: a key that both know has
  -- enough partners.
  have hleft : ∀ b ∈ (pairBy key base head).base, (ofKey key (key b) head).isEmpty = true := by
    intro b hb
    have hmem : b ∈ ofKey key (key b) (pairBy key base head).base := mem_ofKey.2 ⟨hb, rfl⟩
    rw [(pairBy_ofKey key (key b) base head).2.1] at hmem
    have hmore := List.length_pos_of_mem hmem
    rw [List.length_drop] at hmore
    rw [List.isEmpty_iff]
    by_contra hne
    have hfewer := h (key b) hne
    omega
  have htaken : ∀ b ∈ (pairBy key base head).pairs.map Prod.fst,
      ¬ (ofKey key (key b) head).isEmpty = true := by
    intro b hb
    obtain ⟨pair, hpair, rfl⟩ := List.mem_map.1 hb
    obtain ⟨-, hhead⟩ := (pairBy_within key base head).pairs pair.1 pair.2 hpair
    rw [List.isEmpty_iff]
    exact List.ne_nil_of_mem (mem_ofKey.2 ⟨hhead, (pairBy_key_eq hpair).symm⟩)
  -- Both lists are parts of `base` in its order, so it is enough that they are equally long.
  have hsublist := hparts.baseOrder.filter fun b => (ofKey key (key b) head).isEmpty
  rw [List.filter_eq_self.2 hleft] at hsublist
  refine hsublist.eq_of_length ?_
  rw [← List.countP_eq_length_filter, ← hparts.basePerm.countP_eq, List.countP_append,
    List.countP_eq_zero.2 htaken, List.countP_eq_length.2 hleft, Nat.zero_add]

end Pairing

namespace Analyzer

open ChangeLens.Pairing

/-! ### A call and what is left of it -/

/-- A call and what remains of it when undefined arguments at its end are dropped. It may stand
elsewhere. -/
structure Trimmed (before after : CallSite) : Prop where
  callee : before.callee = after.callee
  path : before.path = after.path
  isNew : before.isNew = after.isNew
  templateText : before.templateText = after.templateText
  dependencies : before.dependencies = after.dependencies
  kept : after.arguments <+: before.arguments
  dropped : ∀ argument ∈ before.arguments.drop after.arguments.length, isUndefined argument = true

instance (before after : CallSite) : Decidable (Trimmed before after) :=
  decidable_of_iff
    ((before.callee = after.callee ∧ before.path = after.path ∧ before.isNew = after.isNew ∧
        before.templateText = after.templateText ∧ before.dependencies = after.dependencies) ∧
      after.arguments <+: before.arguments ∧
      ∀ argument ∈ before.arguments.drop after.arguments.length, isUndefined argument = true)
    ⟨fun ⟨⟨callee, path, isNew, templateText, dependencies⟩, kept, dropped⟩ =>
      ⟨callee, path, isNew, templateText, dependencies, kept, dropped⟩,
     fun h => ⟨⟨h.callee, h.path, h.isNew, h.templateText, h.dependencies⟩, h.kept, h.dropped⟩⟩

/-- Two calls between which nothing is reported. -/
structure Unremarkable (before after : CallSite) : Prop where
  isNew : before.isNew = after.isNew
  dependencies : isHookName after.simpleName = true → before.dependencies = after.dependencies
  template : before.isTagged = true ∨ after.isTagged = true →
    before.templateText = after.templateText
  /-- Equally many arguments are the same or other ones, not the same in another order; and what is
  dropped at the end is undefined. -/
  arguments :
    (before.arguments.length = after.arguments.length ∧
      (before.arguments = after.arguments ∨ ¬ before.arguments.Perm after.arguments)) ∨
    (after.arguments.length < before.arguments.length ∧
      ∀ argument ∈ before.arguments.drop after.arguments.length, isUndefined argument = true)

/-- Arguments are not reported exactly if as many are left and they are no other order of the old
ones, or if fewer are left and those that are gone were `undefined`. -/
theorem argumentChanges_eq_nil_iff {target : Target} {before after : CallSite} :
    argumentChanges target before after = [] ↔
      (before.arguments.length = after.arguments.length ∧
        (before.arguments = after.arguments ∨ ¬ before.arguments.Perm after.arguments)) ∨
      (after.arguments.length < before.arguments.length ∧
        ∀ argument ∈ before.arguments.drop after.arguments.length,
          isUndefined argument = true) := by
  simp only [argumentChanges]
  split
  · rename_i hlength
    simp [hlength, sameOrder, sameItems, List.isPerm_iff, or_iff_not_imp_left]
  · rename_i hlength
    split
    · rename_i hshorter
      simp [hlength, hshorter]
    · rename_i hlonger
      simp [hlength, hlonger]

/-- Two calls are compared without a record exactly if the second is an unremarkable version of the
first. -/
theorem callChanges_eq_nil_iff {target : Target} {before after : CallSite} :
    callChanges target before after = [] ↔ Unremarkable before after := by
  -- The four comparisons are silent independently of each other.
  have hnew : newChanges target before after = [] ↔ before.isNew = after.isNew := by
    simp [newChanges]
  have hdependencies : dependencyChanges target before after = [] ↔
      (isHookName after.simpleName = true → before.dependencies = after.dependencies) := by
    simp [dependencyChanges]
  have htemplate : templateChanges target before after = [] ↔
      (before.isTagged = true ∨ after.isTagged = true →
        before.templateText = after.templateText) := by
    simp [templateChanges]
  rw [callChanges, List.append_eq_nil_iff, List.append_eq_nil_iff, List.append_eq_nil_iff, hnew,
    hdependencies, htemplate, argumentChanges_eq_nil_iff]
  constructor
  · rintro ⟨⟨⟨isNew, dependencies⟩, template⟩, arguments⟩
    exact ⟨isNew, dependencies, template, arguments⟩
  · rintro ⟨isNew, dependencies, template, arguments⟩
    exact ⟨⟨⟨isNew, dependencies⟩, template⟩, arguments⟩

/-- A call that has only lost trailing `undefined` arguments is unremarkable. -/
theorem Trimmed.unremarkable {before after : CallSite} (h : Trimmed before after) :
    Unremarkable before after where
  isNew := h.isNew
  dependencies _ := h.dependencies
  template _ := h.templateText
  arguments := by
    rcases Nat.lt_or_eq_of_le h.kept.length_le with hshorter | hlength
    · exact Or.inr ⟨hshorter, h.dropped⟩
    · exact Or.inl ⟨hlength.symm, Or.inl (h.kept.eq_of_length hlength).symm⟩

/-! ### Which calls are compared -/

/-- What the second pass compares calls by. -/
def exactly (call : CallSite) : String × List String :=
  (call.path, call.arguments)

/-- The calls whose callee is written more than once. -/
def repeated (calls : List CallSite) : List CallSite :=
  calls.filter fun call => decide (1 < countKey CallSite.callee call.callee calls)

section Passes

variable {base head : List CallSite}

/-- A key that trimming leaves is the same for the calls of both versions, place by place. -/
theorem map_eq_of_trimmed {κ : Type} {key : CallSite → κ} (h : List.Forall₂ Trimmed base head)
    (hkey : ∀ before after, Trimmed before after → key before = key after) :
    base.map key = head.map key := by
  induction h with
  | nil => rfl
  | cons hfirst _ ih => rw [List.map_cons, List.map_cons, hkey _ _ hfirst, ih]

/-- Calls that stand at the same place are a call and what is left of it. -/
theorem trimmed_of_mem_zip (h : List.Forall₂ Trimmed base head) {pair : CallSite × CallSite}
    (hpair : pair ∈ base.zip head) : Trimmed pair.1 pair.2 :=
  (List.forall₂_iff_zip.1 h).2 hpair

/-- The same callees are repeated in both versions. -/
theorem countKey_callee_eq (h : List.Forall₂ Trimmed base head) (callee : String) :
    countKey CallSite.callee callee base = countKey CallSite.callee callee head := by
  have hcallees := map_eq_of_trimmed h fun _ _ htrimmed => htrimmed.callee
  have hcount (calls : List CallSite) : countKey CallSite.callee callee calls =
      (calls.map CallSite.callee).countP fun other => decide (other = callee) := by
    rw [List.countP_map]
    rfl
  rw [hcount, hcount, hcallees]

/-- A call is not unique exactly if its callee is repeated. -/
theorem filter_not_isUnique (calls : List CallSite)
    (hbase : ∀ callee, countKey CallSite.callee callee calls =
      countKey CallSite.callee callee base)
    (hhead : ∀ callee, countKey CallSite.callee callee calls =
      countKey CallSite.callee callee head) :
    calls.filter (!isUnique CallSite.callee base head ·) = repeated calls := by
  refine List.filter_congr fun call hmem => ?_
  have hpos : 0 < countKey CallSite.callee call.callee calls :=
    List.countP_pos_iff.2 ⟨call, hmem, decide_eq_true rfl⟩
  rw [isUnique, ← hbase, ← hhead, Bool.and_self, ← decide_not, decide_eq_decide]
  omega

/-- The calls that share their path with another one are trimmed place by place, too. -/
theorem repeated_trimmed (h : List.Forall₂ Trimmed base head) :
    List.Forall₂ Trimmed (repeated base) (repeated head) := by
  refine List.rel_filter (fun before after htrimmed => ?_) h
  dsimp only
  rw [countKey_callee_eq h, htrimmed.callee]

/-- The repeated calls of one version beyond those of the other one with the same path and
arguments. -/
def unmatched (calls others : List CallSite) : List CallSite :=
  beyond exactly (repeated others) (repeated calls)

/-- What the pass by path and arguments leaves is unmatched, on both sides. -/
theorem unmatched_eq (base head : List CallSite) :
    unmatched base head = (pairBy exactly (repeated base) (repeated head)).base ∧
      unmatched head base = (pairBy exactly (repeated base) (repeated head)).head :=
  ⟨rfl, (pairBy_mirrors exactly (repeated base) (repeated head)).base⟩

/-- The pass by path leaves no call of trimmed versions. -/
theorem pairBy_path_eq_nil (h : List.Forall₂ Trimmed base head) :
    (pairBy CallSite.path (unmatched base head) (unmatched head base)).base = [] ∧
      (pairBy CallSite.path (unmatched base head) (unmatched head base)).head = [] := by
  have hpaths : ((repeated base).map CallSite.path).Perm ((repeated head).map CallSite.path) :=
    List.Perm.of_eq (map_eq_of_trimmed (repeated_trimmed h) fun _ _ htrimmed => htrimmed.path)
  -- The pass by path and arguments takes the same paths from both sides.
  have hrest := (pairBy_partitions exactly (repeated base) (repeated head)).map_rest_perm
    (fun pair hpair => congrArg Prod.fst (pairBy_key_eq hpair)) hpaths
  rw [← (unmatched_eq base head).1, ← (unmatched_eq base head).2] at hrest
  exact (pairBy_eq_nil_iff CallSite.path _ _).2 hrest

/-- Calls of trimmed versions meet in three passes, and none is left. -/
theorem pairCalls_trimmed (h : List.Forall₂ Trimmed base head) :
    pairCalls base head =
      ⟨(base.zip head).filter (fun pair => isUnique CallSite.callee base head pair.1) ++
        (pairBy exactly (repeated base) (repeated head)).pairs ++
        (pairBy CallSite.path (unmatched base head) (unmatched head base)).pairs, [], []⟩ := by
  have hunique := pairUnique_eq_filter (map_eq_of_trimmed h fun _ _ htrimmed => htrimmed.callee)
  rw [filter_not_isUnique base (fun _ => rfl) (countKey_callee_eq h),
    filter_not_isUnique head (fun callee => (countKey_callee_eq h callee).symm) fun _ => rfl]
    at hunique
  obtain ⟨hbase, hhead⟩ := pairBy_path_eq_nil h
  rw [(unmatched_eq base head).1, (unmatched_eq base head).2] at hbase hhead ⊢
  rw [pairCalls_eq, pairByPath, hunique]
  show andThen ⟨_, (pairBy CallSite.path (pairBy exactly (repeated base) (repeated head)).base
      (pairBy exactly (repeated base) (repeated head)).head).base,
    (pairBy CallSite.path (pairBy exactly (repeated base) (repeated head)).base
      (pairBy exactly (repeated base) (repeated head)).head).head⟩ _ = _
  rw [hbase, hhead, andThen_pairBy_nil]
  rfl

/-- Nothing is reported between the repeated calls that are compared with each other: those of equal
path and arguments by rank, and the unmatched ones by rank within their path. -/
def RepeatedUnremarkable (base head : List CallSite) : Prop :=
  (∀ written, ∀ pair ∈ (ofKey exactly written (repeated base)).zip
      (ofKey exactly written (repeated head)), Unremarkable pair.1 pair.2) ∧
    ∀ path, ∀ pair ∈ (ofKey CallSite.path path (unmatched base head)).zip
      (ofKey CallSite.path path (unmatched head base)), Unremarkable pair.1 pair.2

/-- The first pass pairs each call with a unique path with what is left of it, so only the repeated
paths decide whether a pair is remarkable. -/
theorem pairCalls_unremarkable_iff (h : List.Forall₂ Trimmed base head) :
    (∀ pair ∈ (pairCalls base head).pairs, Unremarkable pair.1 pair.2) ↔
      RepeatedUnremarkable base head := by
  rw [pairCalls_trimmed h]
  simp only [List.mem_append, mem_pairs_pairBy]
  constructor
  · intro hall
    exact ⟨fun written pair hpair => hall pair (Or.inl (Or.inr ⟨written, hpair⟩)),
      fun path pair hpair => hall pair (Or.inr ⟨path, hpair⟩)⟩
  · rintro ⟨hexact, hpath⟩ pair ((hunique | ⟨written, hpair⟩) | ⟨path, hpair⟩)
    · exact (trimmed_of_mem_zip h (List.mem_filter.1 hunique).1).unremarkable
    · exact hexact written pair hpair
    · exact hpath path pair hpair

/-! ### Unmistakable calls -/

/-- No call that loses arguments can be taken for another call of its path: no call of the head
version has the arguments it had, and no call of the base version has those it keeps. -/
def Unmistakable (base head : List CallSite) : Prop :=
  ∀ pair ∈ base.zip head, pair.1.arguments ≠ pair.2.arguments →
    (∀ other ∈ head, other.path = pair.1.path → other.arguments ≠ pair.1.arguments) ∧
      ∀ other ∈ base, other.path = pair.1.path → other.arguments ≠ pair.2.arguments

instance (base head : List CallSite) : Decidable (Unmistakable base head) :=
  inferInstanceAs (Decidable (∀ pair ∈ base.zip head, pair.1.arguments ≠ pair.2.arguments →
    (∀ other ∈ head, other.path = pair.1.path → other.arguments ≠ pair.1.arguments) ∧
      ∀ other ∈ base, other.path = pair.1.path → other.arguments ≠ pair.2.arguments))

/-- What is known of a call and its counterpart: it is the same by path and arguments, or neither of
them is known that way in the other version. -/
structure Counterparts (base head : List CallSite) (before after : CallSite) : Prop where
  trimmed : Trimmed before after
  before_mem : before ∈ base
  after_mem : after ∈ head
  known : exactly before = exactly after ∨
    ofKey exactly (exactly before) head = [] ∧ ofKey exactly (exactly after) base = []

/-- If the calls are unmistakable, each is written as before, or neither version of it is written in
the other one. -/
theorem forall₂_counterparts (h : List.Forall₂ Trimmed base head)
    (hclear : Unmistakable base head) : List.Forall₂ (Counterparts base head) base head := by
  refine List.forall₂_iff_zip.2 ⟨h.length_eq, fun {before after} hpair => ?_⟩
  have htrimmed := trimmed_of_mem_zip h hpair
  obtain ⟨hbefore, hafter⟩ := List.of_mem_zip hpair
  refine ⟨htrimmed, hbefore, hafter, ?_⟩
  -- A call that was not shortened is written as before; one that was is known to one version only.
  by_cases hsame : before.arguments = after.arguments
  · exact Or.inl (Prod.ext htrimmed.path hsame)
  · obtain ⟨hhead, hbase⟩ := hclear _ hpair hsame
    refine Or.inr ⟨?_, ?_⟩
    · refine List.filter_eq_nil_iff.2 fun other hother hkey => ?_
      obtain ⟨hpath, harguments⟩ := Prod.mk.inj (of_decide_eq_true hkey)
      exact hhead other hother hpath harguments
    · refine List.filter_eq_nil_iff.2 fun other hother hkey => ?_
      obtain ⟨hpath, harguments⟩ := Prod.mk.inj (of_decide_eq_true hkey)
      exact hbase other hother (hpath.trans htrimmed.path.symm) harguments

/-- Where both versions know a path with some arguments, it belongs to counterparts. -/
theorem ofKey_trimmed (h : List.Forall₂ (Counterparts base head) base head)
    {written : String × List String} (hbase : ofKey exactly written base ≠ [])
    (hhead : ofKey exactly written head ≠ []) :
    List.Forall₂ Trimmed (ofKey exactly written base) (ofKey exactly written head) := by
  refine List.Forall₂.imp (fun _ _ hpair => hpair.trimmed)
    (List.rel_filter (fun before after hpair => ?_) h)
  simp only [decide_eq_true_eq]
  rcases hpair.known with hsame | ⟨hlost, hnew⟩
  · rw [hsame]
  · constructor
    · rintro rfl
      exact absurd hlost hhead
    · rintro rfl
      exact absurd hnew hbase

/-- The pass by path and arguments leaves the calls that lose arguments, on both sides at the same
places. -/
theorem rest_trimmed (h : List.Forall₂ (Counterparts base head) base head) :
    List.Forall₂ Trimmed (pairBy exactly base head).base (pairBy exactly head base).base := by
  -- A path with some arguments that both versions know is known equally often.
  have hlength (written : String × List String) (hbase : ofKey exactly written base ≠ [])
      (hhead : ofKey exactly written head ≠ []) :
      (ofKey exactly written base).length = (ofKey exactly written head).length :=
    (ofKey_trimmed h hbase hhead).length_eq
  have hlost : (pairBy exactly base head).base =
      base.filter fun call => (ofKey exactly (exactly call) head).isEmpty := by
    refine pairBy_base_eq_filter fun written hhead => ?_
    by_cases hbase : ofKey exactly written base = []
    · rw [hbase]
      exact Nat.zero_le _
    · exact Nat.le_of_eq (hlength written hbase hhead)
  have hnew : (pairBy exactly head base).base =
      head.filter fun call => (ofKey exactly (exactly call) base).isEmpty := by
    refine pairBy_base_eq_filter fun written hbase => ?_
    by_cases hhead : ofKey exactly written head = []
    · rw [hhead]
      exact Nat.zero_le _
    · exact Nat.le_of_eq (hlength written hbase hhead).symm
  rw [hlost, hnew]
  refine List.Forall₂.imp (fun _ _ hpair => hpair.trimmed)
    (List.rel_filter (fun before after hpair => ?_) h)
  simp only [List.isEmpty_iff]
  rcases hpair.known with hsame | ⟨hgone, hfresh⟩
  · -- Each of the two stands in the way of the other one.
    have hafter : ofKey exactly (exactly before) head ≠ [] :=
      List.ne_nil_of_mem (mem_ofKey.2 ⟨hpair.after_mem, hsame.symm⟩)
    have hbefore : ofKey exactly (exactly after) base ≠ [] :=
      List.ne_nil_of_mem (mem_ofKey.2 ⟨hpair.before_mem, hsame⟩)
    exact iff_of_false hafter hbefore
  · exact iff_of_true hgone hfresh

/-- Unmistakable calls are paired with what is left of them, also if their paths are repeated. -/
theorem repeatedUnremarkable_of_unmistakable (h : List.Forall₂ Trimmed base head)
    (hclear : Unmistakable (repeated base) (repeated head)) : RepeatedUnremarkable base head := by
  have hpairs := forall₂_counterparts (repeated_trimmed h) hclear
  constructor
  · intro written pair hpair
    have hbase := List.ne_nil_of_mem (List.of_mem_zip hpair).1
    have hhead := List.ne_nil_of_mem (List.of_mem_zip hpair).2
    exact (trimmed_of_mem_zip (ofKey_trimmed hpairs hbase hhead) hpair).unremarkable
  · intro path pair hpair
    have hpath : List.Forall₂ Trimmed (ofKey CallSite.path path (unmatched base head))
        (ofKey CallSite.path path (unmatched head base)) := by
      refine List.rel_filter (fun before after htrimmed => ?_) (rest_trimmed hpairs)
      dsimp only
      rw [htrimmed.path]
    exact (trimmed_of_mem_zip hpath hpair).unremarkable

end Passes

/-- Dropping undefined arguments at the end of calls never makes a call count as added or removed.
Nothing is reported exactly if the repeated calls that are compared with each other are
unremarkable, and that is so wherever the repeated calls that lose arguments are unmistakable. -/
theorem compareCalls_trimmed (target : Target) {base head : Model}
    (htrimmed : List.Forall₂ Trimmed base.calls head.calls) :
    (∀ record ∈ compareCalls target base head,
      record.kind ≠ .functionCallAdded ∧ record.kind ≠ .functionCallRemoved) ∧
    (compareCalls target base head = [] ↔ RepeatedUnremarkable base.calls head.calls) ∧
    (Unmistakable (repeated base.calls) (repeated head.calls) →
      compareCalls target base head = []) := by
  have hreport : compareCalls target base head =
      (pairCalls base.calls head.calls).pairs.flatMap fun pair =>
        callChanges target pair.1 pair.2 := by
    rw [compareCalls, pairCalls_trimmed htrimmed]
    simp
  have hiff : compareCalls target base head = [] ↔ RepeatedUnremarkable base.calls head.calls := by
    rw [hreport, List.flatMap_eq_nil_iff, ← pairCalls_unremarkable_iff htrimmed]
    exact forall₂_congr fun pair _ => callChanges_eq_nil_iff
  refine ⟨fun record hmem => ?_, hiff,
    fun hclear => hiff.2 (repeatedUnremarkable_of_unmistakable htrimmed hclear)⟩
  rw [hreport] at hmem
  obtain ⟨pair, -, hmem⟩ := List.mem_flatMap.1 hmem
  rcases (mem_callChanges hmem).1 with hkind | hkind | hkind <;> rw [hkind] <;> decide

/-- Three calls of one function, two of them with an undefined argument at the end. -/
def untrimmedCalls : Source :=
  .ofRows "f(a, undefined);f(b, c, undefined);f(a)"
    [⟨"program", "", true, 0, 39, 3⟩, ⟨"expression_statement", "", true, 0, 16, 2⟩,
     ⟨"call_expression", "", true, 0, 15, 2⟩, ⟨"identifier", "function", true, 0, 1, 0⟩,
     ⟨"arguments", "arguments", true, 1, 15, 5⟩, ⟨"(", "", false, 1, 2, 0⟩,
     ⟨"identifier", "", true, 2, 3, 0⟩, ⟨",", "", false, 3, 4, 0⟩,
     ⟨"undefined", "", true, 5, 14, 0⟩, ⟨")", "", false, 14, 15, 0⟩, ⟨";", "", false, 15, 16, 0⟩,
     ⟨"expression_statement", "", true, 16, 35, 2⟩, ⟨"call_expression", "", true, 16, 34, 2⟩,
     ⟨"identifier", "function", true, 16, 17, 0⟩, ⟨"arguments", "arguments", true, 17, 34, 7⟩,
     ⟨"(", "", false, 17, 18, 0⟩, ⟨"identifier", "", true, 18, 19, 0⟩, ⟨",", "", false, 19, 20, 0⟩,
     ⟨"identifier", "", true, 21, 22, 0⟩, ⟨",", "", false, 22, 23, 0⟩,
     ⟨"undefined", "", true, 24, 33, 0⟩, ⟨")", "", false, 33, 34, 0⟩, ⟨";", "", false, 34, 35, 0⟩,
     ⟨"expression_statement", "", true, 35, 39, 1⟩, ⟨"call_expression", "", true, 35, 39, 2⟩,
     ⟨"identifier", "function", true, 35, 36, 0⟩, ⟨"arguments", "arguments", true, 36, 39, 3⟩,
     ⟨"(", "", false, 36, 37, 0⟩, ⟨"identifier", "", true, 37, 38, 0⟩, ⟨")", "", false, 38, 39, 0⟩]

/-- The same calls without the last argument of the second one. -/
def oneTrimmedCall : Source :=
  .ofRows "f(a, undefined);f(b, c);f(a)"
    [⟨"program", "", true, 0, 28, 3⟩, ⟨"expression_statement", "", true, 0, 16, 2⟩,
     ⟨"call_expression", "", true, 0, 15, 2⟩, ⟨"identifier", "function", true, 0, 1, 0⟩,
     ⟨"arguments", "arguments", true, 1, 15, 5⟩, ⟨"(", "", false, 1, 2, 0⟩,
     ⟨"identifier", "", true, 2, 3, 0⟩, ⟨",", "", false, 3, 4, 0⟩,
     ⟨"undefined", "", true, 5, 14, 0⟩, ⟨")", "", false, 14, 15, 0⟩, ⟨";", "", false, 15, 16, 0⟩,
     ⟨"expression_statement", "", true, 16, 24, 2⟩, ⟨"call_expression", "", true, 16, 23, 2⟩,
     ⟨"identifier", "function", true, 16, 17, 0⟩, ⟨"arguments", "arguments", true, 17, 23, 5⟩,
     ⟨"(", "", false, 17, 18, 0⟩, ⟨"identifier", "", true, 18, 19, 0⟩, ⟨",", "", false, 19, 20, 0⟩,
     ⟨"identifier", "", true, 21, 22, 0⟩, ⟨")", "", false, 22, 23, 0⟩, ⟨";", "", false, 23, 24, 0⟩,
     ⟨"expression_statement", "", true, 24, 28, 1⟩, ⟨"call_expression", "", true, 24, 28, 2⟩,
     ⟨"identifier", "function", true, 24, 25, 0⟩, ⟨"arguments", "arguments", true, 25, 28, 3⟩,
     ⟨"(", "", false, 25, 26, 0⟩, ⟨"identifier", "", true, 26, 27, 0⟩, ⟨")", "", false, 27, 28, 0⟩]

/-- The trimmed call cannot be mistaken for one of the others, and nothing is reported. -/
theorem compareCalls_trimmed_once :
    (List.Forall₂ Trimmed (Extract.calls untrimmedCalls) (Extract.calls oneTrimmedCall) ∧
      Unmistakable (repeated (Extract.calls untrimmedCalls))
        (repeated (Extract.calls oneTrimmedCall))) ∧
    compareCalls ⟨"a.ts", {}, Text.similarity⟩ (Model.ofSource untrimmedCalls (dialectForPath "a.ts"))
      (Model.ofSource oneTrimmedCall (dialectForPath "a.ts")) = [] := by
  have htrimmed : List.Forall₂ Trimmed (Extract.calls untrimmedCalls)
      (Extract.calls oneTrimmedCall) := by decide +kernel
  have hclear : Unmistakable (repeated (Extract.calls untrimmedCalls))
      (repeated (Extract.calls oneTrimmedCall)) := by decide +kernel
  exact ⟨⟨htrimmed, hclear⟩, (compareCalls_trimmed ⟨"a.ts", {}, Text.similarity⟩ htrimmed).2.2 hclear⟩

/-- The same calls without any undefined argument; the first one now reads like the third. -/
def trimmedCalls : Source :=
  .ofRows "f(a);f(b, c);f(a)"
    [⟨"program", "", true, 0, 17, 3⟩, ⟨"expression_statement", "", true, 0, 5, 2⟩,
     ⟨"call_expression", "", true, 0, 4, 2⟩, ⟨"identifier", "function", true, 0, 1, 0⟩,
     ⟨"arguments", "arguments", true, 1, 4, 3⟩, ⟨"(", "", false, 1, 2, 0⟩,
     ⟨"identifier", "", true, 2, 3, 0⟩, ⟨")", "", false, 3, 4, 0⟩, ⟨";", "", false, 4, 5, 0⟩,
     ⟨"expression_statement", "", true, 5, 13, 2⟩, ⟨"call_expression", "", true, 5, 12, 2⟩,
     ⟨"identifier", "function", true, 5, 6, 0⟩, ⟨"arguments", "arguments", true, 6, 12, 5⟩,
     ⟨"(", "", false, 6, 7, 0⟩, ⟨"identifier", "", true, 7, 8, 0⟩, ⟨",", "", false, 8, 9, 0⟩,
     ⟨"identifier", "", true, 10, 11, 0⟩, ⟨")", "", false, 11, 12, 0⟩, ⟨";", "", false, 12, 13, 0⟩,
     ⟨"expression_statement", "", true, 13, 17, 1⟩, ⟨"call_expression", "", true, 13, 17, 2⟩,
     ⟨"identifier", "function", true, 13, 14, 0⟩, ⟨"arguments", "arguments", true, 14, 17, 3⟩,
     ⟨"(", "", false, 14, 15, 0⟩, ⟨"identifier", "", true, 15, 16, 0⟩, ⟨")", "", false, 16, 17, 0⟩]

/-- The first of the trimmed calls is taken for the third call, which is therefore compared with the
second one. -/
theorem trimmedCalls_reported :
    List.Forall₂ Trimmed (Extract.calls untrimmedCalls) (Extract.calls trimmedCalls) ∧
    (compareCalls ⟨"a.ts", {}, Text.similarity⟩ (Model.ofSource untrimmedCalls (dialectForPath "a.ts"))
      (Model.ofSource trimmedCalls (dialectForPath "a.ts"))).map Record.detail =
        ["Function call 'f' argument count changed (3 -> 1)"] := by
  decide +kernel

end Analyzer

end ChangeLens
