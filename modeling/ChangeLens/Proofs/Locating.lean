import ChangeLens.Analyzer.Branches
import ChangeLens.Analyzer.Outcomes
import ChangeLens.Analyzer.Values
import ChangeLens.Proofs.FirstFit

/-!
# `ChangeLens.Proofs.Locating`: moves are told from edits

`pairLocated` works in two passes with unrelated keys. The first one takes out sites of equal
content, wherever they stand; of each content it takes as many as both sides have
(`countKey_pairBy`). The second one pairs what remains by position. It works inside the leftovers of
the first pass, so all that is known of those carries over: no content remains on both sides, hence
two sites at one position differ in content.

`pairLocated_separates` collects these facts. Where both sides hold the same contents equally often,
the first pass leaves nothing (`pairLocated_eq_nil_of_perm`), and the analyzers that locate their
sites report nothing.
-/

set_option autoImplicit false

namespace ChangeLens.Pairing

universe u v w

variable {α : Type u} {κ : Type v} {π : Type w} [DecidableEq κ] [DecidableEq π]

/-- The base items of a pairing, paired or left. -/
def baseItems (paired : Pairing α) : List α :=
  paired.pairs.map Prod.fst ++ paired.base

/-- The head items of a pairing, paired or left. -/
def headItems (paired : Pairing α) : List α :=
  paired.pairs.map Prod.snd ++ paired.head

/-! ### How many items a pass takes -/

/-- The number of items of a key is the length of the list of these items. -/
theorem countKey_eq_length (key : α → κ) (k : κ) (items : List α) :
    countKey key k items = (ofKey key k items).length :=
  List.countP_eq_length_filter

/-- Of each key, a pass pairs as many items as both sides have. -/
theorem countKey_pairBy (key : α → κ) (k : κ) (base head : List α) :
    countKey key k ((pairBy key base head).pairs.map Prod.fst) =
        min (countKey key k base) (countKey key k head) ∧
      countKey key k ((pairBy key base head).pairs.map Prod.snd) =
        min (countKey key k base) (countKey key k head) := by
  have hfirst : countKey key k ((pairBy key base head).pairs.map Prod.fst) =
      min (countKey key k base) (countKey key k head) := by
    rw [countKey_eq_length key k base, countKey_eq_length key k head, ← List.length_zip,
      ← (pairBy_ofKey key k base head).1, countKey, List.countP_map, List.countP_eq_length_filter]
    rfl
  have hsame : countKey key k ((pairBy key base head).pairs.map Prod.snd) =
      countKey key k ((pairBy key base head).pairs.map Prod.fst) := by
    rw [countKey, countKey, List.countP_map, List.countP_map]
    refine List.countP_congr fun pair hpair => ?_
    rw [Function.comp, Function.comp, pairBy_key_eq hpair]
  exact ⟨hfirst, hsame.trans hfirst⟩

/-- A pairing takes as many items from one side as from the other one. -/
theorem Partitions.length_balance {paired : Pairing α} {base head : List α}
    (h : paired.Partitions base head) :
    paired.head.length + base.length = paired.base.length + head.length := by
  have hbase := h.basePerm.length_eq
  have hhead := h.headPerm.length_eq
  rw [List.length_append, List.length_map] at hbase hhead
  omega

/-! ### Two passes -/

section Located

variable {content : α → κ} {position : α → π} {base head : List α}

/-- Pairing by position partitions what pairing by content has left. -/
theorem pairLocated_partitions (content : α → κ) (position : α → π) (base head : List α) :
    (pairLocated content position base head).Partitions (pairBy content base head).base
      (pairBy content base head).head :=
  pairBy_partitions position _ _

/-- What is left for the pairing by position has no content in common: the pass by content would
have paired it. -/
theorem pairLocated_apart {b h : α} (hb : b ∈ (pairLocated content position base head).baseItems)
    (hh : h ∈ (pairLocated content position base head).headItems) : content b ≠ content h := by
  have hparts := pairLocated_partitions content position base head
  exact pairBy_apart (hparts.basePerm.mem_iff.1 hb) (hparts.headPerm.mem_iff.1 hh)

/-- Where both sides hold the same contents, nothing is paired by position and nothing is left. -/
theorem pairLocated_eq_nil_of_perm (position : α → π)
    (h : (base.map content).Perm (head.map content)) :
    pairLocated content position base head = ⟨[], [], []⟩ := by
  obtain ⟨hbase, hhead⟩ := (pairBy_partitions content base head).eq_nil
    (fun _ => pairBy_key_eq) (fun _ hb _ hh => pairBy_apart hb hh) h
  rw [pairLocated, hbase, hhead]
  rfl

end Located

end ChangeLens.Pairing

namespace ChangeLens.Analyzer

open ChangeLens.Pairing

universe u v w

/-! ### Analyzers of located sites -/

section Silence

variable {base head : Model}

/-- Nothing is reported if the loops have the same texts in some order. -/
theorem compareLoops_eq_nil (target : Target)
    (h : (base.loops.map LoopSite.text).Perm (head.loops.map LoopSite.text)) :
    compareLoops target base head = [] := by
  rw [compareLoops, pairLocated_eq_nil_of_perm _ h]
  rfl

/-- Nothing is reported if the conditional expressions have the same three parts in some order. -/
theorem compareTernaries_eq_nil (target : Target)
    (h : (base.ternaries.map fun site => (site.condition, site.whenTrue, site.whenFalse)).Perm
      (head.ternaries.map fun site => (site.condition, site.whenTrue, site.whenFalse))) :
    compareTernaries target base head = [] := by
  rw [compareTernaries, pairLocated_eq_nil_of_perm _ h]
  rfl

/-- Nothing is reported if the operators of the class have the same operands in some order. -/
theorem compareOperators_eq_nil {category : OperatorClass} (kind : ChangeKind) (noun : String)
    (target : Target)
    (h : ((base.operators.filter (·.category == category)).map fun site =>
        (site.operator, site.left, site.right)).Perm
      ((head.operators.filter (·.category == category)).map fun site =>
        (site.operator, site.left, site.right))) :
    compareOperators category kind noun target base head = [] := by
  rw [compareOperators, pairLocated_eq_nil_of_perm _ h]
  rfl

/-- Nothing is reported if the same values are assigned to the same targets in some order. -/
theorem compareAssignments_eq_nil (target : Target)
    (h : (base.assignments.map fun site => (site.target, site.value)).Perm
      (head.assignments.map fun site => (site.target, site.value))) :
    compareAssignments target base head = [] := by
  rw [compareAssignments, pairLocated_eq_nil_of_perm _ h]
  rfl

/-- Nothing is reported if the return statements agree in some order. -/
theorem comparePromises_eq_nil (target : Target)
    (h : (base.returns.map fun site => (site.text, site.returnsPromise)).Perm
      (head.returns.map fun site => (site.text, site.returnsPromise))) :
    comparePromises target base head = [] := by
  rw [comparePromises, pairLocated_eq_nil_of_perm _ h]
  rfl

/-- Nothing is reported if the same expressions are thrown in some order. -/
theorem compareThrows_eq_nil (target : Target)
    (h : (base.throws.map ThrowSite.text).Perm (head.throws.map ThrowSite.text)) :
    compareThrows target base head = [] := by
  rw [compareThrows, pairLocated_eq_nil_of_perm _ h]
  rfl

/-- Nothing is reported if the `try` statements have the same blocks in some order. -/
theorem compareTries_eq_nil (target : Target)
    (h : (base.tries.map fun site => (site.tryText, site.catchText, site.finallyText)).Perm
      (head.tries.map fun site => (site.tryText, site.catchText, site.finallyText))) :
    compareTries target base head = [] := by
  rw [compareTries, pairLocated_eq_nil_of_perm _ h]
  rfl

end Silence

/-- Nothing is reported about sites of one sort when both versions hold the same contents of that
sort equally often, wherever the sites stand. -/
structure SilentOnMoves (target : Target) (base head : Model) : Prop where
  /-- Loops are compared by their text. -/
  loops : (base.loops.map LoopSite.text).Perm (head.loops.map LoopSite.text) →
    compareLoops target base head = []
  /-- Conditional expressions are compared by their three parts. -/
  ternaries : (base.ternaries.map fun site => (site.condition, site.whenTrue, site.whenFalse)).Perm
      (head.ternaries.map fun site => (site.condition, site.whenTrue, site.whenFalse)) →
    compareTernaries target base head = []
  /-- Operators of one class are compared with their operands. -/
  operators : ∀ category kind noun,
    ((base.operators.filter (·.category == category)).map fun site =>
        (site.operator, site.left, site.right)).Perm
      ((head.operators.filter (·.category == category)).map fun site =>
        (site.operator, site.left, site.right)) →
    compareOperators category kind noun target base head = []
  /-- Assignments are compared by variable and value. -/
  assignments : (base.assignments.map fun site => (site.target, site.value)).Perm
      (head.assignments.map fun site => (site.target, site.value)) →
    compareAssignments target base head = []
  /-- Return statements are compared by their text and whether they resolve a promise. -/
  returns : (base.returns.map fun site => (site.text, site.returnsPromise)).Perm
      (head.returns.map fun site => (site.text, site.returnsPromise)) →
    comparePromises target base head = []
  /-- Throw statements are compared by their text. -/
  throws : (base.throws.map ThrowSite.text).Perm (head.throws.map ThrowSite.text) →
    compareThrows target base head = []
  /-- Try statements are compared by their blocks. -/
  tries : (base.tries.map fun site => (site.tryText, site.catchText, site.finallyText)).Perm
      (head.tries.map fun site => (site.tryText, site.catchText, site.finallyText)) →
    compareTries target base head = []

/-- None of the analyzers that pair by content first reports a site that has only moved. -/
theorem silentOnMoves (target : Target) (base head : Model) : SilentOnMoves target base head :=
  ⟨compareLoops_eq_nil target, compareTernaries_eq_nil target,
    fun _ kind noun => compareOperators_eq_nil kind noun target, compareAssignments_eq_nil target,
    comparePromises_eq_nil target, compareThrows_eq_nil target, compareTries_eq_nil target⟩

/-- Pairing located sites separates moves from edits. The pairs stand at one position and differ in
content; no content remains on both sides, and no position is left on both sides. What is taken out
as unchanged has equal contents and is, of each content, as much as both sides have; so the numbers
of added and removed sites differ as the numbers of sites do. Where both sides hold the same
contents equally often nothing remains, and the analyzers of located sites report nothing. -/
theorem pairLocated_separates {α : Type u} {κ : Type v} {π : Type w} [DecidableEq κ] [DecidableEq π]
    (content : α → κ) (position : α → π) (base head : List α) :
    let located := pairLocated content position base head
    (∀ pair ∈ located.pairs,
      position pair.1 = position pair.2 ∧ content pair.1 ≠ content pair.2) ∧
    (∀ b ∈ located.baseItems, ∀ h ∈ located.headItems, content b ≠ content h) ∧
    (∀ b ∈ located.base, ∀ h ∈ located.head, position b ≠ position h) ∧
    (∃ unchanged : List (α × α),
      (unchanged.map Prod.fst ++ located.baseItems).Perm base ∧
      (unchanged.map Prod.snd ++ located.headItems).Perm head ∧
      (∀ pair ∈ unchanged, content pair.1 = content pair.2) ∧
      ∀ c, countKey content c (unchanged.map Prod.fst) =
          min (countKey content c base) (countKey content c head) ∧
        countKey content c (unchanged.map Prod.snd) =
          min (countKey content c base) (countKey content c head)) ∧
    (located.head.length : Int) - located.base.length = head.length - base.length ∧
    ((base.map content).Perm (head.map content) → located = ⟨[], [], []⟩) ∧
    ∀ target before after, SilentOnMoves target before after := by
  intro located
  have hmoved := pairBy_partitions content base head
  have hparts : located.Partitions _ _ := pairLocated_partitions content position base head
  refine ⟨fun pair hpair => ⟨pairBy_key_eq hpair, ?_⟩, fun b hb h hh => pairLocated_apart hb hh,
    fun b hb h hh => pairBy_apart hb hh,
    ⟨(pairBy content base head).pairs, ?_, ?_, fun _ => pairBy_key_eq,
      fun c => countKey_pairBy content c base head⟩, ?_, pairLocated_eq_nil_of_perm position,
    silentOnMoves⟩
  · -- Each half of a pair is an item of its version.
    exact pairLocated_apart (List.mem_append_left _ (List.mem_map_of_mem hpair))
      (List.mem_append_left _ (List.mem_map_of_mem hpair))
  · exact (hparts.basePerm.append_left _).trans hmoved.basePerm
  · exact (hparts.headPerm.append_left _).trans hmoved.headPerm
  · -- The same number of items has left both lists in each of the two passes.
    have hfirst := hmoved.length_balance
    have hsecond := hparts.length_balance
    omega

end ChangeLens.Analyzer
