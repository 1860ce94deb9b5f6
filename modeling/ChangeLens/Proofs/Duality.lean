import ChangeLens.Proofs.Coverage
import ChangeLens.Proofs.EditDistance
import ChangeLens.Proofs.Mirroring

/-!
# `ChangeLens.Proofs.Duality`: what is added one way is removed the other way

Comparing the head version with the base version, instead of the base version with the head version,
should turn every addition into a removal at the same place. `spansOf` reads the places of one kind
off a report, and for each analyzer that reports both additions and removals it gives what pairing
left on one side. Pairing does not depend on the direction (`Pairing.Mirrors`), so the two sides
change places. Two analyzers need more than that.

* What is missing is reported together by key; `grouped_perm` says that this only changes the order.
* One function that is gone and one that is new may count as a rename, and then neither is reported.
  That decision does not depend on the direction if the measure of similarity does not
  (`renames_comm`).

`added_removed_dual` puts the pairings and the analyzers together.
-/

set_option autoImplicit false

namespace ChangeLens

universe u v w

/-- Where the records of one kind stand. -/
def spansOf (kind : ChangeKind) (records : List Record) : List Span :=
  (records.filter fun record => decide (record.kind = kind)).map Record.span

section Spans

variable {α : Type} {kind : ChangeKind}

/-- Spans of a kind are collected from two lists in turn. -/
theorem spansOf_append (kind : ChangeKind) (first second : List Record) :
    spansOf kind (first ++ second) = spansOf kind first ++ spansOf kind second := by
  rw [spansOf, List.filter_append, List.map_append, spansOf, spansOf]

/-- There are none where no record is of the kind. -/
theorem spansOf_eq_nil {records : List Record} (h : ∀ record ∈ records, record.kind ≠ kind) :
    spansOf kind records = [] := by
  rw [spansOf, List.filter_eq_nil_iff.2 fun record hmem => by simp [h record hmem], List.map_nil]

/-- The sites that are reported under the kind. -/
theorem spansOf_map (kind : ChangeKind) (report : α → Record) (sites : List α) :
    spansOf kind (sites.map report) =
      (sites.filter fun site => decide ((report site).kind = kind)).map fun site =>
        (report site).span := by
  rw [spansOf, List.filter_map, List.map_map]
  rfl

/-- Spans of what each site gives. -/
theorem spansOf_flatMap (kind : ChangeKind) (report : α → List Record) (sites : List α) :
    spansOf kind (sites.flatMap report) = sites.flatMap fun site => spansOf kind (report site) := by
  induction sites with
  | nil => rfl
  | cons site sites ih => rw [List.flatMap_cons, spansOf_append, ih, List.flatMap_cons]

/-- There are none if no site gives any. -/
theorem spansOf_flatMap_eq_nil {report : α → List Record}
    (h : ∀ site, spansOf kind (report site) = []) (sites : List α) :
    spansOf kind (sites.flatMap report) = [] := by
  rw [spansOf_flatMap]
  exact List.flatMap_eq_nil_iff.2 fun site _ => h site

end Spans

namespace Pairing

variable {α : Type u} {κ : Type w}

/-- Putting leftovers together by key changes their order at most. -/
theorem grouped_perm [BEq κ] [LawfulBEq κ] {key : α → κ} {items left : List α}
    (h : left ⊆ items) : (grouped key items left).Perm left := by
  have hkeys : ∀ a ∈ left, key a ∈ items.map key := fun a ha => List.mem_map_of_mem (h ha)
  clear h
  -- The list of keys is general from here on: all that matters is that it has every key of a
  -- leftover.
  unfold grouped
  generalize hlength : (items.map key).length = n
  generalize items.map key = keys at hkeys hlength
  -- The first key takes its own items out of the leftovers, and what remains has other keys.
  induction n using Nat.strongRecOn generalizing keys left with
  | _ n ih =>
    cases keys with
    | nil =>
      have hnil : left = [] :=
        List.eq_nil_iff_forall_not_mem.2 fun a ha => by simpa using hkeys a ha
      rw [hnil]
      exact List.Perm.refl []
    | cons k keys =>
      -- The items of the other keys are the same with and without those of the first one.
      have hothers : ∀ other ∈ keys.filter (!· == k),
          (left.filter fun item => key item == other) =
            (left.filter (!key · == k)).filter fun item => key item == other := by
        intro other hother
        have hne : (other == k) = false := by simpa using (List.mem_filter.1 hother).2
        rw [List.filter_filter]
        refine List.filter_congr fun item _ => ?_
        cases hitem : key item == other with
        | false => rfl
        | true => rw [eq_of_beq hitem, hne]; rfl
      -- The induction is on the number of keys, as the filtered list is not a tail of the list.
      have hfewer : (keys.filter (!· == k)).length < n := by
        rw [← hlength, List.length_cons]
        exact Nat.lt_succ_of_le (List.length_filter_le _ _)
      have hremain : ∀ a ∈ left.filter (!key · == k), key a ∈ keys.filter (!· == k) := by
        intro a ha
        obtain ⟨hmem, hne⟩ := List.mem_filter.1 ha
        rcases List.mem_cons.1 (hkeys a hmem) with heq | hkey
        · rw [heq, beq_self_eq_true] at hne
          cases hne
        · exact List.mem_filter.2 ⟨hkey, hne⟩
      have hrest := ih _ hfewer _ hremain rfl
      rw [List.eraseDups_cons, List.flatMap_cons,
        List.flatMap_congr fun other hother => hothers other (List.mem_eraseDups.1 hother)]
      exact (hrest.append_left _).trans (List.filter_append_perm (key · == k) left)

end Pairing

namespace Analyzer

open ChangeLens.Pairing

variable (target : Target) (base head : Model)

/-! ### Leftovers of a pairing -/

/-- Additions and removals never come from a pair of calls. -/
theorem spansOf_callChanges {kind : ChangeKind} (hchanged : kind ≠ .functionCallChanged)
    (hhook : kind ≠ .hookDependencyChanged) (hmodified : kind ≠ .functionCallModified)
    (before after : CallSite) : spansOf kind (callChanges target before after) = [] := by
  refine spansOf_eq_nil fun record hmem heq => ?_
  rw [← heq] at hchanged hhook hmodified
  rcases (mem_callChanges hmem).1 with hkind | hkind | hkind
  · exact hchanged hkind
  · exact hhook hkind
  · exact hmodified hkind

/-- Calls are reported as added and removed for what the pairing leaves over. -/
theorem spansOf_compareCalls :
    spansOf .functionCallAdded (compareCalls target base head) =
        (pairCalls base.calls head.calls).head.map CallSite.span ∧
      spansOf .functionCallRemoved (compareCalls target base head) =
        (pairCalls base.calls head.calls).base.map CallSite.span := by
  constructor <;>
    simp [compareCalls, spansOf_append, spansOf_flatMap_eq_nil, spansOf_map, spansOf_callChanges,
      callRemoved, callAdded, Target.report]

/-- What pairing makes of the if statements of two versions. -/
def pairConditionals (base head : List ConditionalSite) : Pairing ConditionalSite :=
  let equal := pairBy (fun site : ConditionalSite => (site.fingerprint, site.condition)) base head
  pairBy ConditionalSite.fingerprint equal.base equal.head

/-- Conditionals are paired the same way from either side. -/
theorem pairConditionals_mirrors (base head : List ConditionalSite) :
    (pairConditionals base head).Mirrors (pairConditionals head base) :=
  (pairBy_mirrors _ base head).pairBy ConditionalSite.fingerprint

/-- Conditionals are reported as added and removed for what the pairing leaves over. -/
theorem spansOf_compareConditionals :
    spansOf .conditionalAdded (compareConditionals target base head) =
        (pairConditionals base.conditionals head.conditionals).head.map ConditionalSite.span ∧
      spansOf .conditionalRemoved (compareConditionals target base head) =
        (pairConditionals base.conditionals head.conditionals).base.map ConditionalSite.span := by
  constructor <;>
    simp [compareConditionals, pairConditionals, spansOf_append, spansOf_map, conditionalRecord,
      Target.report]

/-- Loops likewise. -/
theorem spansOf_compareLoops :
    spansOf .loopAdded (compareLoops target base head) =
        (pairLocated LoopSite.text (fun site => site.span.position) base.loops
          head.loops).head.map LoopSite.span ∧
      spansOf .loopRemoved (compareLoops target base head) =
        (pairLocated LoopSite.text (fun site => site.span.position) base.loops
          head.loops).base.map LoopSite.span := by
  constructor <;> simp [compareLoops, spansOf_append, spansOf_map, loopRecord, Target.report]

/-- Conditional expressions likewise. -/
theorem spansOf_compareTernaries :
    spansOf .ternaryAdded (compareTernaries target base head) =
        (pairLocated (fun site : TernarySite => (site.condition, site.whenTrue, site.whenFalse))
          (fun site => site.span.position) base.ternaries head.ternaries).head.map
          TernarySite.span ∧
      spansOf .ternaryRemoved (compareTernaries target base head) =
        (pairLocated (fun site : TernarySite => (site.condition, site.whenTrue, site.whenFalse))
          (fun site => site.span.position) base.ternaries head.ternaries).base.map
          TernarySite.span := by
  constructor <;> simp [compareTernaries, spansOf_append, spansOf_map, ternaryRecord, Target.report]

/-- Throw statements likewise. -/
theorem spansOf_compareThrows :
    spansOf .throwAdded (compareThrows target base head) =
        (pairLocated ThrowSite.text (fun site => site.span.position) base.throws
          head.throws).head.map ThrowSite.span ∧
      spansOf .throwRemoved (compareThrows target base head) =
        (pairLocated ThrowSite.text (fun site => site.span.position) base.throws
          head.throws).base.map ThrowSite.span := by
  constructor <;> simp [compareThrows, spansOf_append, spansOf_map, throwRecord, Target.report]

/-! ### Leftovers by key -/

/-- What one version has beyond the other one is what is missing the other way round. -/
theorem beyond_perm_missing {α κ : Type} [DecidableEq κ] (key : α → κ) (base head : List α) :
    (beyond key base head).Perm (missing key head base) := by
  have hleft : (pairBy key base head).head ⊆ head :=
    (pairBy_partitions key base head).headOrder.subset
  rw [beyond, (pairBy_mirrors key base head).base]
  exact (grouped_perm hleft).symm

/-- Destructuring declarations are reported as added for what is beyond the base version and as
removed for what is missing of it. -/
theorem spansOf_compareDestructurings :
    spansOf .destructuringAdded (compareDestructurings target base head) =
        (beyond destructuringKey base.destructurings head.destructurings).map
          DestructuringSite.span ∧
      spansOf .destructuringRemoved (compareDestructurings target base head) =
        (missing destructuringKey base.destructurings head.destructurings).map
          DestructuringSite.span := by
  constructor <;> simp [compareDestructurings, spansOf_append, spansOf_map, Target.report]

/-- Spreads likewise. -/
theorem spansOf_compareSpreads :
    spansOf .spreadOperatorAdded (compareSpreads target base head) =
        (beyond SpreadSite.key base.spreads head.spreads).map SpreadSite.span ∧
      spansOf .spreadOperatorRemoved (compareSpreads target base head) =
        (missing SpreadSite.key base.spreads head.spreads).map SpreadSite.span := by
  constructor <;> simp [compareSpreads, spansOf_append, spansOf_map, Target.report]

/-! ### Functions -/

/-- Whether the functions without a partner are one function under two names. -/
def renames : List FunctionSite → List FunctionSite → Bool
  | [old], [new] =>
    (target.similarity old.bodyText new.bodyText).exceeds renameTenths ||
      old.parameters.length != new.parameters.length
  | _, _ => false

/-- The measure of similarity does not depend on the order of the two texts. -/
def SymmetricMeasure : Prop :=
  ∀ a b, target.similarity a b = target.similarity b a

variable {target} in
/-- Under a symmetric measure a rename is one in both directions. -/
theorem renames_comm (h : SymmetricMeasure target) (removed added : List FunctionSite) :
    renames target removed added = renames target added removed := by
  match removed, added with
  | [old], [new] =>
    simp only [renames, h old.bodyText, bne_comm (a := old.parameters.length)]
  | [], [] | [], [_] | [], _ :: _ :: _ | [_], [] | [_], _ :: _ :: _ | _ :: _ :: _, []
  | _ :: _ :: _, [_] | _ :: _ :: _, _ :: _ :: _ => rfl

/-- A rename is reported as a changed signature. -/
theorem kind_of_functionRename? {old new : FunctionSite} {record : Record}
    (h : functionRename? target old new = some record) :
    record.kind = .functionSignatureChanged := by
  rw [functionRename?] at h
  split at h
  · cases h
    rfl
  · split at h
    · cases h
      rfl
    · cases h

/-- One function gone and one new are a rename exactly if they are similar enough. -/
theorem isSome_functionRename? (old new : FunctionSite) :
    (functionRename? target old new).isSome = renames target [old] [new] := by
  rw [functionRename?, renames]
  split
  · rename_i hsimilar
    rw [hsimilar]
    rfl
  · rename_i hsimilar
    rw [Bool.eq_false_iff.2 hsimilar, Bool.false_or]
    split <;> simp_all

/-- A rename replaces both reports, and only a rename does. -/
theorem functionLeftovers_cases (removed added : List FunctionSite) :
    (renames target removed added = true ∧ ∃ record, functionLeftovers target removed added = [record] ∧
      record.kind = .functionSignatureChanged) ∨
    renames target removed added = false ∧ functionLeftovers target removed added =
      removed.map (functionRemoved target) ++ added.map (functionAdded target) := by
  simp only [functionLeftovers]
  split
  · -- One function has gone and one has come: whether that is a rename is what the similarity
    -- decides.
    rename_i old new
    have hsome := isSome_functionRename? target old new
    cases hrename : functionRename? target old new with
    | some record =>
      rw [hrename] at hsome
      exact Or.inl ⟨hsome.symm, record, rfl, kind_of_functionRename? target hrename⟩
    | none =>
      rw [hrename] at hsome
      exact Or.inr ⟨hsome.symm, rfl⟩
  · -- Any other numbers of leftovers are never a rename.
    rename_i hother
    refine Or.inr ⟨?_, rfl⟩
    rw [renames]
    exact hother

/-- Leftover functions are reported as added and removed unless they are a rename. -/
theorem spansOf_functionLeftovers (removed added : List FunctionSite) :
    spansOf .functionAdded (functionLeftovers target removed added) =
        (if renames target removed added then [] else added.map FunctionSite.span) ∧
      spansOf .functionRemoved (functionLeftovers target removed added) =
        (if renames target removed added then [] else removed.map FunctionSite.span) := by
  rcases functionLeftovers_cases target removed added with ⟨hrenames, record, heq, hkind⟩ |
    ⟨hrenames, heq⟩
  · simp [heq, hrenames, spansOf, hkind]
  · constructor <;>
      simp [heq, hrenames, spansOf_append, spansOf_map, functionRemoved, functionAdded,
        Target.report]

/-- Leftover functions are never reported as having become asynchronous. -/
theorem spansOf_async_functionLeftovers (removed added : List FunctionSite) :
    spansOf .asyncAwaitAdded (functionLeftovers target removed added) = [] ∧
      spansOf .asyncAwaitRemoved (functionLeftovers target removed added) = [] := by
  rcases functionLeftovers_cases target removed added with ⟨-, record, heq, hkind⟩ | ⟨-, heq⟩
  · simp [heq, spansOf, hkind]
  · constructor <;>
      simp [heq, spansOf_append, spansOf_map, functionRemoved, functionAdded, Target.report]

/-- Of what callers see of a pair, only the async flag is reported under a kind of its own. -/
theorem spansOf_functionChanges {kind : ChangeKind} (hsignature : kind ≠ .functionSignatureChanged)
    (hcomplexity : kind ≠ .functionComplexityChanged) (before after : FunctionSite) :
    spansOf kind (functionChanges target before after) =
      spansOf kind (asyncChanges target before after) := by
  rw [functionChanges, spansOf_append, spansOf_append,
    spansOf_eq_nil fun record hmem heq => hsignature (heq.symm.trans (mem_surfaceChanges hmem).1),
    spansOf_eq_nil fun record hmem heq =>
      hcomplexity (heq.symm.trans (mem_complexityChanges hmem).1),
    List.nil_append, List.append_nil]

/-- The functions of two versions, paired by identity. -/
def pairFunctions (base head : Model) : Pairing FunctionSite :=
  pairBy FunctionSite.identity base.namedFunctions head.namedFunctions

/-- A pair of functions is reported as asynchronous where the head one is and the base one is not,
and the other way round. -/
theorem spansOf_asyncChanges (before after : FunctionSite) :
    spansOf .asyncAwaitAdded (asyncChanges target before after) =
        (if !before.isAsync && after.isAsync then [after.span] else []) ∧
      spansOf .asyncAwaitRemoved (asyncChanges target before after) =
        (if before.isAsync && !after.isAsync then [before.span] else []) ∧
      spansOf .functionAdded (asyncChanges target before after) = [] ∧
      spansOf .functionRemoved (asyncChanges target before after) = [] := by
  rw [asyncChanges]
  cases before.isAsync <;> cases after.isAsync <;> simp [spansOf, Target.report]

/-- Functions are reported as added and removed for what the pairing by identity leaves over, unless
it is a rename. -/
theorem spansOf_compareFunctions :
    spansOf .functionAdded (compareFunctions target base head) =
        (if renames target (pairFunctions base head).base (pairFunctions base head).head then []
          else (pairFunctions base head).head.map FunctionSite.span) ∧
      spansOf .functionRemoved (compareFunctions target base head) =
        (if renames target (pairFunctions base head).base (pairFunctions base head).head then []
          else (pairFunctions base head).base.map FunctionSite.span) := by
  have hleftovers := spansOf_functionLeftovers target (pairFunctions base head).base
    (pairFunctions base head).head
  constructor
  · rw [compareFunctions, spansOf_append, spansOf_flatMap_eq_nil fun pair => ?_]
    · exact hleftovers.1
    · rw [spansOf_functionChanges target (by decide) (by decide)]
      exact (spansOf_asyncChanges target pair.1 pair.2).2.2.1
  · rw [compareFunctions, spansOf_append, spansOf_flatMap_eq_nil fun pair => ?_]
    · exact hleftovers.2
    · rw [spansOf_functionChanges target (by decide) (by decide)]
      exact (spansOf_asyncChanges target pair.1 pair.2).2.2.2

/-- Functions are reported as having become asynchronous, or no longer so, pair by pair. -/
theorem spansOf_async_compareFunctions :
    spansOf .asyncAwaitAdded (compareFunctions target base head) =
        ((pairFunctions base head).pairs.flatMap fun (before, after) =>
          if !before.isAsync && after.isAsync then [after.span] else []) ∧
      spansOf .asyncAwaitRemoved (compareFunctions target base head) =
        ((pairFunctions base head).pairs.flatMap fun (before, after) =>
          if before.isAsync && !after.isAsync then [before.span] else []) := by
  constructor <;>
    simp [compareFunctions, pairFunctions, spansOf_append, spansOf_flatMap, spansOf_functionChanges,
      spansOf_asyncChanges, spansOf_async_functionLeftovers]

/-! ### Both directions -/

/-- The analyzers that report additions and removals, with the kinds of both. -/
def opposites : List (Analyzer × ChangeKind × ChangeKind) :=
  [(calls, .functionCallAdded, .functionCallRemoved),
   (conditionals, .conditionalAdded, .conditionalRemoved),
   (loops, .loopAdded, .loopRemoved),
   (ternaries, .ternaryAdded, .ternaryRemoved),
   (throws, .throwAdded, .throwRemoved),
   (destructuring, .destructuringAdded, .destructuringRemoved),
   (spreads, .spreadOperatorAdded, .spreadOperatorRemoved),
   (functions, .functionAdded, .functionRemoved),
   (functions, .asyncAwaitAdded, .asyncAwaitRemoved)]

/-- What one report adds another one removes, at the same places. -/
def Opposed (comparison : Comparison) (added removed : ChangeKind) : Prop :=
  ∀ base head,
    (spansOf added (comparison target base head)).Perm
      (spansOf removed (comparison target head base))

/-- A comparison that reports what a pairing leaves on either side is opposed to itself, because the
pairing is mirrored. -/
theorem opposed_of_mirrors {α : Type} {comparison : Comparison} {added removed : ChangeKind}
    {pairing : Model → Model → Pairing α} {span : α → Span}
    (hmirrors : ∀ base head, (pairing base head).Mirrors (pairing head base))
    (hadded : ∀ base head,
      spansOf added (comparison target base head) = (pairing base head).head.map span)
    (hremoved : ∀ base head,
      spansOf removed (comparison target base head) = (pairing base head).base.map span) :
    Opposed target comparison added removed := by
  intro base head
  rw [hadded, hremoved, (hmirrors base head).base]

/-- Functions need the measure to be symmetric: it decides whether they are renamed. -/
theorem compareFunctions_opposed (h : SymmetricMeasure target) :
    Opposed target compareFunctions .functionAdded .functionRemoved := by
  intro base head
  have hmirror : (pairFunctions base head).Mirrors (pairFunctions head base) :=
    pairBy_mirrors _ _ _
  rw [(spansOf_compareFunctions target base head).1, (spansOf_compareFunctions target head base).2,
    hmirror.base, hmirror.head, renames_comm h]

/-- A function that becomes async in one direction is no longer async in the other one. -/
theorem compareFunctions_async_opposed :
    Opposed target compareFunctions .asyncAwaitAdded .asyncAwaitRemoved := by
  intro base head
  have hmirror : (pairFunctions base head).Mirrors (pairFunctions head base) :=
    pairBy_mirrors _ _ _
  rw [(spansOf_async_compareFunctions target base head).1,
    (spansOf_async_compareFunctions target head base).2]
  refine List.Perm.trans (List.Perm.of_eq ?_) (hmirror.pairs.flatMap_right _).symm
  rw [List.flatMap_map]
  refine List.flatMap_congr fun (before, after) _ => ?_
  dsimp only [Prod.swap]
  rw [Bool.and_comm]

/-- Every entry of the table is opposed, that of added functions if the measure is symmetric. -/
theorem opposites_opposed :
    ∀ entry ∈ opposites, (entry.2.1 = .functionAdded → SymmetricMeasure target) →
      ∃ name group comparison, entry.1 = Analyzer.of name group comparison ∧
        Opposed target comparison entry.2.1 entry.2.2 := by
  simp only [opposites, List.forall_mem_cons]
  refine ⟨fun _ => ⟨_, _, _, rfl, ?_⟩, fun _ => ⟨_, _, _, rfl, ?_⟩, fun _ => ⟨_, _, _, rfl, ?_⟩,
    fun _ => ⟨_, _, _, rfl, ?_⟩, fun _ => ⟨_, _, _, rfl, ?_⟩, fun _ => ⟨_, _, _, rfl, ?_⟩,
    fun _ => ⟨_, _, _, rfl, ?_⟩, fun hsymmetric => ⟨_, _, _, rfl, ?_⟩,
    fun _ => ⟨_, _, _, rfl, ?_⟩, by simp⟩
  · -- Five pairings mirror each other; two comparisons count by keys; functions are paired by
    -- identity, and whether a single leftover is a rename depends on the measure of similarity.
    exact opposed_of_mirrors target (fun _ _ => pairCalls_mirrors _ _)
      (fun base head => (spansOf_compareCalls target base head).1)
      fun base head => (spansOf_compareCalls target base head).2
  · exact opposed_of_mirrors target (fun _ _ => pairConditionals_mirrors _ _)
      (fun base head => (spansOf_compareConditionals target base head).1)
      fun base head => (spansOf_compareConditionals target base head).2
  · exact opposed_of_mirrors target (fun _ _ => pairLocated_mirrors _ _ _ _)
      (fun base head => (spansOf_compareLoops target base head).1)
      fun base head => (spansOf_compareLoops target base head).2
  · exact opposed_of_mirrors target (fun _ _ => pairLocated_mirrors _ _ _ _)
      (fun base head => (spansOf_compareTernaries target base head).1)
      fun base head => (spansOf_compareTernaries target base head).2
  · exact opposed_of_mirrors target (fun _ _ => pairLocated_mirrors _ _ _ _)
      (fun base head => (spansOf_compareThrows target base head).1)
      fun base head => (spansOf_compareThrows target base head).2
  · intro base head
    rw [(spansOf_compareDestructurings target base head).1,
      (spansOf_compareDestructurings target head base).2]
    exact (beyond_perm_missing _ _ _).map _
  · intro base head
    rw [(spansOf_compareSpreads target base head).1, (spansOf_compareSpreads target head base).2]
    exact (beyond_perm_missing _ _ _).map _
  · exact compareFunctions_opposed target (hsymmetric trivial)
  · exact compareFunctions_async_opposed target

/-- Added and removed are dual. However items are paired, exchanging the two lists gives the same
pairs, turned, and exchanges what is left, in its order. So where the comparison in one direction
reports additions, the comparison in the other direction reports removals; for functions as a whole
this takes a measure of similarity that is symmetric. -/
theorem added_removed_dual :
    (∀ (α : Type u) (κ : Type w) [DecidableEq κ] (key : α → κ) (base head : List α),
      (pairUnique key base head).Mirrors (pairUnique key head base) ∧
        (pairBy key base head).Mirrors (pairBy key head base)) ∧
    (∀ (α : Type u) (κ : Type w) (π : Type v) [DecidableEq κ] [DecidableEq π] (content : α → κ)
      (position : α → π) (base head : List α),
      (pairLocated content position base head).Mirrors (pairLocated content position head base)) ∧
    (∀ base head : List CallSite, (pairCalls base head).Mirrors (pairCalls head base)) ∧
    ∀ analyzer added removed, (analyzer, added, removed) ∈ opposites →
      ∀ target : Target,
        (added = .functionAdded → ∀ a b, target.similarity a b = target.similarity b a) →
          ∀ base head, ∃ forth back,
            analyzer.compare target base head = some forth ∧
              analyzer.compare target head base = some back ∧
              (spansOf added forth).Perm (spansOf removed back) := by
  refine ⟨fun α κ _ key base head =>
      ⟨pairUnique_mirrors key base head, pairBy_mirrors key base head⟩,
    fun α κ π _ _ content position base head => pairLocated_mirrors content position base head,
    pairCalls_mirrors, fun analyzer added removed hmem target hsymmetric base head => ?_⟩
  obtain ⟨name, group, comparison, heq, hopposed⟩ := opposites_opposed target _ hmem hsymmetric
  refine ⟨comparison target base head, comparison target head base, ?_, ?_, hopposed base head⟩
  · rw [show analyzer = _ from heq]
    rfl
  · rw [show analyzer = _ from heq]
    rfl

/-- A file with a single function, on a line of its own. -/
def soleFunction (name body : String) (line : Int) : Model :=
  { dialect := "typescript"
    text := ""
    functions := [{ name := name, identity := name, context := .topLevel,
                    span := ⟨line, 0, line, 9⟩, bodyText := body }] }

/-- The edit distance is symmetric, and the bodies of the two functions are too far apart for a
rename: one is added where it would be removed on the way back. -/
theorem added_removed_dual_edits :
    let target : Target := ⟨"a.ts", {}, Text.similarity⟩
    let before := soleFunction "f" "a()" 1
    let after := soleFunction "g" "bcd" 4
    spansOf .functionAdded (compareFunctions target before after) = [⟨4, 0, 4, 9⟩] ∧
      ∃ forth back,
        functions.compare target before after = some forth ∧
          functions.compare target after before = some back ∧
          (spansOf .functionAdded forth).Perm (spansOf .functionRemoved back) :=
  ⟨by decide +kernel,
    added_removed_dual.{0, 0, 0}.2.2.2 functions .functionAdded .functionRemoved (by simp [opposites])
      _ (fun _ => Text.similarity_comm) _ _⟩

end Analyzer

end ChangeLens
