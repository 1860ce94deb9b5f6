import ChangeLens.Analyzer.Hooks
import ChangeLens.Analyzer.Markup
import ChangeLens.Proofs.Duality
import ChangeLens.Proofs.Locating
import Mathlib.Data.List.Perm.Subperm

/-!
# `ChangeLens.Proofs.Accounting`: how many sites are reported as added and removed

Several comparisons count sites by a key: what one version has more of is reported, one record for
each site. `Pairing.IsExcess` says what is reported then: some of the sites, of each key as many as
there are more of it than on the other side. `beyond_isExcess` and `missing_isExcess` prove it of
the two leftovers of a pairing by key, whatever its order, and each comparison is one of these
leftovers or both (`compareSpreads_eq` and its like).

Hooks are counted in the same way, but one more `useState` is passed over where there was one
before. Markup elements go through three pairings in turn, the last of which lets components take
each other's place. No pairing loses an element, so what is left on the two sides differs by as much
as the two versions do (`Pairing.Partitions.length_balance`).

`reported_by_multiplicity` puts these accounts together.
-/

set_option autoImplicit false

namespace ChangeLens

universe u v

/-! ### Excess -/

namespace Pairing

variable {α : Type u} {κ : Type v} [DecidableEq κ]

/-- Some sites are what is left of all of them when other ones are taken off, key by key. -/
structure IsExcess (key : α → κ) (sites others reported : List α) : Prop where
  among : reported.Subperm sites
  count : ∀ k, countKey key k reported = countKey key k sites - countKey key k others

/-- The order in which the excess is reported does not matter. -/
theorem IsExcess.of_perm {key : α → κ} {sites others reported reported' : List α}
    (h : IsExcess key sites others reported) (hperm : reported'.Perm reported) :
    IsExcess key sites others reported' :=
  ⟨hperm.subperm.trans h.among, fun k => (hperm.countP_eq _).trans (h.count k)⟩

/-- What a pairing by key leaves on the one side. -/
theorem pairBy_base_isExcess (key : α → κ) (sites others : List α) :
    IsExcess key sites others (pairBy key sites others).base where
  among := (pairBy_partitions key sites others).baseOrder.subperm
  count k := by
    rw [countKey_eq_length, (pairBy_ofKey key k sites others).2.1, List.length_drop,
      countKey_eq_length, countKey_eq_length]

/-- What a pairing by key leaves on the other side. -/
theorem pairBy_head_isExcess (key : α → κ) (sites others : List α) :
    IsExcess key others sites (pairBy key sites others).head where
  among := (pairBy_partitions key sites others).headOrder.subperm
  count k := by
    rw [countKey_eq_length, (pairBy_ofKey key k sites others).2.2, List.length_drop,
      countKey_eq_length, countKey_eq_length]

end Pairing

/-- The records of some kinds. -/
def recordsOf (kinds : List ChangeKind) (records : List Record) : List Record :=
  records.filter (kinds.contains ·.kind)

section Kinds

variable {α : Type} {kinds : List ChangeKind}

/-- Records of some kinds are picked from two lists in turn. -/
theorem recordsOf_append (kinds : List ChangeKind) (first second : List Record) :
    recordsOf kinds (first ++ second) = recordsOf kinds first ++ recordsOf kinds second :=
  List.filter_append ..

/-- Nothing is picked where no record is of these kinds. -/
theorem recordsOf_eq_nil {records : List Record} (h : ∀ record ∈ records, record.kind ∉ kinds) :
    recordsOf kinds records = [] :=
  List.filter_eq_nil_iff.2 fun record hmem => by simpa using h record hmem

/-- Everything is picked where all records are. -/
theorem recordsOf_eq_self {records : List Record} (h : ∀ record ∈ records, record.kind ∈ kinds) :
    recordsOf kinds records = records :=
  List.filter_eq_self.2 fun record hmem => by simpa using h record hmem

/-- Records about sites that are all of one kind. -/
theorem recordsOf_map {kind : ChangeKind} {report : α → Record}
    (h : ∀ site, (report site).kind = kind) (kinds : List ChangeKind) (sites : List α) :
    recordsOf kinds (sites.map report) = if kind ∈ kinds then sites.map report else [] := by
  split
  · rename_i hlisted
    refine recordsOf_eq_self fun record hmem => ?_
    obtain ⟨site, -, rfl⟩ := List.mem_map.1 hmem
    rwa [h site]
  · rename_i hlisted
    refine recordsOf_eq_nil fun record hmem => ?_
    obtain ⟨site, -, rfl⟩ := List.mem_map.1 hmem
    rwa [h site]

end Kinds

namespace Analyzer

open ChangeLens.Pairing

variable (target : Target) (base head : Model)

/-! ### Comparisons by key -/

section Leftovers

variable {α κ : Type} [DecidableEq κ] (key : α → κ) (before after : List α)

/-- What is beyond the base version is the excess of the head version. -/
theorem beyond_isExcess : IsExcess key after before (beyond key before after) :=
  pairBy_base_isExcess key after before

/-- What is missing is the excess of the base version. -/
theorem missing_isExcess : IsExcess key before after (missing key before after) :=
  (pairBy_head_isExcess key after before).of_perm
    (grouped_perm (pairBy_partitions key after before).headOrder.subset)

end Leftovers

/-- The record about a new call that changes an array in place. -/
def arrayMutationAdded (site : ArrayMutationSite) : Record :=
  target.report .arrayMutation .medium site.span "CallExpression"
    s!"Array mutation added via {site.key}()"

/-- The record about a new assignment to a property. -/
def objectMutationAdded (site : ObjectMutationSite) : Record :=
  target.report .objectMutation .medium site.span "BinaryExpression"
    s!"Object property mutated: {site.target}"

/-- The record about a new spread. -/
def spreadAdded (site : SpreadSite) : Record :=
  target.report .spreadOperatorAdded ChangeKind.spreadOperatorAdded.defaultSeverity site.span
    "SpreadElement" s!"Spread operator added: {spreadText site}"

/-- The record about a spread that is gone. -/
def spreadRemoved (site : SpreadSite) : Record :=
  target.report .spreadOperatorRemoved ChangeKind.spreadOperatorRemoved.defaultSeverity site.span
    "SpreadElement" s!"Spread operator removed: {spreadText site}"

/-- The record about a new destructuring declaration. -/
def destructuringAdded (site : DestructuringSite) : Record :=
  target.report .destructuringAdded ChangeKind.destructuringAdded.defaultSeverity site.span
    "VariableDeclaration" s!"Destructuring added: {site.pattern} from {site.initializer}"

/-- The record about a destructuring declaration that is gone. -/
def destructuringRemoved (site : DestructuringSite) : Record :=
  target.report .destructuringRemoved ChangeKind.destructuringRemoved.defaultSeverity site.span
    "VariableDeclaration" s!"Destructuring removed: {site.pattern} from {site.initializer}"

/-- The record about new conditional rendering. -/
def renderAdded (site : RenderSite) : Record :=
  target.report .jsxLogicAdded .medium site.span "JsxExpression"
    s!"Conditional rendering added ({site.form.name})" (some site.text)

/-- Array mutations are reported for what is beyond the base version. -/
theorem compareArrayMutations_eq :
    compareArrayMutations target base head =
      (beyond ArrayMutationSite.key base.arrayMutations head.arrayMutations).map
        (arrayMutationAdded target) :=
  rfl

/-- What assignments to properties are counted by. -/
def objectMutationKey (site : ObjectMutationSite) : String × String :=
  (site.target, site.operator)

/-- Assignments to properties likewise. -/
theorem compareObjectMutations_eq :
    compareObjectMutations target base head =
      (beyond objectMutationKey base.objectMutations head.objectMutations).map
        (objectMutationAdded target) :=
  rfl

/-- The key of a spread, written out. -/
theorem spreadKey_eq :
    SpreadSite.key = fun site =>
      (if site.kind = .object then "object" else "array") ++ ":" ++ site.text := by
  funext site
  rw [SpreadSite.key]
  cases site.kind with
  | object => rfl
  | array => rfl

/-- Spreads are reported for what is beyond the base version and for what is missing of it. -/
theorem compareSpreads_eq :
    compareSpreads target base head =
      (beyond SpreadSite.key base.spreads head.spreads).map (spreadAdded target) ++
        (missing SpreadSite.key base.spreads head.spreads).map (spreadRemoved target) :=
  rfl

/-- Destructuring declarations likewise. -/
theorem compareDestructurings_eq :
    compareDestructurings target base head =
      (beyond destructuringKey base.destructurings head.destructurings).map
          (destructuringAdded target) ++
        (missing destructuringKey base.destructurings head.destructurings).map
          (destructuringRemoved target) :=
  rfl

/-- What conditional rendering is counted by. -/
def renderKey (site : RenderSite) : RenderForm × String :=
  (site.form, site.text)

/-- Conditional rendering is reported for what is beyond the base version. The comparison asks for
equal form and text, which is to ask for equal keys. -/
theorem compareRenders_eq :
    compareRenders target base head =
      (beyond renderKey base.renders head.renders).map (renderAdded target) := by
  have hfits :
      (fun after before : RenderSite => before.form == after.form && before.text == after.text) =
        fun after before => decide (renderKey before = renderKey after) := by
    funext after before
    rw [Bool.eq_iff_iff]
    simp [renderKey]
  simp only [compareRenders, hfits]
  rfl

/-! ### Hooks -/

/-- A new hook that is not reported: one more `useState` where there was one before. -/
def passedOver (base : Model) (hook : HookSite) : Bool :=
  hook.hookType == "useState" && base.hooks.any (·.hookType == "useState")

/-- The record about a new hook. -/
def newHook (hook : HookSite) : Record :=
  if hook.hookType == "useEffect" then
    hookRecord target .effectAdded .medium hook "Effect added via useEffect" none
  else hookRecord target .hookAdded .medium hook s!"React hook added: {hook.name}" none

/-- A hook that took none is reported as new unless it is passed over. -/
theorem hookAdded_eq (hook : HookSite) :
    hookAdded target (base.hooks.any (·.hookType == "useState")) hook =
      if passedOver base hook then [] else [newHook target hook] := by
  rw [hookAdded, passedOver, newHook]
  split
  · rfl
  · split <;> rfl

/-- What kinds of records new hooks give. -/
theorem newHook_kind (hook : HookSite) :
    (newHook target hook).kind ∈ [ChangeKind.hookAdded, .effectAdded] := by
  rw [newHook]
  split <;> simp [hookRecord, Target.report]

/-- What kinds of records lost hooks give. -/
theorem hookRemoved_kind (hook : HookSite) :
    (hookRemoved target hook).kind ∈ [ChangeKind.hookRemoved, .effectRemoved] := by
  simp only [hookRemoved]
  split <;> simp [hookRecord, Target.report]

/-- These are different kinds. -/
theorem hookKinds_disjoint :
    List.Disjoint [ChangeKind.hookAdded, .effectAdded] [.hookRemoved, .effectRemoved] := by
  simp

/-- Hooks that took another one give at most a record about dependencies. -/
theorem hookChanges_kind {before after : HookSite} {record : Record}
    (h : record ∈ hookChanges target before after) : record.kind = .hookDependencyChanged := by
  simp only [hookChanges] at h
  split at h
  · cases h
  · rw [List.mem_singleton.1 h]
    rfl

/-- The comparison of hooks, with equality of keys as what is asked of two hooks. -/
theorem compareHooks_eq :
    compareHooks target base head =
      (claims (fun after before => decide (hookKey before = hookKey after)) head.hooks
          base.hooks).1.flatMap (fun answer =>
        match answer.2 with
        | some before => hookChanges target before answer.1
        | none => if passedOver base answer.1 then [] else [newHook target answer.1]) ++
      (missing hookKey base.hooks head.hooks).map (hookRemoved target) := by
  have hfits : (fun after before : HookSite => hookKey before == hookKey after) =
      fun after before => decide (hookKey before = hookKey after) := by
    funext after before
    rw [Bool.eq_iff_iff]
    simp
  simp only [compareHooks, hfits, ← hookAdded_eq]
  rfl

/-- Of the answers to the hooks, those who took nothing give the additions. -/
theorem recordsOf_answers (answers : List (HookSite × Option HookSite)) :
    recordsOf [.hookAdded, .effectAdded] (answers.flatMap fun answer =>
        match answer.2 with
        | some before => hookChanges target before answer.1
        | none => if passedOver base answer.1 then [] else [newHook target answer.1]) =
      ((unclaimed answers).filter (!passedOver base ·)).map (newHook target) := by
  induction answers with
  | nil => rfl
  | cons answer answers ih =>
    obtain ⟨hook, before?⟩ := answer
    rw [List.flatMap_cons, recordsOf_append, ih]
    -- Only a hook that took none can be new, and one that took another gives records of another
    -- kind.
    cases before? with
    | some before =>
      rw [recordsOf_eq_nil fun record hmem => by simp [hookChanges_kind target hmem]]
      rfl
    | none =>
      show recordsOf _ (if passedOver base hook then [] else [newHook target hook]) ++ _ =
        ((hook :: unclaimed answers).filter (!passedOver base ·)).map (newHook target)
      rw [List.filter_cons]
      cases passedOver base hook with
      | true => rfl
      | false =>
        have hkind := newHook_kind target hook
        rw [if_neg Bool.false_ne_true, recordsOf_eq_self fun record hmem => by
          rw [List.mem_singleton.1 hmem]; exact hkind]
        rfl

/-- New hooks are those beyond the base version that are not passed over, and lost hooks are those
missing. -/
theorem recordsOf_compareHooks :
    recordsOf [.hookAdded, .effectAdded] (compareHooks target base head) =
        ((beyond hookKey base.hooks head.hooks).filter (!passedOver base ·)).map
          (newHook target) ∧
      recordsOf [.hookRemoved, .effectRemoved] (compareHooks target base head) =
        (missing hookKey base.hooks head.hooks).map (hookRemoved target) := by
  rw [compareHooks_eq, recordsOf_append, recordsOf_append, recordsOf_answers]
  -- Of the two parts of the comparison, each gives records of one of the two sorts only.
  constructor
  · rw [recordsOf_eq_nil, List.append_nil]
    · rfl
    · intro record hmem hlisted
      obtain ⟨hook, -, rfl⟩ := List.mem_map.1 hmem
      exact hookKinds_disjoint hlisted (hookRemoved_kind target hook)
  · rw [recordsOf_eq_nil, List.nil_append, recordsOf_eq_self]
    · intro record hmem
      obtain ⟨hook, -, rfl⟩ := List.mem_map.1 hmem
      exact hookRemoved_kind target hook
    · intro record hmem
      obtain ⟨⟨hook, before?⟩, -, hrecord⟩ := List.mem_flatMap.1 hmem
      cases before? with
      | some before => simp [hookChanges_kind target hrecord]
      | none =>
        simp only at hrecord
        split at hrecord
        · cases hrecord
        · rw [List.mem_singleton.1 hrecord]
          exact hookKinds_disjoint (newHook_kind target hook)

/-! ### Markup -/

/-- All three pairings of elements: by what is shown, by tag, and components by their shape. -/
def pairElements (before after : List ElementSite) : Pairing ElementSite :=
  let exact := pairBy (fun site : ElementSite => (site.tag, renderedProps site, site.hasChildren))
    before after
  let byTag := pairBy ElementSite.tag exact.base exact.head
  let swapped := pairFirst
    (fun b h => b.isComponent && h.isComponent && shapeOf b == shapeOf h) byTag.base byTag.head
  ⟨exact.pairs ++ byTag.pairs ++ swapped.pairs, swapped.base, swapped.head⟩

/-- Three pairings in turn lose no element. -/
theorem pairElements_partitions (before after : List ElementSite) :
    (pairElements before after).Partitions before after :=
  ((pairBy_partitions _ before after).trans (pairBy_partitions _ _ _)).trans
    (pairFirst_partitions _ _ _)

/-- The record about a new element. -/
def elementAdded (site : ElementSite) : Record :=
  elementRecord target .jsxElementAdded .low site s!"JSX element added: <{site.tag}>" none

/-- The record about an element that is gone. -/
def elementRemoved (site : ElementSite) : Record :=
  elementRecord target .jsxElementRemoved .low site s!"JSX element removed: <{site.tag}>" none

/-- What kinds of records paired elements give. -/
theorem elementChanges_kind {before after : ElementSite} {record : Record}
    (h : record ∈ elementChanges target before after) :
    record.kind = .jsxPropsChanged ∨ record.kind = .componentStructureChanged := by
  rw [elementChanges, List.mem_append] at h
  rcases h with h | h
  · split at h
    · cases h
    · rw [List.mem_singleton.1 h]
      exact Or.inl rfl
  · split at h
    · rw [List.mem_singleton.1 h]
      exact Or.inr rfl
    · cases h

/-- What a comparison of elements consists of: records of other kinds first, then the leftovers. -/
theorem exists_compareElements_eq :
    ∃ others, (∀ record ∈ others, record.kind ∈
        [ChangeKind.jsxPropsChanged, .componentStructureChanged, .componentReferenceChanged]) ∧
      compareElements target base head =
        others ++ (pairElements base.elements head.elements).base.map (elementRemoved target) ++
          (pairElements base.elements head.elements).head.map (elementAdded target) := by
  refine ⟨_, fun record hmem => ?_, rfl⟩
  rcases List.mem_append.1 hmem with hmem | hmem
  · obtain ⟨pair, -, hrecord⟩ := List.mem_flatMap.1 hmem
    rcases elementChanges_kind target hrecord with hkind | hkind <;> simp [hkind]
  · obtain ⟨pair, -, rfl⟩ := List.mem_map.1 hmem
    simp [elementRecord, Target.report]

/-- Elements are reported as added and removed for what the three pairings leave over, and nothing
about elements is a matter of logic. -/
theorem recordsOf_compareElements :
    recordsOf [.jsxElementAdded] (compareElements target base head) =
        (pairElements base.elements head.elements).head.map (elementAdded target) ∧
      recordsOf [.jsxElementRemoved] (compareElements target base head) =
        (pairElements base.elements head.elements).base.map (elementRemoved target) ∧
      recordsOf [.jsxLogicAdded] (compareElements target base head) = [] := by
  obtain ⟨others, hothers, heq⟩ := exists_compareElements_eq target base head
  -- The records about elements in both versions are of three other kinds.
  have hkinds (kind : ChangeKind) (hkind : kind ∉
      [ChangeKind.jsxPropsChanged, .componentStructureChanged, .componentReferenceChanged]) :
      recordsOf [kind] others = [] := by
    refine recordsOf_eq_nil fun record hmem hlisted => hkind ?_
    rw [← List.mem_singleton.1 hlisted]
    exact hothers record hmem
  have hadded := recordsOf_map (fun site => show (elementAdded target site).kind = _ from rfl)
  have hremoved := recordsOf_map (fun site => show (elementRemoved target site).kind = _ from rfl)
  simp only [heq, recordsOf_append, hadded, hremoved]
  refine ⟨?_, ?_, ?_⟩
  · rw [hkinds _ (by decide), if_neg (by decide), if_pos (by decide)]
    rfl
  · rw [hkinds _ (by decide), if_pos (by decide), if_neg (by decide), List.append_nil]
    rfl
  · rw [hkinds _ (by decide), if_neg (by decide), if_neg (by decide)]
    rfl

/-- As many more elements are reported as added as there are more of them. -/
theorem compareElements_balance :
    ((recordsOf [.jsxElementAdded] (compareElements target base head)).length : Int) -
        (recordsOf [.jsxElementRemoved] (compareElements target base head)).length =
      (head.elements.length : Int) - base.elements.length := by
  obtain ⟨hadded, hremoved, -⟩ := recordsOf_compareElements target base head
  have hbalance := (pairElements_partitions base.elements head.elements).length_balance
  rw [hadded, hremoved, List.length_map, List.length_map]
  omega

/-- Event handlers give records of one kind. -/
theorem compareHandlers_kind {record : Record} (h : record ∈ compareHandlers target base head) :
    record.kind = .eventHandlerChanged := by
  simp only [compareHandlers, List.mem_append, List.mem_map] at h
  rcases h with (⟨_, -, rfl⟩ | ⟨_, -, rfl⟩) | ⟨_, -, rfl⟩ <;> rfl

/-- The switches for markup decide which of the parts of its comparison are reported. -/
theorem recordsOf_compareMarkup :
    (∀ kind, kind ∈ [ChangeKind.jsxElementAdded, .jsxElementRemoved] →
      recordsOf [kind] (compareMarkup target base head) =
        if target.config.markup.enabled.isOn then
          recordsOf [kind] (compareElements target base head)
        else []) ∧
    recordsOf [.jsxLogicAdded] (compareMarkup target base head) =
      if target.config.markup.enabled.isOn && !target.config.markup.ignoreLogicChanges.isOn then
        compareRenders target base head
      else [] := by
  -- Handlers and renders give records of one kind each, so they take no part in the other counts.
  have hhandlers (kind : ChangeKind) (hkind : kind ≠ .eventHandlerChanged) :
      recordsOf [kind] (compareHandlers target base head) = [] :=
    recordsOf_eq_nil fun record hmem hlisted => hkind
      ((List.mem_singleton.1 hlisted).symm.trans (compareHandlers_kind target base head hmem))
  have hrenders : ∀ record ∈ compareRenders target base head, record.kind = .jsxLogicAdded := by
    intro record hmem
    rw [compareRenders_eq] at hmem
    obtain ⟨site, -, rfl⟩ := List.mem_map.1 hmem
    rfl
  rw [compareMarkup]
  cases target.config.markup.enabled.isOn with
  | false => exact ⟨fun _ _ => rfl, rfl⟩
  | true =>
    cases target.config.markup.ignoreLogicChanges.isOn with
    | true => exact ⟨fun _ _ => rfl, (recordsOf_compareElements target base head).2.2⟩
    | false =>
      simp only [Bool.not_true, Bool.false_eq_true, if_false, if_true, Bool.not_false,
        Bool.and_self, recordsOf_append]
      -- Elements give the records of the two first kinds, renders those of the last one.
      constructor
      · intro kind hkind
        have hother : kind ≠ .eventHandlerChanged ∧ kind ≠ .jsxLogicAdded := by
          simp only [List.mem_cons, List.not_mem_nil, or_false] at hkind
          rcases hkind with rfl | rfl <;> decide
        rw [hhandlers kind hother.1, List.append_nil, recordsOf_eq_nil fun record hmem hlisted =>
          hother.2 ((List.mem_singleton.1 hlisted).symm.trans (hrenders record hmem)),
          List.append_nil]
      · rw [(recordsOf_compareElements target base head).2.2, hhandlers _ (by decide),
          recordsOf_eq_self fun record hmem => List.mem_singleton.2 (hrenders record hmem),
          List.nil_append, List.append_nil]

/-! ### All accounts -/

/-- Mutations, spreads, destructuring declarations, conditional rendering and hooks are reported by
multiplicity: of each key one record for each site by which one version exceeds the other one. Only
one more `useState` where there was one before is passed over. Markup elements are reported such
that additions less removals are what the number of elements grew by, when markup is reported at
all. -/
theorem reported_by_multiplicity :
    (∃ added, IsExcess (fun site : ArrayMutationSite => site.target ++ "." ++ site.method)
        head.arrayMutations base.arrayMutations added ∧
      compareArrayMutations target base head = added.map (arrayMutationAdded target)) ∧
    (∃ added, IsExcess (fun site : ObjectMutationSite => (site.target, site.operator))
        head.objectMutations base.objectMutations added ∧
      compareObjectMutations target base head = added.map (objectMutationAdded target)) ∧
    (let key := fun site : SpreadSite =>
        (if site.kind = .object then "object" else "array") ++ ":" ++ site.text
      ∃ added removed, IsExcess key head.spreads base.spreads added ∧
        IsExcess key base.spreads head.spreads removed ∧
        compareSpreads target base head =
          added.map (spreadAdded target) ++ removed.map (spreadRemoved target)) ∧
    (let key := fun site : DestructuringSite =>
        (site.kind, site.pattern ++ "::" ++ site.initializer)
      ∃ added removed, IsExcess key head.destructurings base.destructurings added ∧
        IsExcess key base.destructurings head.destructurings removed ∧
        compareDestructurings target base head =
          added.map (destructuringAdded target) ++ removed.map (destructuringRemoved target)) ∧
    (∃ added, IsExcess (fun site : RenderSite => (site.form, site.text))
        head.renders base.renders added ∧
      compareRenders target base head = added.map (renderAdded target) ∧
      recordsOf [.jsxLogicAdded] (compareMarkup target base head) =
        if target.config.markup.enabled.isOn && !target.config.markup.ignoreLogicChanges.isOn then
          added.map (renderAdded target)
        else []) ∧
    (let key := fun hook : HookSite => hook.hookType ++ ":" ++ hook.name
      ∃ added removed, IsExcess key head.hooks base.hooks added ∧
        IsExcess key base.hooks head.hooks removed ∧
        recordsOf [.hookAdded, .effectAdded] (compareHooks target base head) =
          (added.filter (!passedOver base ·)).map (newHook target) ∧
        recordsOf [.hookRemoved, .effectRemoved] (compareHooks target base head) =
          removed.map (hookRemoved target)) ∧
    ((recordsOf [.jsxElementAdded] (compareElements target base head)).length : Int) -
        (recordsOf [.jsxElementRemoved] (compareElements target base head)).length =
      (head.elements.length : Int) - base.elements.length ∧
    ((recordsOf [.jsxElementAdded] (compareMarkup target base head)).length : Int) -
        (recordsOf [.jsxElementRemoved] (compareMarkup target base head)).length =
      if target.config.markup.enabled.isOn then (head.elements.length : Int) - base.elements.length
      else 0 := by
  obtain ⟨hmarkup, hrenders⟩ := recordsOf_compareMarkup target base head
  obtain ⟨hadded, hremoved⟩ := recordsOf_compareHooks target base head
  rw [← spreadKey_eq]
  -- Each analyzer lists the sites beyond the other version, so all that is left is that these are
  -- an excess.
  refine ⟨⟨_, beyond_isExcess ArrayMutationSite.key _ _, compareArrayMutations_eq target base head⟩,
    ⟨_, beyond_isExcess objectMutationKey _ _, compareObjectMutations_eq target base head⟩,
    ⟨_, _, beyond_isExcess SpreadSite.key _ _, missing_isExcess SpreadSite.key _ _,
      compareSpreads_eq target base head⟩,
    ⟨_, _, beyond_isExcess destructuringKey _ _, missing_isExcess destructuringKey _ _,
      compareDestructurings_eq target base head⟩,
    ⟨_, beyond_isExcess renderKey _ _, compareRenders_eq target base head, ?_⟩,
    ⟨_, _, beyond_isExcess hookKey _ _, missing_isExcess hookKey _ _, hadded, hremoved⟩,
    compareElements_balance target base head, ?_⟩
  · rw [hrenders, compareRenders_eq]
  · -- The switch turns both counts off together.
    rw [hmarkup _ (by decide), hmarkup _ (by decide)]
    cases target.config.markup.enabled.isOn with
    | true => exact compareElements_balance target base head
    | false => rfl

end Analyzer

end ChangeLens
