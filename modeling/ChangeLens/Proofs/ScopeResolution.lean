import ChangeLens.Dependencies
import Mathlib.Data.List.Basic

/-!
# `ChangeLens.Proofs.ScopeResolution`: names are resolved in the innermost scope that declares them

Two walks decide what a name refers to: `Source.scopeChain` goes up from the reference,
`Source.enclosingScope?` goes up from each declarator. Both meet first the same scope above a node
(`Source.head?_scopeChain`), and a scope on one walk is found on the other by its place and kind.

* `Source.DeclaredIn` says, without running the search, that a declarator binds a name directly in a
  scope; `Source.Decides` that a scope is the first of the chain in which there is one; and
  `Source.Counts` that a declarator is the one of its scope that counts at a reference: the last one
  that does not start after it, else the first one.
* `Source.kept?` is the search through the declarators of one scope in general; the latest before the
  reference and the earliest are two cases of it.
* `Source.nearestDeclaration?_eq_some`: what the search finds counts in the scope that decides.
* `Source.Counts.eq`: only one declarator counts, so the search finds it.
* `Source.nearestDeclaration?_congr`: two sources in which the deciding scopes hold the same
  declarators resolve the name alike, whatever other declarators they hold.

`Source.nearestDeclaration?_lexical` puts these together.
-/

set_option autoImplicit false

namespace ChangeLens.Source

/-! ### Declarators of a scope -/

/-- The declarator binds `name` as a plain identifier, and the nearest scope around it has the place
and kind of `scope`. -/
structure DeclaredIn (source : Source) (name : String) (scope : Tree) (declarator : Cursor) :
    Prop where
  inTree : declarator ∈ source.cursors
  isDeclarator : declarator.kind = "variable_declarator"
  binds : ∃ identifier, declarator.node.field? "name" = some identifier ∧
    identifier.kind = "identifier" ∧ source.textOf identifier = name
  directly : ∃ holder, source.enclosingScope? declarator = some holder ∧ holder.same scope = true

/-- The declarators of `name` that `scope` holds directly, in pre-order. -/
def declaratorsIn (source : Source) (name : String) (scope : Tree) : List Cursor :=
  source.ownedBy scope (source.declarators name)

/-- A node declares a name exactly if it is a declarator whose name is this plain identifier. -/
theorem declaredName?_eq_some {source : Source} {node : Tree} {name : String} :
    source.declaredName? node = some name ↔
      node.kind = "variable_declarator" ∧ ∃ identifier, node.field? "name" = some identifier ∧
        identifier.kind = "identifier" ∧ source.textOf identifier = name := by
  unfold declaredName?
  split
  · rename_i hkind
    cases node.field? "name" with
    | none => simp
    | some identifier => simp [eq_of_beq hkind]
  · rename_i hkind
    simp_all

/-- The search collects the declarators that a scope holds directly. -/
theorem mem_declaratorsIn {source : Source} {name : String} {scope : Tree} {declarator : Cursor} :
    declarator ∈ source.declaratorsIn name scope ↔ source.DeclaredIn name scope declarator := by
  have hmem : declarator ∈ source.declaratorsIn name scope ↔
      (declarator ∈ source.cursors ∧ source.declaredName? declarator.node = some name) ∧
        ∃ holder, source.enclosingScope? declarator = some holder ∧ holder.same scope = true := by
    simp only [declaratorsIn, ownedBy, declarators, List.mem_filter, Option.any_eq_true, beq_iff_eq]
  rw [hmem, declaredName?_eq_some]
  constructor
  · rintro ⟨⟨htree, hkind, hbinds⟩, hdirectly⟩
    exact ⟨htree, hkind, hbinds, hdirectly⟩
  · rintro ⟨htree, hkind, hbinds, hdirectly⟩
    exact ⟨⟨htree, hkind, hbinds⟩, hdirectly⟩

/-- It collects none exactly if the scope holds none. -/
theorem declaratorsIn_eq_nil {source : Source} {name : String} {scope : Tree} :
    source.declaratorsIn name scope = [] ↔ ∀ declarator, ¬ source.DeclaredIn name scope declarator := by
  simp [List.eq_nil_iff_forall_not_mem, mem_declaratorsIn]

/-! ### The one that counts -/

/-- What a search keeps that goes through cursors from the back: one that fits takes the place of the
one kept so far if it precedes it. Whether it does is asked of the nodes alone. -/
def kept? (fits : Tree → Bool) (precedes : Tree → Tree → Bool) : List Cursor → Option Cursor
  | [] => none
  | cursor :: rest =>
    match kept? fits precedes rest with
    | none => if fits cursor.node then some cursor else none
    | some best =>
      if fits cursor.node && precedes cursor.node best.node then some cursor else some best

section Kept

variable {fits : Tree → Bool} {precedes : Tree → Tree → Bool}

/-- Nothing is kept exactly if nothing fits. -/
theorem kept?_eq_none {cursors : List Cursor} :
    kept? fits precedes cursors = none ↔ ∀ cursor ∈ cursors, fits cursor.node = false := by
  induction cursors with
  | nil => simp [kept?]
  | cons cursor rest ih =>
    rw [kept?, List.forall_mem_cons, ← ih]
    cases kept? fits precedes rest with
    | none => simp
    | some best =>
      -- Once a cursor behind it is kept, the answer is some cursor.
      dsimp only
      split <;> simp

/-- Among those that fit, what is kept comes before all that stand in front of it in the list, and is
not preceded by those that stand behind it. -/
theorem kept?_eq_some (htotal : ∀ a b, precedes a b = false → precedes b a = true)
    (htrans : ∀ a b c, precedes a b = true → precedes b c = true → precedes a c = true)
    {cursors : List Cursor} {found : Cursor} (h : kept? fits precedes cursors = some found) :
    fits found.node = true ∧ ∃ before after, cursors = before ++ found :: after ∧
      (∀ cursor ∈ before, fits cursor.node = true → precedes cursor.node found.node = false) ∧
      ∀ cursor ∈ after, fits cursor.node = true → precedes found.node cursor.node = true := by
  -- The search decides about a cursor when all behind it are decided, so the induction is on the list
  -- and splits the rest where the one kept so far stands.
  induction cursors generalizing found with
  | nil => cases h
  | cons cursor rest ih =>
    rw [kept?] at h
    split at h
    · rename_i hnone
      have hrest := kept?_eq_none.1 hnone
      split at h
      · cases h
        refine ⟨by assumption, [], rest, rfl, by simp, fun other hother hfits => ?_⟩
        rw [hrest other hother] at hfits
        cases hfits
      · cases h
    · rename_i best hbest
      obtain ⟨hfits, before, after, rfl, hbefore, hafter⟩ := ih hbest
      split at h
      · -- The first cursor takes the place of the best one behind it, and precedes what that precedes.
        rename_i hfirst
        rw [Bool.and_eq_true] at hfirst
        cases h
        refine ⟨hfirst.1, [], before ++ best :: after, rfl, by simp, fun other hother hother' => ?_⟩
        rcases List.mem_append.1 hother with hother | hother
        · exact htrans _ _ _ hfirst.2 (htotal _ _ (hbefore other hother hother'))
        · rcases List.mem_cons.1 hother with rfl | hother
          · exact hfirst.2
          · exact htrans _ _ _ hfirst.2 (hafter other hother hother')
      · -- The first cursor does not fit, or it does not precede the best one behind it.
        rename_i hfirst
        cases h
        refine ⟨hfits, cursor :: before, after, rfl, ?_, hafter⟩
        rw [List.forall_mem_cons]
        exact ⟨fun hcursor => by simpa [hcursor] using hfirst, hbefore⟩

/-- What is kept depends on the nodes only. -/
theorem kept?_congr {cursors others : List Cursor}
    (h : cursors.map Cursor.node = others.map Cursor.node) :
    (kept? fits precedes cursors).map Cursor.node = (kept? fits precedes others).map Cursor.node := by
  induction cursors generalizing others with
  | nil =>
    cases List.map_eq_nil_iff.1 h.symm
    rfl
  | cons cursor rest ih =>
    obtain ⟨other, more, rfl, hnode, hmore⟩ := List.map_eq_cons_iff.1 h.symm
    have hrest := ih hmore.symm
    rw [kept?, kept?, hnode]
    -- Both searches keep something behind the first cursor or neither does.
    cases hfound : kept? fits precedes rest <;> cases hfound' : kept? fits precedes more <;>
      rw [hfound, hfound'] at hrest
    · dsimp only
      split <;> simp [hnode]
    · cases hrest
    · cases hrest
    · rw [Option.map_some, Option.map_some, Option.some.injEq] at hrest
      dsimp only
      rw [hrest]
      split <;> simp [hnode, hrest]

end Kept

/-- The latest cursor is what is kept of those that start in time when later ones take the place. -/
theorem latestBefore?_eq_kept? (limit : Nat) (cursors : List Cursor) :
    latestBefore? limit cursors =
      kept? (fun node => decide (node.label.start ≤ limit))
        (fun node best => decide (best.label.start ≤ node.label.start)) cursors := by
  induction cursors with
  | nil => rfl
  | cons cursor rest ih =>
    rw [latestBefore?, kept?, ih]
    cases kept? _ _ rest with
    | none => simp only [decide_eq_true_eq]
    | some best => rfl

/-- The earliest cursor is what is kept of all of them when earlier ones take the place. -/
theorem earliest?_eq_kept? (cursors : List Cursor) :
    earliest? cursors =
      kept? (fun _ => true) (fun node best => decide (node.label.start ≤ best.label.start))
        cursors := by
  induction cursors with
  | nil => rfl
  | cons cursor rest ih =>
    rw [earliest?, kept?, ih]
    cases kept? _ _ rest with
    | none => rfl
    | some best => simp only [Bool.true_and, decide_eq_true_eq]

/-- No cursor is early enough exactly if all start behind the limit. -/
theorem latestBefore?_eq_none {limit : Nat} {cursors : List Cursor} :
    latestBefore? limit cursors = none ↔ ∀ cursor ∈ cursors, limit < cursor.node.label.start := by
  rw [latestBefore?_eq_kept?, kept?_eq_none]
  simp only [decide_eq_false_iff_not, Nat.not_le]

/-- What is found is no later than the limit, starts behind all that stand before it in the list, and
not before those that stand behind it. -/
theorem latestBefore?_eq_some {limit : Nat} {cursors : List Cursor} {found : Cursor}
    (h : latestBefore? limit cursors = some found) :
    found.node.label.start ≤ limit ∧ ∃ before after, cursors = before ++ found :: after ∧
      (∀ cursor ∈ before, cursor.node.label.start ≤ limit →
        cursor.node.label.start < found.node.label.start) ∧
      ∀ cursor ∈ after, cursor.node.label.start ≤ limit →
        cursor.node.label.start ≤ found.node.label.start := by
  rw [latestBefore?_eq_kept?] at h
  have hkept := kept?_eq_some
    (fun a b => by simp only [decide_eq_true_eq, decide_eq_false_iff_not]; omega)
    (fun a b c => by simp only [decide_eq_true_eq]; omega) h
  simpa only [decide_eq_true_eq, decide_eq_false_iff_not, Nat.not_le] using hkept

/-- What is found starts before all that stand before it in the list, and not behind those that
stand behind it. -/
theorem earliest?_eq_some {cursors : List Cursor} {found : Cursor}
    (h : earliest? cursors = some found) :
    ∃ before after, cursors = before ++ found :: after ∧
      (∀ cursor ∈ before, found.node.label.start < cursor.node.label.start) ∧
      ∀ cursor ∈ after, found.node.label.start ≤ cursor.node.label.start := by
  rw [earliest?_eq_kept?] at h
  have hkept := kept?_eq_some
    (fun a b => by simp only [decide_eq_true_eq, decide_eq_false_iff_not]; omega)
    (fun a b c => by simp only [decide_eq_true_eq]; omega) h
  simpa only [decide_eq_true_eq, decide_eq_false_iff_not, Nat.not_le, forall_const, true_and]
    using hkept

/-- There is an earliest one of any cursors. -/
theorem earliest?_eq_none {cursors : List Cursor} : earliest? cursors = none ↔ cursors = [] := by
  rw [earliest?_eq_kept?, kept?_eq_none, List.eq_nil_iff_forall_not_mem]
  simp only [Bool.true_eq_false, imp_false]

/-- A scope has a preferred declarator exactly if it has one at all. -/
theorem preferred?_eq_none {reference : Tree} {owned : List Cursor} :
    preferred? reference owned = none ↔ owned = [] := by
  rw [preferred?, Option.or_eq_none_iff, earliest?_eq_none]
  constructor
  · exact And.right
  · rintro rfl
    exact ⟨rfl, rfl⟩

/-- The preferred declarator is one of those it is chosen from. -/
theorem mem_of_preferred? {reference : Tree} {owned : List Cursor} {found : Cursor}
    (h : preferred? reference owned = some found) : found ∈ owned := by
  rw [preferred?, Option.or_eq_some_iff] at h
  rcases h with h | ⟨-, h⟩
  · obtain ⟨-, before, after, rfl, -⟩ := latestBefore?_eq_some h
    exact List.mem_append_right _ List.mem_cons_self
  · obtain ⟨before, after, rfl, -⟩ := earliest?_eq_some h
    exact List.mem_append_right _ List.mem_cons_self

/-- Among the declarators of `name` that `scope` holds directly, `declarator` is the one that counts
at `reference`. -/
structure Counts (source : Source) (name : String) (scope reference : Tree) (declarator : Cursor) :
    Prop where
  declared : source.DeclaredIn name scope declarator
  /-- If there are declarators that do not start after the reference, it is the last of these. -/
  latest : ∀ other, source.DeclaredIn name scope other →
    other.node.label.start ≤ reference.label.start →
      declarator.node.label.start ≤ reference.label.start ∧
        other.node.label.start ≤ declarator.node.label.start
  /-- Otherwise it is the first of all. -/
  earliest : (∀ other, source.DeclaredIn name scope other →
    reference.label.start < other.node.label.start) →
      ∀ other, source.DeclaredIn name scope other →
        declarator.node.label.start ≤ other.node.label.start
  /-- Of several that start at one place it is the first in pre-order. -/
  first : ∃ before after, source.cursors = before ++ declarator :: after ∧
    ∀ other ∈ before, source.DeclaredIn name scope other →
      other.node.label.start ≠ declarator.node.label.start

/-- What stands before a declarator of a scope among those of the scope stands before it in the
whole tree, too. -/
theorem exists_cursors_eq {source : Source} {name : String} {scope : Tree}
    {before after : List Cursor} {declarator : Cursor}
    (h : source.declaratorsIn name scope = before ++ declarator :: after) :
    ∃ before' after', source.cursors = before' ++ declarator :: after' ∧
      ∀ other ∈ before', source.DeclaredIn name scope other → other ∈ before := by
  rw [declaratorsIn, ownedBy, declarators, List.filter_filter, List.filter_eq_append_iff] at h
  obtain ⟨front, back, hcursors, hfront, hback⟩ := h
  obtain ⟨skipped, after', rfl, hskipped, hdeclarator, -⟩ := List.filter_eq_cons_iff.1 hback
  refine ⟨front ++ skipped, after', by rw [hcursors, List.append_assoc], fun other hother hin => ?_⟩
  have hkept := mem_declaratorsIn.2 hin
  rw [declaratorsIn, ownedBy, declarators, List.filter_filter, List.mem_filter] at hkept
  rcases List.mem_append.1 hother with hother | hother
  · rw [← hfront]
    exact List.mem_filter.2 ⟨hother, hkept.2⟩
  · exact absurd hkept.2 (hskipped other hother)

/-- The preferred declarator of a scope is the one that counts at the reference. -/
theorem preferred?_counts {source : Source} {name : String} {scope reference : Tree}
    {found : Cursor} (h : preferred? reference (source.declaratorsIn name scope) = some found) :
    source.Counts name scope reference found := by
  rw [preferred?, Option.or_eq_some_iff] at h
  rcases h with h | ⟨hnone, h⟩
  · -- Some declarator does not start after the reference.
    obtain ⟨hlimit, before, after, howned, hbefore, hafter⟩ := latestBefore?_eq_some h
    have hfound : source.DeclaredIn name scope found := mem_declaratorsIn.1 (by simp [howned])
    obtain ⟨before', after', hcursors, hstand⟩ := exists_cursors_eq howned
    refine ⟨hfound, fun other hother hle => ⟨hlimit, ?_⟩, fun hall => ?_, before', after', hcursors, ?_⟩
    · have hmem := mem_declaratorsIn.2 hother
      rw [howned, List.mem_append, List.mem_cons] at hmem
      rcases hmem with hmem | rfl | hmem
      · exact Nat.le_of_lt (hbefore other hmem hle)
      · exact Nat.le_refl _
      · exact hafter other hmem hle
    · have := hall found hfound
      omega
    · intro other hother hin hsame
      have := hbefore other (hstand other hother hin) (by omega)
      omega
  · -- All declarators start after the reference.
    obtain ⟨before, after, howned, hbefore, hafter⟩ := earliest?_eq_some h
    have hfound : source.DeclaredIn name scope found := mem_declaratorsIn.1 (by simp [howned])
    obtain ⟨before', after', hcursors, hstand⟩ := exists_cursors_eq howned
    refine ⟨hfound, fun other hother hle => ?_, fun _ other hother => ?_, before', after', hcursors, ?_⟩
    · have := latestBefore?_eq_none.1 hnone other (mem_declaratorsIn.2 hother)
      omega
    · have hmem := mem_declaratorsIn.2 hother
      rw [howned, List.mem_append, List.mem_cons] at hmem
      rcases hmem with hmem | rfl | hmem
      · exact Nat.le_of_lt (hbefore other hmem)
      · exact Nat.le_refl _
      · exact hafter other hmem
    · intro other hother hin hsame
      have := hbefore other (hstand other hother hin)
      omega

/-- Two declarators that count start at the same place. -/
theorem Counts.start_eq {source : Source} {name : String} {scope reference : Tree}
    {first second : Cursor} (hfirst : source.Counts name scope reference first)
    (hsecond : source.Counts name scope reference second) :
    first.node.label.start = second.node.label.start := by
  -- If something starts before the reference both are the latest of it, otherwise both are the
  -- earliest of all.
  by_cases hsome : ∃ other, source.DeclaredIn name scope other ∧
      other.node.label.start ≤ reference.label.start
  · obtain ⟨other, hother, hle⟩ := hsome
    have hle₁ := (hfirst.latest other hother hle).1
    have hle₂ := (hsecond.latest other hother hle).1
    exact Nat.le_antisymm (hsecond.latest first hfirst.declared hle₁).2
      (hfirst.latest second hsecond.declared hle₂).2
  · have hall (other : Cursor) (hother : source.DeclaredIn name scope other) :
        reference.label.start < other.node.label.start :=
      Nat.not_le.1 fun hle => hsome ⟨other, hother, hle⟩
    exact Nat.le_antisymm (hfirst.earliest hall second hsecond.declared)
      (hsecond.earliest hall first hfirst.declared)

/-- At most one declarator of a scope counts. -/
theorem Counts.eq {source : Source} {name : String} {scope reference : Tree}
    {first second : Cursor} (hfirst : source.Counts name scope reference first)
    (hsecond : source.Counts name scope reference second) : first = second := by
  have hstart := hfirst.start_eq hsecond
  obtain ⟨before₁, after₁, hcursors₁, hbefore₁⟩ := hfirst.first
  obtain ⟨before₂, after₂, hcursors₂, hbefore₂⟩ := hsecond.first
  -- Neither stands before the other in pre-order, because both start at the same place.
  rcases List.append_eq_append_iff.1 (hcursors₁.symm.trans hcursors₂) with
    ⟨between, hbetween, hrest⟩ | ⟨between, hbetween, hrest⟩
  · cases between with
    | nil => exact (List.cons.inj hrest).1
    | cons cursor between =>
      obtain ⟨rfl, -⟩ := List.cons.inj hrest
      exact absurd hstart (hbefore₂ first (by simp [hbetween]) hfirst.declared)
  · cases between with
    | nil => exact (List.cons.inj hrest).1.symm
    | cons cursor between =>
      obtain ⟨rfl, -⟩ := List.cons.inj hrest
      exact absurd hstart.symm (hbefore₁ second (by simp [hbetween]) hsecond.declared)

/-! ### The scope that decides -/

/-- `scope` is the first of the scopes around the reference that directly holds a declarator of
`name`. -/
structure Decides (source : Source) (name : String) (reference : Cursor) (scope : Tree) : Prop where
  innermost : ∃ inner outer, source.scopeChain reference = inner ++ scope :: outer ∧
    ∀ closer ∈ inner, ∀ declarator, ¬ source.DeclaredIn name closer declarator
  holds : ∃ declarator, source.DeclaredIn name scope declarator

/-- The walk up from a node meets first the scope that encloses the node. -/
theorem head?_scopeChain (source : Source) (cursor : Cursor) :
    (source.scopeChain cursor).head? = source.enclosingScope? cursor := by
  unfold scopeChain enclosingScope?
  rw [← List.head?_filter]
  cases hchain : cursor.ancestors.filter (isScopeKind ·.kind) with
  | nil => cases source.tree <;> rfl
  | cons scope outer =>
    dsimp only
    split <;> simp

/-- The scopes on the walk are ancestors of the node; only the root may be added to them. -/
theorem mem_scopeChain {source : Source} {cursor : Cursor} {scope : Tree}
    (h : scope ∈ source.scopeChain cursor) :
    scope ∈ cursor.ancestors ∧ isScopeKind scope.kind = true ∨ source.tree = some scope := by
  unfold scopeChain at h
  dsimp only at h
  split at h
  · exact Or.inl (List.mem_filter.1 h)
  · rcases List.mem_append.1 h with h | h
    · exact Or.inl (List.mem_filter.1 h)
    · exact Or.inr (by simpa using h)

/-- Nothing is found exactly if no scope around the reference holds a declarator. -/
theorem nearestDeclaration?_eq_none {source : Source} {name : String} {reference : Cursor} :
    source.nearestDeclaration? name reference = none ↔
      ∀ scope ∈ source.scopeChain reference, ∀ declarator,
        ¬ source.DeclaredIn name scope declarator := by
  rw [nearestDeclaration?, List.findSome?_eq_none_iff]
  refine forall_congr' fun scope => imp_congr_right fun _ => ?_
  rw [← declaratorsIn_eq_nil]
  exact preferred?_eq_none

/-- Only the declarators of the scope that decides are compared. -/
theorem Decides.nearestDeclaration?_eq {source : Source} {name : String} {reference : Cursor}
    {scope : Tree} (h : source.Decides name reference scope) :
    source.nearestDeclaration? name reference =
      preferred? reference.node (source.declaratorsIn name scope) := by
  obtain ⟨inner, outer, hchain, hinner⟩ := h.innermost
  obtain ⟨declarator, hdeclarator⟩ := h.holds
  have hskip : inner.findSome? (fun closer =>
      preferred? reference.node (source.ownedBy closer (source.declarators name))) = none := by
    rw [List.findSome?_eq_none_iff]
    exact fun closer hcloser => preferred?_eq_none.2 (declaratorsIn_eq_nil.2 (hinner closer hcloser))
  have hfound : (preferred? reference.node (source.declaratorsIn name scope)).isSome = true := by
    rw [Option.isSome_iff_ne_none, Ne, preferred?_eq_none]
    exact List.ne_nil_of_mem (mem_declaratorsIn.2 hdeclarator)
  rw [nearestDeclaration?, hchain, List.findSome?_append, hskip, Option.none_or]
  exact List.findSome?_cons_of_isSome hfound

/-- What the search finds counts in the scope that decides. -/
theorem nearestDeclaration?_eq_some {source : Source} {name : String}
    {reference declarator : Cursor}
    (h : source.nearestDeclaration? name reference = some declarator) :
    ∃ scope, source.Decides name reference scope ∧
      source.Counts name scope reference.node declarator := by
  obtain ⟨inner, scope, outer, hchain, hscope, hinner⟩ := List.findSome?_eq_some_iff.1 h
  have hcounts : source.Counts name scope reference.node declarator := preferred?_counts hscope
  refine ⟨scope, ⟨⟨inner, outer, hchain, fun closer hcloser => ?_⟩, declarator, hcounts.declared⟩,
    hcounts⟩
  exact declaratorsIn_eq_nil.1 (preferred?_eq_none.1 (hinner closer hcloser))

/-- A declarator is found exactly if it counts in the scope that decides. -/
theorem nearestDeclaration?_eq_some_iff {source : Source} {name : String}
    {reference declarator : Cursor} :
    source.nearestDeclaration? name reference = some declarator ↔
      ∃ scope, source.Decides name reference scope ∧
        source.Counts name scope reference.node declarator := by
  refine ⟨nearestDeclaration?_eq_some, ?_⟩
  rintro ⟨scope, hdecides, hcounts⟩
  rw [hdecides.nearestDeclaration?_eq]
  cases hfound : preferred? reference.node (source.declaratorsIn name scope) with
  | none =>
    have hmem := mem_declaratorsIn.2 hcounts.declared
    rw [preferred?_eq_none.1 hfound] at hmem
    cases hmem
  | some found => rw [(preferred?_counts hfound).eq hcounts]

/-! ### What has no influence -/

/-- Where the deciding scopes of two sources hold the same declarators, the name is resolved alike.
Declarators of scopes that do not enclose the reference, and those further out, may differ. -/
theorem nearestDeclaration?_congr {source other : Source} {name : String}
    {reference reference' : Cursor} {scope scope' : Tree}
    (hscope : source.Decides name reference scope) (hscope' : other.Decides name reference' scope')
    (hstart : reference.node.label.start = reference'.node.label.start)
    (hsame : (source.declaratorsIn name scope).map Cursor.node =
      (other.declaratorsIn name scope').map Cursor.node) :
    (source.nearestDeclaration? name reference).map Cursor.node =
      (other.nearestDeclaration? name reference').map Cursor.node := by
  rw [hscope.nearestDeclaration?_eq, hscope'.nearestDeclaration?_eq, preferred?, preferred?,
    Option.map_or, Option.map_or, latestBefore?_eq_kept?, latestBefore?_eq_kept?, earliest?_eq_kept?,
    earliest?_eq_kept?, hstart, kept?_congr hsame, kept?_congr hsame]

/-- A name is resolved by lexical scope. It is unresolved exactly if no scope around the reference
directly holds a declarator of it. Otherwise the innermost scope that holds one decides, and the
declarator found there is the one that counts at the reference. All other declarators are without
influence: a source in which the scope that decides holds the same declarators resolves the name
alike. The scopes around the reference begin with the one that encloses it, and all of them are
ancestors of it or the root. -/
theorem nearestDeclaration?_lexical (source : Source) (name : String) (reference : Cursor) :
    (source.nearestDeclaration? name reference = none ↔
      ∀ scope ∈ source.scopeChain reference, ∀ declarator,
        ¬ source.DeclaredIn name scope declarator) ∧
    (∀ declarator, source.nearestDeclaration? name reference = some declarator ↔
      ∃ scope, source.Decides name reference scope ∧
        source.Counts name scope reference.node declarator) ∧
    (∀ (other : Source) (reference' : Cursor) (scope scope' : Tree),
      source.Decides name reference scope → other.Decides name reference' scope' →
      reference.node.label.start = reference'.node.label.start →
      (source.declaratorsIn name scope).map Cursor.node =
        (other.declaratorsIn name scope').map Cursor.node →
      (source.nearestDeclaration? name reference).map Cursor.node =
        (other.nearestDeclaration? name reference').map Cursor.node) ∧
    (source.scopeChain reference).head? = source.enclosingScope? reference ∧
    ∀ scope ∈ source.scopeChain reference,
      scope ∈ reference.ancestors ∧ isScopeKind scope.kind = true ∨ source.tree = some scope := by
  refine ⟨nearestDeclaration?_eq_none, fun _ => nearestDeclaration?_eq_some_iff, ?_,
    source.head?_scopeChain reference, fun _ => mem_scopeChain⟩
  intro other reference' scope scope' hscope hscope' hstart hsame
  exact nearestDeclaration?_congr hscope hscope' hstart hsame

/-! ### A name used before its declaration -/

/-- The declarator `a=2` in `let a=1;{a;let a=2}`. -/
def innerDeclarator : Tree :=
  .node (.inRow 17 "variable_declarator" "" true 15 18)
    [.node (.inRow 18 "identifier" "name" true 15 16) [], .node (.inRow 19 "=" "" false 16 17) [],
      .node (.inRow 20 "number" "value" true 17 18) []]

/-- The declaration around it. -/
def innerDeclaration : Tree :=
  .node (.inRow 15 "lexical_declaration" "" true 11 18)
    [.node (.inRow 16 "let" "" false 11 14) [], innerDeclarator]

/-- The name between the two declarations. -/
def usedName : Tree :=
  .node (.inRow 13 "identifier" "" true 9 10) []

/-- The statement that uses the name. -/
def usingStatement : Tree :=
  .node (.inRow 12 "expression_statement" "" true 9 11) [usedName, .node (.inRow 14 ";" "" false 10 11) []]

/-- The block around both. -/
def innerBlock : Tree :=
  .node (.inRow 10 "statement_block" "" true 8 19)
    [.node (.inRow 11 "\x7b" "" false 8 9) [], usingStatement, innerDeclaration,
      .node (.inRow 21 "\x7d" "" false 18 19) []]

/-- The whole file. -/
def nestedProgram : Tree :=
  .node (.inRow 0 "program" "" true 0 19)
    [.node (.inRow 1 "lexical_declaration" "" true 0 8)
      [.node (.inRow 2 "let" "" false 0 3) [],
        .node (.inRow 3 "variable_declarator" "" true 4 7)
          [.node (.inRow 4 "identifier" "name" true 4 5) [], .node (.inRow 5 "=" "" false 5 6) [],
            .node (.inRow 6 "number" "value" true 6 7) []],
        .node (.inRow 7 ";" "" false 7 8) []],
      innerBlock]

/-- The file whose outer declaration is one of this name. -/
def nestedSource (outer : String) : Source where
  text := "let " ++ outer ++ "=1;\x7ba;let a=2\x7d"
  tree := some nestedProgram

/-- The use at its place. -/
def usedCursor : Cursor :=
  ⟨usedName, [usingStatement, innerBlock, nestedProgram]⟩

/-- The declarator of the block at its place. -/
def innerCursor : Cursor :=
  ⟨innerDeclarator, [innerDeclaration, innerBlock, nestedProgram]⟩

/-- A block that declares the name decides, whatever is declared outside. -/
theorem innerBlock_decides {outer : String}
    (h : (nestedSource outer).declaratorsIn "a" innerBlock = [innerCursor]) :
    (nestedSource outer).Decides "a" usedCursor innerBlock where
  innermost := ⟨[], [nestedProgram], rfl, by simp⟩
  holds := ⟨innerCursor, mem_declaratorsIn.1 (h ▸ List.mem_singleton_self _)⟩

/-- In `let a=1;{a;let a=2}` the name in the block is the one declared behind it, not the one
declared before the block; and it is so as well where the outer declaration is one of `b`. -/
theorem nearestDeclaration?_lexical_hoisted :
    ∃ shadowing sole : Source, shadowing.text = "let a=1;\x7ba;let a=2\x7d" ∧
      sole.text = "let b=1;\x7ba;let a=2\x7d" ∧
      shadowing.Decides "a" usedCursor innerBlock ∧ sole.Decides "a" usedCursor innerBlock ∧
      shadowing.Counts "a" innerBlock usedName innerCursor ∧
      shadowing.nearestDeclaration? "a" usedCursor = some innerCursor ∧
      (shadowing.nearestDeclaration? "a" usedCursor).map Cursor.node =
        (sole.nearestDeclaration? "a" usedCursor).map Cursor.node := by
  let shadowing := nestedSource "a"
  let sole := nestedSource "b"
  -- The inner block of both sources declares the name once, whatever the outer one does.
  have hdeclared : shadowing.declaratorsIn "a" innerBlock = [innerCursor] := rfl
  have hdeclared' : sole.declaratorsIn "a" innerBlock = [innerCursor] := rfl
  have hshadowing := innerBlock_decides hdeclared
  have hsole := innerBlock_decides hdeclared'
  have hcounts : shadowing.Counts "a" innerBlock usedName innerCursor :=
    preferred?_counts (by rw [hdeclared]; rfl)
  obtain ⟨-, hfound, halike, -, -⟩ := nearestDeclaration?_lexical shadowing "a" usedCursor
  exact ⟨shadowing, sole, rfl, rfl, hshadowing, hsole, hcounts,
    (hfound innerCursor).2 ⟨innerBlock, hshadowing, hcounts⟩,
    halike sole usedCursor innerBlock innerBlock hshadowing hsole rfl (by rw [hdeclared, hdeclared'])⟩

end ChangeLens.Source
