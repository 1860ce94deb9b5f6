import ChangeLens.Proofs.Locating
import ChangeLens.Proofs.PatternFaults
import ChangeLens.Text.Distance

/-!
# `ChangeLens.Proofs.Relocation`: code that has only moved

Every site has a place, and `Placed` says what it means to move it elsewhere. Two lists are
`Relocated` when they hold the same sites, one by one, at other places; two models are `Moved` when
all their lists are, and the files are equally complex.

Analyzers match sites by keys that leave the place out, so each site of a moved model finds its own
counterpart however often its key occurs: this is what `Relocated.map_eq` provides to the lemmas of
`ChangeLens.Proofs.Pairing` and `ChangeLens.Proofs.Locating`, and the lemmas `compare…_moved`
follow, one for each comparison. Three comparisons are different. Side effects are matched within a
window of lines. Classes and interfaces are looked up by name, and only the last one of a name is
found; `Model.ClassesAgree` and `Model.InterfacesAgree` say when such a look-up finds no difference.

`Analyzer.compare_moved` puts the comparisons together, and `analyzers_silent_of_moved` is the main
result: where names are distinct, moved code is not reported.
-/

set_option autoImplicit false

namespace ChangeLens

/-! ### Places -/

/-- Sites stand somewhere and can be moved elsewhere. -/
class Placed (α : Type) where
  /-- Where a site stands. -/
  span : α → Span
  /-- The same site at another place. -/
  moveTo : Span → α → α
  /-- A site moved to where it stands stays as it is. -/
  moveTo_span : ∀ site, moveTo (span site) site = site := by exact fun _ => rfl
  /-- Of two moves the last one counts. -/
  moveTo_moveTo : ∀ there here site, moveTo there (moveTo here site) = moveTo there site := by
    exact fun _ _ _ => rfl

instance : Placed FunctionSite where
  span := FunctionSite.span
  moveTo span site := { site with span }

instance : Placed TypeSite where
  span := TypeSite.span
  moveTo span site := { site with span }

instance : Placed CallSite where
  span := CallSite.span
  moveTo span site := { site with span }

instance : Placed ImportSite where
  span := ImportSite.span
  moveTo span site := { site with span }

instance : Placed ExportSite where
  span := ExportSite.span
  moveTo span site := { site with span }

instance : Placed ClassSite where
  span := ClassSite.span
  moveTo span site := { site with span }

instance : Placed InterfaceSite where
  span := InterfaceSite.span
  moveTo span site := { site with span }

instance : Placed VariableSite where
  span := VariableSite.span
  moveTo span site := { site with span }

/-- A hook stands where its call does. -/
instance : Placed HookSite where
  span := HookSite.span
  moveTo span site := { site with call := Placed.moveTo span site.call }

instance : Placed ElementSite where
  span := ElementSite.span
  moveTo span site := { site with span }

instance : Placed HandlerSite where
  span := HandlerSite.span
  moveTo span site := { site with span }

instance : Placed RenderSite where
  span := RenderSite.span
  moveTo span site := { site with span }

instance : Placed ArrayMutationSite where
  span := ArrayMutationSite.span
  moveTo span site := { site with span }

instance : Placed ObjectMutationSite where
  span := ObjectMutationSite.span
  moveTo span site := { site with span }

instance : Placed ReturnSite where
  span := ReturnSite.span
  moveTo span site := { site with span }

instance : Placed TernarySite where
  span := TernarySite.span
  moveTo span site := { site with span }

instance : Placed ConditionalSite where
  span := ConditionalSite.span
  moveTo span site := { site with span }

instance : Placed LoopSite where
  span := LoopSite.span
  moveTo span site := { site with span }

instance : Placed TrySite where
  span := TrySite.span
  moveTo span site := { site with span }

instance : Placed ThrowSite where
  span := ThrowSite.span
  moveTo span site := { site with span }

instance : Placed OperatorSite where
  span := OperatorSite.span
  moveTo span site := { site with span }

instance : Placed SpreadSite where
  span := SpreadSite.span
  moveTo span site := { site with span }

instance : Placed DestructuringSite where
  span := DestructuringSite.span
  moveTo span site := { site with span }

instance : Placed AssignmentSite where
  span := AssignmentSite.span
  moveTo span site := { site with span }

/-! ### Lists of the same sites at other places -/

section Relocated

open Placed

variable {α : Type} [Placed α] {xs ys : List α}

/-- What a site says apart from where it stands. -/
def unplaced (site : α) : α :=
  moveTo .fileStart site

/-- Two lists hold the same sites, one by one, apart from where these stand. -/
def Relocated (xs ys : List α) : Prop :=
  xs.map unplaced = ys.map unplaced

/-- Sites that say the same agree in all that does not depend on places. -/
theorem eq_of_unplaced_eq {κ : Type} {x y : α} (h : unplaced x = unplaced y) (key : α → κ)
    (hkey : ∀ site, key (unplaced site) = key site) : key x = key y := by
  rw [← hkey x, h, hkey]

/-- Sites that say the same are moved from each other. -/
theorem exists_moveTo_of_unplaced_eq {x y : α} (h : unplaced x = unplaced y) :
    ∃ there, y = moveTo there x := by
  refine ⟨span y, ?_⟩
  calc y = moveTo (span y) (unplaced y) := by rw [unplaced, moveTo_moveTo, moveTo_span]
    _ = moveTo (span y) (unplaced x) := by rw [h]
    _ = moveTo (span y) x := by rw [unplaced, moveTo_moveTo]

namespace Relocated

/-- Sites at their own places. -/
theorem refl (xs : List α) : Relocated xs xs :=
  rfl

/-- Moving back is moving. -/
theorem symm (h : Relocated xs ys) : Relocated ys xs :=
  Eq.symm h

/-- Sites at the same place of the lists are moved from each other. -/
theorem moved_of_mem_zip (h : Relocated xs ys) {x y : α} (hmem : (x, y) ∈ xs.zip ys) :
    ∃ there, y = moveTo there x :=
  exists_moveTo_of_unplaced_eq (Pairing.eq_of_mem_zip h hmem)

/-- Every site of one list stands somewhere in the other one. -/
theorem exists_mem (h : Relocated xs ys) {x : α} (hx : x ∈ xs) : ∃ there, moveTo there x ∈ ys := by
  have hmem : unplaced x ∈ ys.map unplaced := h ▸ List.mem_map_of_mem hx
  obtain ⟨y, hy, hyx⟩ := List.mem_map.1 hmem
  obtain ⟨there, rfl⟩ := exists_moveTo_of_unplaced_eq hyx.symm
  exact ⟨there, hy⟩

/-- What does not depend on places agrees item by item. -/
theorem map_eq {κ : Type} (h : Relocated xs ys) (key : α → κ)
    (hkey : ∀ x, key (unplaced x) = key x) : xs.map key = ys.map key :=
  Pairing.map_eq_of_agree (fun _ _ hxy => eq_of_unplaced_eq hxy key hkey) h

/-- Moving neither loses a site nor adds one. -/
theorem length_eq (h : Relocated xs ys) : xs.length = ys.length := by
  rw [← List.length_map unplaced, h, List.length_map]

/-- A condition that does not depend on places keeps the same sites of both lists. -/
theorem filter (h : Relocated xs ys) (p : α → Bool)
    (hp : ∀ x, p (unplaced x) = p x) :
    Relocated (xs.filter p) (ys.filter p) :=
  Pairing.map_filter_eq (fun _ _ hxy => eq_of_unplaced_eq hxy p hp) h

/-- A property that does not depend on places holds of all sites of both lists or of neither. -/
theorem forall_iff (h : Relocated xs ys) (p : α → Prop)
    (hp : ∀ x, p (unplaced x) = p x) :
    (∀ x ∈ xs, p x) ↔ ∀ y ∈ ys, p y := by
  have hall (items : List α) : (∀ x ∈ items, p x) ↔ ∀ x ∈ items.map unplaced, p x := by
    simp only [List.forall_mem_map, hp]
  rw [hall xs, hall ys, h]

/-- The last site of a key is the moved last site of it, as long as the key does not look at the
place. -/
theorem lastWith? {κ : Type} [BEq κ] (h : Relocated xs ys) (key : α → κ) (k : κ)
    (hkey : ∀ x, key (unplaced x) = key x) :
    (ChangeLens.lastWith? key k xs).map unplaced =
      (ChangeLens.lastWith? key k ys).map unplaced := by
  rw [← lastWith?_map hkey, ← lastWith?_map hkey, h]

/-- The last sites of all keys are the moved last sites, in the same order. -/
theorem lastOfEach {κ : Type} [BEq κ] (h : Relocated xs ys) (key : α → κ)
    (hkey : ∀ x, key (unplaced x) = key x) :
    Relocated (ChangeLens.lastOfEach key xs) (ChangeLens.lastOfEach key ys) := by
  rw [Relocated, ← lastOfEach_map hkey, ← lastOfEach_map hkey, h]

/-- The first sites of all keys are the moved first sites, in the same order. -/
theorem firstOfEach {κ : Type} [BEq κ] (h : Relocated xs ys) (key : α → κ)
    (hkey : ∀ x, key (unplaced x) = key x) :
    Relocated (ChangeLens.firstOfEach key xs) (ChangeLens.firstOfEach key ys) := by
  rw [Relocated, ← firstOfEach_map hkey, ← firstOfEach_map hkey, h]

/-- Nothing is found about pairs of counterparts when nothing is found about moved sites. -/
theorem flatMap_zip_eq_nil {β : Type} (h : Relocated xs ys) {f : α × α → List β}
    (hf : ∀ site there, f (site, moveTo there site) = []) : (xs.zip ys).flatMap f = [] := by
  rw [List.flatMap_eq_nil_iff]
  rintro ⟨x, y⟩ hpair
  obtain ⟨there, rfl⟩ := h.moved_of_mem_zip hpair
  exact hf x there

/-- No pair of counterparts differs when no moved site does. -/
theorem filter_zip_eq_nil (h : Relocated xs ys) {differs : α × α → Bool}
    (hsame : ∀ site there, differs (site, moveTo there site) = false) :
    (xs.zip ys).filter differs = [] := by
  rw [List.filter_eq_nil_iff]
  rintro ⟨x, y⟩ hpair
  obtain ⟨there, rfl⟩ := h.moved_of_mem_zip hpair
  rw [hsame x there]
  exact Bool.false_ne_true

end Relocated

end Relocated

/-! ### Moved models -/

/-- Two models hold the same sites, list by list and one by one, apart from where these stand, and
are equally complex. -/
structure Model.Moved (base head : Model) : Prop where
  functions : Relocated base.functions head.functions := by exact rfl
  types : Relocated base.types head.types := by exact rfl
  calls : Relocated base.calls head.calls := by exact rfl
  imports : Relocated base.imports head.imports := by exact rfl
  exports : Relocated base.exports head.exports := by exact rfl
  classes : Relocated base.classes head.classes := by exact rfl
  interfaces : Relocated base.interfaces head.interfaces := by exact rfl
  declared : Relocated base.declared head.declared := by exact rfl
  hooks : Relocated base.hooks head.hooks := by exact rfl
  elements : Relocated base.elements head.elements := by exact rfl
  handlers : Relocated base.handlers head.handlers := by exact rfl
  renders : Relocated base.renders head.renders := by exact rfl
  arrayMutations : Relocated base.arrayMutations head.arrayMutations := by exact rfl
  objectMutations : Relocated base.objectMutations head.objectMutations := by exact rfl
  returns : Relocated base.returns head.returns := by exact rfl
  ternaries : Relocated base.ternaries head.ternaries := by exact rfl
  conditionals : Relocated base.conditionals head.conditionals := by exact rfl
  loops : Relocated base.loops head.loops := by exact rfl
  tries : Relocated base.tries head.tries := by exact rfl
  throws : Relocated base.throws head.throws := by exact rfl
  operators : Relocated base.operators head.operators := by exact rfl
  spreads : Relocated base.spreads head.spreads := by exact rfl
  destructurings : Relocated base.destructurings head.destructurings := by exact rfl
  assignments : Relocated base.assignments head.assignments := by exact rfl
  complexity : base.complexity = head.complexity := by exact rfl

/-- A model is itself moved nowhere. -/
theorem Model.Moved.refl (model : Model) : model.Moved model := {}

namespace Analyzer

open ChangeLens.Pairing Placed

variable {base head : Model}

/-! ### Functions and calls -/

/-- The destructured keys of a function do not differ when it has moved. -/
theorem destructuredChanges_moveTo (target : Target) (site : FunctionSite) (there : Span) :
    destructuredChanges target site (moveTo there site) = [] := by
  rw [destructuredChanges, List.flatMap_eq_nil_iff]
  rintro ⟨⟨before, after⟩, position⟩ hmem
  -- A list zipped with itself pairs every parameter with itself.
  have hsame : before = after := by
    have hpair : (before, after) ∈ site.parameters.zip site.parameters :=
      List.fst_mem_of_mem_zipIdx hmem
    rw [List.zip_eq_zipWith, List.zipWith_self, List.mem_map] at hpair
    obtain ⟨parameter, -, heq⟩ := hpair
    cases heq
    rfl
  subst hsame
  show keyChanges target (moveTo there site) position before before = []
  rw [keyChanges]
  split
  · rename_i old new hold hnew
    cases hold.symm.trans hnew
    rw [sortedWithout_self]
    rfl
  · rfl

/-- A function is not changed by standing elsewhere. -/
theorem functionChanges_moveTo (target : Target) (site : FunctionSite) (there : Span) :
    functionChanges target site (moveTo there site) = [] := by
  -- A function and its moved copy have everything but the span in common, so each check compares a
  -- thing with itself.
  have hshape : shapeChanges target site (moveTo there site) = [] := if_pos ⟨rfl, rfl⟩
  have hgeneric : genericChanges target site (moveTo there site) = [] := if_pos rfl
  have hoverloads : overloadChanges target site (moveTo there site) = [] := if_pos rfl
  have hasync : asyncChanges target site (moveTo there site) = [] := by
    show (if !site.isAsync && site.isAsync then _ else if site.isAsync && !site.isAsync then _
      else _) = _
    cases site.isAsync <;> rfl
  have hcomplexity : complexityChanges target site (moveTo there site) = [] := by
    show (if difference site.complexity site.complexity ≤ complexityTolerance then _ else _) = _
    rw [difference, Nat.sub_self, if_pos (by decide)]
  rw [functionChanges, hshape, destructuredChanges_moveTo, hgeneric, hoverloads, hasync,
    hcomplexity]
  rfl

/-- All functions are paired by identity with their moved selves, and nothing is left over. -/
theorem compareFunctions_moved (h : base.Moved head) (target : Target) :
    compareFunctions target base head = [] := by
  have hnamed : Relocated base.namedFunctions head.namedFunctions :=
    h.functions.filter _ fun _ => rfl
  rw [compareFunctions, pairBy_eq_zip (hnamed.map_eq FunctionSite.identity fun _ => rfl),
    hnamed.flatMap_zip_eq_nil (functionChanges_moveTo target)]
  rfl

/-- A call is not changed by standing elsewhere. -/
theorem callChanges_moveTo (target : Target) (call : CallSite) (there : Span) :
    callChanges target call (moveTo there call) = [] := by
  have hnew : newChanges target call (moveTo there call) = [] := if_pos rfl
  have hdependencies : dependencyChanges target call (moveTo there call) = [] := by
    rw [dependencyChanges, if_neg]
    simp [moveTo]
  have htemplate : templateChanges target call (moveTo there call) = [] := by
    rw [templateChanges, if_neg]
    simp [moveTo]
  have harguments : argumentChanges target call (moveTo there call) = [] := by
    simp [argumentChanges, sameOrder, moveTo]
  rw [callChanges, hnew, hdependencies, htemplate, harguments]
  rfl

/-- All calls are paired with their moved selves, since no pass of the pairing looks at places. -/
theorem compareCalls_moved (h : base.Moved head) (target : Target) :
    compareCalls target base head = [] := by
  obtain ⟨pairs, hpairs, hsame⟩ := pairCalls_of_map_eq
    (fun _ _ hab => eq_of_unplaced_eq hab CallSite.callee fun _ => rfl)
    (fun _ _ hab => eq_of_unplaced_eq hab (fun call => (call.path, call.arguments)) fun _ => rfl)
    h.calls
  rw [compareCalls, hpairs]
  -- Every call has found its counterpart; nothing is left to be added or removed.
  show pairs.flatMap _ ++ [] ++ [] = []
  rw [List.append_nil, List.append_nil, List.flatMap_eq_nil_iff]
  rintro ⟨before, after⟩ hpair
  obtain ⟨there, rfl⟩ := exists_moveTo_of_unplaced_eq (hsame before after hpair)
  exact callChanges_moveTo target before there

/-! ### Types, imports and exports -/

/-- Every type finds its moved self under its name, with the same canonical text. -/
theorem compareTypes_moved (h : base.Moved head) (target : Target) :
    compareTypes target base head = [] := by
  have hlast := h.types.lastOfEach TypeSite.name fun _ => rfl
  -- Types are kept by name, and every name is there on both sides.
  have hnone {xs ys : List TypeSite} (hmoved : Relocated xs ys) :
      (xs.filter fun site => !ys.any (·.name == site.name)) = [] := by
    rw [List.filter_eq_nil_iff]
    intro site hsite
    obtain ⟨there, hthere⟩ := hmoved.exists_mem hsite
    rw [Bool.not_eq_true, Bool.not_eq_false', List.any_eq_true]
    exact ⟨moveTo there site, hthere, beq_self_eq_true _⟩
  rw [compareTypes]
  simp only [hnone hlast, hnone hlast.symm, typeLeftovers, List.map_nil, List.append_nil,
    List.flatMap_eq_nil_iff]
  intro site hsite
  obtain ⟨there, hthere⟩ := hlast.exists_mem hsite
  have hfound : (lastOfEach TypeSite.name head.types).find? (·.name == site.name) =
      some (moveTo there site) := find?_lastOfEach hthere
  rw [hfound]
  exact if_pos rfl

/-- The imports of a module bind the same names wherever they stand. -/
theorem boundBy_relocated {before after : List ImportSite} (h : Relocated before after)
    (moduleName : String) : boundBy before moduleName = boundBy after moduleName := by
  have hmodule := h.filter (·.moduleName == moduleName) fun _ => rfl
  rw [boundBy, boundBy, List.flatMap_def, List.flatMap_def]
  exact congrArg List.flatten (hmodule.map_eq _ fun _ => rfl)

/-- The order of imports is that of their modules, which have not changed. -/
theorem orderChanges_relocated {before after : List ImportSite} (h : Relocated before after)
    (target : Target) : orderChanges target before after = [] := by
  have hmodules : sideEffectModules before = sideEffectModules after :=
    (h.filter (·.isSideEffectOnly) fun _ => rfl).map_eq (·.moduleName) fun _ => rfl
  rw [orderChanges]
  split
  · simp [sameOrder, hmodules]
  · rfl

/-- All modules were imported before, so none is matched and the comparison succeeds. -/
theorem compareImports_moved (h : base.Moved head) (target : Target) :
    compareImports target base head = .ok [] := by
  have hvalue : Relocated (valueImports base) (valueImports head) := h.imports.filter _ fun _ => rfl
  -- Modules are looked up by name, and no name comes or goes.
  have himported {xs ys : List ImportSite} (hmoved : Relocated xs ys) {site : ImportSite}
      (hsite : site ∈ firstOfEach ImportSite.moduleName xs) :
      importsModule ys site.moduleName = true := by
    obtain ⟨there, hthere⟩ := hmoved.exists_mem (mem_of_mem_firstOfEach hsite)
    exact List.any_eq_true.2 ⟨moveTo there site, hthere, beq_self_eq_true _⟩
  rw [compareImports_eq_ok_nil_iff, flatMapM_eq_ok_nil_iff]
  refine ⟨⟨fun site hsite => ?_, ?_⟩, orderChanges_relocated hvalue target⟩
  · rw [currentModule, if_pos (himported hvalue.symm hsite), moduleChanges,
      boundBy_relocated hvalue, sortedWithout_self]
    rfl
  · rw [modulesRemoved, List.map_eq_nil_iff, List.filter_eq_nil_iff]
    intro site hsite
    rw [himported hvalue hsite]
    exact Bool.false_ne_true

/-- Moved variables keep their types. -/
theorem variableType?_moved (h : base.Moved head) (name : String) :
    variableType? base name = variableType? head name := by
  have hlast := congrArg (Option.map VariableSite.typeText)
    (h.declared.lastWith? VariableSite.name name fun _ => rfl)
  rw [Option.map_map, Option.map_map] at hlast
  exact hlast

/-- An export has the same signature elsewhere, and types looked up for it are those of the moved
model. -/
theorem exportChanges_moved (h : base.Moved head) (target : Target) (site : ExportSite)
    (there : Span) : exportChanges target base head site (moveTo there site) = [] := by
  rw [exportChanges, if_neg (by simp [moveTo]), variableType?_moved h]
  split
  · split
    · rename_i old new hold hnew
      cases hold.symm.trans hnew
      exact if_pos rfl
    · rfl
  · rfl

/-- Every export finds its moved self under its name. -/
theorem compareExports_moved (h : base.Moved head) (target : Target) :
    compareExports target base head = [] := by
  have hfirst := h.exports.firstOfEach ExportSite.name fun _ => rfl
  simp only [compareExports, List.append_eq_nil_iff, List.flatMap_eq_nil_iff, List.map_eq_nil_iff,
    List.filter_eq_nil_iff]
  -- First the exports of the head version, each with its record in the base version; then those
  -- that are gone.
  constructor
  · intro site hsite
    obtain ⟨here, hhere⟩ := hfirst.symm.exists_mem hsite
    have hfound : (firstOfEach ExportSite.name base.exports).find? (·.name == site.name) =
        some (moveTo here site) := find?_firstOfEach hhere
    rw [hfound]
    exact exportChanges_moved h target (moveTo here site) site.span
  · intro site hsite
    obtain ⟨there, hthere⟩ := hfirst.exists_mem hsite
    rw [Bool.not_eq_true, Bool.not_eq_false', List.any_eq_true]
    exact ⟨moveTo there site, hthere, beq_self_eq_true _⟩

/-! ### Variables, hooks and markup -/

/-- Every variable is paired with its moved self, which has the same type. -/
theorem compareVariables_moved (h : base.Moved head) (target : Target) :
    compareVariables target base head = [] := by
  rw [compareVariables, pairBy_eq_zip (h.declared.map_eq VariableSite.name fun _ => rfl),
    h.declared.filter_zip_eq_nil fun site there => bne_self_eq_false site.typeText]
  rfl

/-- Nothing left is nothing to group. -/
theorem grouped_nil {α κ : Type} [BEq κ] (key : α → κ) (items : List α) :
    grouped key items [] = [] := by
  rw [grouped, List.flatMap_eq_nil_iff]
  intro k _
  rfl

/-- Every hook takes the moved hook that stands where it stands in the list. -/
theorem compareHooks_moved (h : base.Moved head) (target : Target) :
    compareHooks target base head = [] := by
  have hfits (after before : HookSite) (hsame : unplaced after = unplaced before) :
      (hookKey before == hookKey after) = true :=
    beq_iff_eq.2 (eq_of_unplaced_eq hsame hookKey fun _ => rfl).symm
  rw [compareHooks, claims_eq_zip hfits h.hooks.symm]
  simp only [grouped_nil, List.map_nil, List.append_nil, List.flatMap_map]
  exact h.hooks.symm.flatMap_zip_eq_nil fun hook there => if_pos rfl

/-- There are as many hooks of each type as before. -/
theorem compareState_moved (h : base.Moved head) (target : Target) :
    compareState target base head = [] := by
  have hnone : stateHooks.filterMap (stateChange? base head) = [] := by
    rw [List.filterMap_eq_nil_iff]
    intro hookType _
    exact if_pos (h.hooks.filter (·.hookType == hookType) fun _ => rfl).length_eq
  rw [compareState, hnone]
  rfl

/-- An element is not changed by standing elsewhere. -/
theorem elementChanges_moveTo (target : Target) (site : ElementSite) (there : Span) :
    elementChanges target site (moveTo there site) = [] := by
  have hprops : renderedProps site = renderedProps (moveTo there site) := rfl
  rw [elementChanges, if_pos hprops, if_neg (by simp [moveTo])]
  rfl

/-- The first of the three passes takes all elements. -/
theorem compareElements_moved (h : base.Moved head) (target : Target) :
    compareElements target base head = [] := by
  rw [compareElements, pairBy_eq_zip (h.elements.map_eq _ fun _ => rfl)]
  -- Equal elements are all there are; nothing is left for tags and shapes to pair.
  show ((base.elements.zip head.elements) ++ []).flatMap _ ++ [] ++ [] ++ [] = []
  simp only [List.append_nil]
  exact h.elements.flatMap_zip_eq_nil (elementChanges_moveTo target)

/-- Every conditional rendering is met by its moved self. -/
theorem compareRenders_moved (h : base.Moved head) (target : Target) :
    compareRenders target base head = [] := by
  have hfits (after before : RenderSite) (hsame : unplaced after = unplaced before) :
      (before.form == after.form && before.text == after.text) = true := by
    obtain ⟨there, rfl⟩ := exists_moveTo_of_unplaced_eq hsame
    simp [moveTo]
  rw [compareRenders, claims_eq_zip hfits h.renders.symm]
  dsimp only
  rw [unclaimed_some, List.map_nil]

/-- Every event handler is met by its moved self. -/
theorem compareHandlers_moved (h : base.Moved head) (target : Target) :
    compareHandlers target base head = [] := by
  have hhandlers := h.handlers.filter (isSignificant target) fun _ => rfl
  rw [compareHandlers, pairBy_eq_zip (hhandlers.map_eq _ fun _ => rfl),
    hhandlers.filter_zip_eq_nil fun site there => bne_self_eq_false site.text]
  rfl

/-- Whatever the switches of markup are, its three parts find nothing. -/
theorem compareMarkup_moved (h : base.Moved head) (target : Target) :
    compareMarkup target base head = [] := by
  rw [compareMarkup, compareElements_moved h, compareRenders_moved h, compareHandlers_moved h]
  split
  · rfl
  · split <;> rfl

/-! ### Statements and values -/

/-- Conditionals are paired by condition and branches, none of which is a place. -/
theorem compareConditionals_moved (h : base.Moved head) (target : Target) :
    compareConditionals target base head = [] := by
  rw [compareConditionals, pairBy_eq_zip (h.conditionals.map_eq _ fun _ => rfl)]
  rfl

/-- Loops with the same texts in the same number are silent wherever they stand. -/
theorem compareLoops_moved (h : base.Moved head) (target : Target) :
    compareLoops target base head = [] :=
  compareLoops_eq_nil target (.of_eq (h.loops.map_eq _ fun _ => rfl))

/-- The same for conditional expressions. -/
theorem compareTernaries_moved (h : base.Moved head) (target : Target) :
    compareTernaries target base head = [] :=
  compareTernaries_eq_nil target (.of_eq (h.ternaries.map_eq _ fun _ => rfl))

/-- The same for the operators of a class. -/
theorem compareOperators_moved (h : base.Moved head) (category : OperatorClass) (kind : ChangeKind)
    (noun : String) (target : Target) :
    compareOperators category kind noun target base head = [] := by
  have hcategory := h.operators.filter (·.category == category) fun _ => rfl
  exact compareOperators_eq_nil kind noun target (.of_eq (hcategory.map_eq _ fun _ => rfl))

/-- The complexity of a file is a number of the model and no place. -/
theorem compareComplexity_moved (h : base.Moved head) (target : Target) :
    compareComplexity target base head = [] := by
  rw [compareComplexity, if_pos (h.complexity ▸ Nat.le_add_right _ _)]

/-- The same for returned values. -/
theorem comparePromises_moved (h : base.Moved head) (target : Target) :
    comparePromises target base head = [] :=
  comparePromises_eq_nil target (.of_eq (h.returns.map_eq _ fun _ => rfl))

/-- The same for throw statements. -/
theorem compareThrows_moved (h : base.Moved head) (target : Target) :
    compareThrows target base head = [] :=
  compareThrows_eq_nil target (.of_eq (h.throws.map_eq _ fun _ => rfl))

/-- The same for try statements. -/
theorem compareTries_moved (h : base.Moved head) (target : Target) :
    compareTries target base head = [] :=
  compareTries_eq_nil target (.of_eq (h.tries.map_eq _ fun _ => rfl))

/-- The same for assignments. -/
theorem compareAssignments_moved (h : base.Moved head) (target : Target) :
    compareAssignments target base head = [] :=
  compareAssignments_eq_nil target (.of_eq (h.assignments.map_eq _ fun _ => rfl))

/-- Lists with the same keys have nothing beyond each other. -/
theorem beyond_eq_nil {α κ : Type} [DecidableEq κ] {key : α → κ} {before after : List α}
    (h : before.map key = after.map key) : beyond key before after = [] := by
  rw [beyond, pairBy_eq_zip h.symm]

/-- Lists with the same keys miss nothing of each other. -/
theorem missing_eq_nil {α κ : Type} [DecidableEq κ] {key : α → κ} {before after : List α}
    (h : before.map key = after.map key) : missing key before after = [] := by
  rw [missing, pairBy_eq_zip h.symm, grouped_nil]

/-- As many array mutations of each key as before. -/
theorem compareArrayMutations_moved (h : base.Moved head) (target : Target) :
    compareArrayMutations target base head = [] := by
  rw [compareArrayMutations, beyond_eq_nil (h.arrayMutations.map_eq _ fun _ => rfl), List.map_nil]

/-- As many assignments to each property as before. -/
theorem compareObjectMutations_moved (h : base.Moved head) (target : Target) :
    compareObjectMutations target base head = [] := by
  rw [compareObjectMutations, beyond_eq_nil (h.objectMutations.map_eq _ fun _ => rfl), List.map_nil]

/-- As many destructuring declarations of each key as before. -/
theorem compareDestructurings_moved (h : base.Moved head) (target : Target) :
    compareDestructurings target base head = [] := by
  have hkeys := h.destructurings.map_eq destructuringKey fun _ => rfl
  rw [compareDestructurings, beyond_eq_nil hkeys, missing_eq_nil hkeys]
  rfl

/-- As many spreads of each key as before. -/
theorem compareSpreads_moved (h : base.Moved head) (target : Target) :
    compareSpreads target base head = [] := by
  have hkeys := h.spreads.map_eq SpreadSite.key fun _ => rfl
  rw [compareSpreads, beyond_eq_nil hkeys, missing_eq_nil hkeys]
  rfl

end Analyzer

/-! ### Classes and interfaces -/

/-- Classes of one name extend the same class, and none has a method or field that the last one
lacks. -/
def Model.ClassesAgree (model : Model) : Prop :=
  ∀ site ∈ model.classes, ∀ last, lastWith? ClassSite.name site.name model.classes = some last →
    last.parent? = site.parent? ∧ (∀ name ∈ site.methods, name ∈ last.methods) ∧
      ∀ name ∈ site.properties, name ∈ last.properties

/-- A property of an interface says what the last property of its name in another one says. -/
def InterfaceSite.Declares (site : InterfaceSite) (property : TypeMember) : Prop :=
  ∃ last, lastWith? TypeMember.name property.name site.properties = some last ∧
    last.typeText = property.typeText ∧ last.optional = property.optional

/-- None of the interfaces of one name has a property or method that the last one lacks or declares
in another way. -/
def Model.InterfacesAgree (model : Model) : Prop :=
  ∀ site ∈ model.interfaces, ∀ last,
    lastWith? InterfaceSite.name site.name model.interfaces = some last →
      (∀ property ∈ site.properties, last.Declares property) ∧
        ∀ name ∈ site.methods, name ∈ last.methods

/-- Classes with distinct names agree: each is the last one of its name. -/
theorem Model.classesAgree_of_nodup {model : Model}
    (h : (model.classes.map ClassSite.name).Nodup) : model.ClassesAgree := by
  intro site hsite last hlast
  rw [lastWith?_of_nodup h hsite] at hlast
  cases hlast
  exact ⟨rfl, fun _ hname => hname, fun _ hname => hname⟩

/-- Interfaces with distinct names, each with distinct properties, agree. -/
theorem Model.interfacesAgree_of_nodup {model : Model}
    (h : (model.interfaces.map InterfaceSite.name).Nodup)
    (hproperties : ∀ site ∈ model.interfaces, (site.properties.map TypeMember.name).Nodup) :
    model.InterfacesAgree := by
  intro site hsite last hlast
  rw [lastWith?_of_nodup h hsite] at hlast
  cases hlast
  refine ⟨fun property hproperty => ?_, fun _ hname => hname⟩
  exact ⟨property, lastWith?_of_nodup (hproperties site hsite) hproperty, rfl, rfl⟩

namespace Analyzer

open Placed

variable {base head : Model}

/-- No name is missing from the known ones exactly if all are known. -/
theorem filter_not_contains_eq_nil {names known : List String} :
    names.filter (!known.contains ·) = [] ↔ ∀ name ∈ names, name ∈ known := by
  rw [List.filter_eq_nil_iff]
  simp

/-- A class is silent exactly if it extends the same class and has no member that is new. -/
theorem classChanges_eq_nil {target : Target} {before after : ClassSite} :
    classChanges target before after = [] ↔
      before.parent? = after.parent? ∧ (∀ name ∈ after.methods, name ∈ before.methods) ∧
        ∀ name ∈ after.properties, name ∈ before.properties := by
  simp only [classChanges, List.append_eq_nil_iff, List.map_eq_nil_iff, filter_not_contains_eq_nil,
    and_assoc]
  refine and_congr_left fun _ => ?_
  split <;> simp_all

/-- Classes of moved models are silent exactly if each agrees with the last one of its name. Each is
compared with that one and not with its own moved self. -/
theorem compareClasses_moved (h : base.Moved head) (target : Target) :
    compareClasses target base head = [] ↔ base.ClassesAgree := by
  rw [compareClasses, List.flatMap_eq_nil_iff, Model.ClassesAgree,
    h.classes.forall_iff _ fun _ => rfl]
  refine forall_congr' fun site => forall_congr' fun hsite => ?_
  -- A class that has moved is found by its name, though perhaps not as itself.
  obtain ⟨here, hhere⟩ := h.classes.symm.exists_mem hsite
  obtain ⟨last, hlast⟩ : ∃ last, lastWith? ClassSite.name site.name base.classes = some last :=
    exists_lastWith? (a := moveTo here site) ClassSite.name hhere
  simp only [hlast, classChanges_eq_nil, Option.some.injEq, forall_eq']

/-- A property is silent exactly if the base version declares it with the same type and as optional
alike. -/
theorem propertyChanges_eq_nil {target : Target} {before site : InterfaceSite}
    {property : TypeMember} :
    propertyChanges target before site property = [] ↔ before.Declares property := by
  rw [propertyChanges, InterfaceSite.Declares]
  cases lastWith? TypeMember.name property.name before.properties with
  | none => simp
  | some last =>
    simp only [Option.some.injEq, exists_eq_left']
    split <;> simp_all

/-- Interfaces of moved models are silent exactly if each agrees with the last one of its name. -/
theorem compareInterfaces_moved (h : base.Moved head) (target : Target) :
    compareInterfaces target base head = [] ↔ base.InterfacesAgree := by
  rw [compareInterfaces, List.flatMap_eq_nil_iff, Model.InterfacesAgree,
    h.interfaces.forall_iff _ fun _ => rfl]
  refine forall_congr' fun site => forall_congr' fun hsite => ?_
  obtain ⟨here, hhere⟩ := h.interfaces.symm.exists_mem hsite
  obtain ⟨last, hlast⟩ :
      ∃ last, lastWith? InterfaceSite.name site.name base.interfaces = some last :=
    exists_lastWith? (a := moveTo here site) InterfaceSite.name hhere
  simp only [hlast, interfaceChanges, List.append_eq_nil_iff, List.map_eq_nil_iff,
    List.flatMap_eq_nil_iff, filter_not_contains_eq_nil, propertyChanges_eq_nil,
    Option.some.injEq, forall_eq']

/-! ### All analyzers -/

/-- On moved code only three analyzers can find anything. -/
theorem compare_moved {analyzer : Analyzer} (h : analyzer ∈ all) (hmoved : base.Moved head)
    (target : Target) :
    analyzer = classes ∨ analyzer = interfaces ∨ analyzer = sideEffects ∨
      analyzer.compare target base head = some [] := by
  simp only [all, core, structural, List.cons_append, List.nil_append, List.mem_cons,
    List.not_mem_nil, or_false] at h
  -- The registry lists the analyzers one by one. Three of them are left to the other cases of the
  -- statement; each of the others has its lemma above.
  rcases h with rfl | rfl | rfl | rfl | rfl | rfl | rfl | rfl | rfl | rfl | rfl | rfl | rfl | rfl |
    rfl | rfl | rfl | rfl | rfl | rfl | rfl | rfl | rfl | rfl | rfl | rfl
  · exact .inr (.inr (.inr (congrArg some (compareFunctions_moved hmoved target))))
  · exact .inr (.inr (.inr (congrArg some (compareCalls_moved hmoved target))))
  · exact .inr (.inr (.inr (congrArg some (compareTypes_moved hmoved target))))
  · exact .inr (.inr (.inr (congrArg Except.toOption (compareImports_moved hmoved target))))
  · exact .inr (.inr (.inr (congrArg some (compareExports_moved hmoved target))))
  · exact .inl rfl
  · exact .inr (.inl rfl)
  · exact .inr (.inr (.inr (congrArg some (compareVariables_moved hmoved target))))
  · exact .inr (.inr (.inr (congrArg some (compareHooks_moved hmoved target))))
  · exact .inr (.inr (.inr (congrArg some (compareState_moved hmoved target))))
  · exact .inr (.inr (.inr (congrArg some (compareMarkup_moved hmoved target))))
  · exact .inr (.inr (.inl rfl))
  · exact .inr (.inr (.inr (congrArg some (compareArrayMutations_moved hmoved target))))
  · exact .inr (.inr (.inr (congrArg some (compareObjectMutations_moved hmoved target))))
  · exact .inr (.inr (.inr (congrArg some (comparePromises_moved hmoved target))))
  · exact .inr (.inr (.inr (congrArg some (compareTernaries_moved hmoved target))))
  · exact .inr (.inr (.inr (congrArg some (compareConditionals_moved hmoved target))))
  · exact .inr (.inr (.inr (congrArg some (compareLoops_moved hmoved target))))
  · exact .inr (.inr (.inr (congrArg some (compareOperators_moved hmoved _ _ _ target))))
  · exact .inr (.inr (.inr (congrArg some (compareOperators_moved hmoved _ _ _ target))))
  · exact .inr (.inr (.inr (congrArg some (compareThrows_moved hmoved target))))
  · exact .inr (.inr (.inr (congrArg some (compareTries_moved hmoved target))))
  · exact .inr (.inr (.inr (congrArg some (compareDestructurings_moved hmoved target))))
  · exact .inr (.inr (.inr (congrArg some (compareAssignments_moved hmoved target))))
  · exact .inr (.inr (.inr (congrArg some (compareSpreads_moved hmoved target))))
  · exact .inr (.inr (.inr (congrArg some (compareComplexity_moved hmoved target))))

end Analyzer

/-- Moved code is not reported: where the names of classes, of interfaces and of the properties of
each interface are distinct, no analyzer but that of side effects finds anything, wherever the sites
stand. -/
theorem analyzers_silent_of_moved {base head : Model} (hmoved : base.Moved head)
    (hclasses : (base.classes.map ClassSite.name).Nodup)
    (hinterfaces : (base.interfaces.map InterfaceSite.name).Nodup)
    (hproperties : ∀ site ∈ base.interfaces, (site.properties.map TypeMember.name).Nodup)
    (target : Target) :
    ∀ analyzer ∈ Analyzer.all, analyzer.name ≠ "side-effects" →
      analyzer.compare target base head = some [] := by
  intro analyzer hanalyzer hname
  rcases Analyzer.compare_moved hanalyzer hmoved target with rfl | rfl | rfl | hsilent
  · exact congrArg some ((Analyzer.compareClasses_moved hmoved target).2
      (Model.classesAgree_of_nodup hclasses))
  · exact congrArg some ((Analyzer.compareInterfaces_moved hmoved target).2
      (Model.interfacesAgree_of_nodup hinterfaces hproperties))
  · exact absurd rfl hname
  · exact hsilent

/-- A file with two equal loops around equal calls, a class and an interface, each on a line of its
own. -/
def Model.laidOut (line : Nat → Nat) : Model :=
  let place (n : Nat) : Span := ⟨line n, 0, line n, 20⟩
  { dialect := "typescript"
    text := ""
    calls := [⟨"f", "f", place 0, ["x"], false, false, "", none⟩,
      ⟨"f", "f", place 1, ["x"], false, false, "", none⟩]
    loops := [⟨"while", "f(x)", place 0, "WhileStatement"⟩,
      ⟨"while", "f(x)", place 1, "WhileStatement"⟩]
    classes := [⟨"A", place 2, none, [], ["m"], []⟩]
    interfaces := [⟨"A", place 3, [], [⟨"a", "string", false, false⟩, ⟨"b", "any", true, false⟩],
      []⟩]
    complexity := 3 }

/-- The loops have changed places, and the declarations have moved in front of them. -/
theorem analyzers_silent_of_laidOut :
    Model.laidOut (· + 1) ≠ Model.laidOut (9 - ·) ∧
      ∀ analyzer ∈ Analyzer.all, analyzer.name ≠ "side-effects" →
        analyzer.compare ⟨"a.ts", {}, Text.similarity⟩ (Model.laidOut (· + 1))
          (Model.laidOut (9 - ·)) = some [] :=
  ⟨by decide, analyzers_silent_of_moved {} (by decide) (by decide) (by decide) _⟩

end ChangeLens
