import ChangeLens.Proofs.PatternFaults
import ChangeLens.Text.Distance

/-!
# `ChangeLens.Proofs.ImportStructure`: when the imports of two versions count as equal

`compareImports` looks at three things, each of imports that are not erased (`kept`): which modules
are imported (`Imports`), which names are bound from each of them (`Binds`), and in which order the
modules run whose imports bind nothing (`runOnly`). `SameImports` says that the first two are the
same and the third one is the same or has other modules, and `compareImports_eq_nil` that the
comparison succeeds and reports nothing exactly then.

`Rearranged` is what an editor does to imports without changing what they mean: writing a statement
anew with its specifiers in another order, moving a statement that binds names past another one,
splitting such a statement or merging two of one module, any number of times and anywhere in the
file. Each of these steps leaves all three things alone (`SameView`), so a whole rearrangement does
(`Rearranged.sameView`) and nothing is reported about it (`compareImports_eq_nil_iff`).
-/

set_option autoImplicit false

namespace ChangeLens.Analyzer

open ChangeLens.Pairing

/-- The imports that are not erased. -/
def kept (imports : List ImportSite) : List ImportSite :=
  imports.filter (!·.isTypeOnly)

/-- The key that a name is bound under: the name it has here, which is its own name unless it gets
another one, with a mark in front when the whole module is bound. -/
def bindingKey (specifier : ImportSpecifier) : String :=
  let localName :=
    match specifier.renamed with
    | some renamed => if renamed = "" then specifier.name else renamed
    | none => specifier.name
  if specifier.name = "*" then "* as " ++ localName else localName

/-- The modules whose imports bind nothing and only run them, in order. -/
def runOnly (imports : List ImportSite) : List String :=
  (imports.filter (·.specifiers.isEmpty)).map (·.moduleName)

/-- Some import is of this module. -/
def Imports (imports : List ImportSite) (moduleName : String) : Prop :=
  ∃ site ∈ imports, site.moduleName = moduleName

/-- Some import of this module binds a value under this key. -/
def Binds (imports : List ImportSite) (moduleName key : String) : Prop :=
  ∃ site ∈ imports, site.moduleName = moduleName ∧
    ∃ specifier ∈ site.specifiers, specifier.isTypeOnly = false ∧ bindingKey specifier = key

/-- Both versions import the same modules and bind the same keys from each of them. The modules that
are only run are the same in the same order, or are not the same. -/
structure SameImports (before after : List ImportSite) : Prop where
  modules : ∀ moduleName, Imports before moduleName ↔ Imports after moduleName
  bindings : ∀ moduleName key, Binds before moduleName key ↔ Binds after moduleName key
  order : runOnly before = runOnly after ∨
    ¬ (runOnly before).Perm (runOnly after)

/-! ### The checks -/

section Checks

variable {target : Target} {before after : List ImportSite} {moduleName : String}

/-- The check for an imported module finds what is imported. -/
theorem importsModule_iff :
    importsModule before moduleName = true ↔ Imports before moduleName := by
  simp [importsModule, Imports]

/-- The key that reports name a binding by is the key it is bound under. -/
theorem specifierKey_eq (specifier : ImportSpecifier) :
    specifierKey specifier = bindingKey specifier := by
  unfold specifierKey bindingKey ImportSpecifier.localName
  -- Only another name that is not empty counts.
  cases specifier.renamed with
  | none => simp
  | some renamed =>
    by_cases hempty : renamed = ""
    · simp [hempty, Option.filter]
    · simp [hempty, Option.filter]

/-- What is bound from a module is what its imports bind together. -/
theorem mem_boundBy {key : String} :
    key ∈ boundBy before moduleName ↔ Binds before moduleName key := by
  simp [boundBy, Binds, and_assoc, specifierKey_eq]

/-- What is asked of the first import of each module is asked of each imported module. -/
theorem forall_firstOfEach_iff {p : String → Prop} :
    (∀ site ∈ firstOfEach ImportSite.moduleName before, p site.moduleName) ↔
      ∀ moduleName, Imports before moduleName → p moduleName := by
  constructor
  · intro hall moduleName himported
    obtain ⟨site, hsite, rfl⟩ := himported
    obtain ⟨first, hfirst, hname⟩ := exists_mem_firstOfEach ImportSite.moduleName hsite
    exact hname ▸ hall first hfirst
  · intro hall site hsite
    exact hall site.moduleName ⟨site, mem_of_mem_firstOfEach hsite, rfl⟩

/-- The names bound from a module are reported unless they are the same as sets. -/
theorem moduleChanges_eq_nil {site : ImportSite} {old new : List String} :
    moduleChanges target site old new = [] ↔ ∀ key, key ∈ old ↔ key ∈ new := by
  unfold moduleChanges
  rw [List.append_eq_nil_iff, List.map_eq_nil_iff, List.map_eq_nil_iff, sortedWithout_eq_nil,
    sortedWithout_eq_nil]
  exact ⟨fun ⟨hgone, hcame⟩ key => ⟨hgone key, hcame key⟩,
    fun hsame => ⟨fun key => (hsame key).1, fun key => (hsame key).2⟩⟩

/-- A module that is imported now is always reported, unless it cannot be matched. -/
theorem moduleAdded_ne_nil (site : ImportSite) : moduleAdded target site ≠ .ok [] := by
  intro hnil
  obtain ⟨configured, -, hcons⟩ := moduleAdded_eq_ok hnil
  exact List.cons_ne_nil _ _ hcons.symm

/-- The order of the modules that are only run is reported when they are the same in another order. -/
theorem orderChanges_eq_nil :
    orderChanges target before after = [] ↔
      runOnly before = runOnly after ∨ ¬ (runOnly before).Perm (runOnly after) := by
  have hmodules (imports : List ImportSite) : sideEffectModules imports = runOnly imports := rfl
  simp only [orderChanges, hmodules]
  split
  · simp [sameOrder, sameItems, List.isPerm_iff, or_iff_not_imp_left]
  · rename_i hnone
    -- Nothing is only run now, so the same modules would be none before, too.
    have hafter : runOnly after = [] := by
      unfold runOnly
      rw [List.map_eq_nil_iff, List.filter_eq_nil_iff]
      exact List.find?_eq_none.1 hnone
    rw [hafter]
    simp only [true_iff]
    by_cases hperm : (runOnly before).Perm []
    · exact Or.inl hperm.eq_nil
    · exact Or.inr hperm

/-- The reports on the modules that are imported now: there are some, and none of them says anything,
exactly if each module was imported before and the same keys are bound from it. -/
theorem flatMapM_currentModule_eq_nil :
    (firstOfEach ImportSite.moduleName after).flatMapM (currentModule target before after) =
        .ok [] ↔
      ∀ moduleName, Imports after moduleName →
        Imports before moduleName ∧
          ∀ key, Binds before moduleName key ↔ Binds after moduleName key := by
  rw [← forall_firstOfEach_iff, flatMapM_eq_ok_nil_iff]
  refine forall₂_congr fun site _ => ?_
  unfold currentModule
  split
  · -- A module of both versions is compared key by key, and one that is new is always reported.
    rename_i hbefore
    simp only [Except.ok.injEq, moduleChanges_eq_nil, mem_boundBy, importsModule_iff.1 hbefore,
      true_and]
  · rename_i hbefore
    have hnew : ¬ Imports before site.moduleName := fun h => hbefore (importsModule_iff.2 h)
    simp only [moduleAdded_ne_nil, hnew, false_and]

/-- No module is reported as removed exactly if all of them are still imported. -/
theorem modulesRemoved_eq_nil :
    modulesRemoved target before after = [] ↔
      ∀ moduleName, Imports before moduleName → Imports after moduleName := by
  rw [modulesRemoved, List.map_eq_nil_iff, ← forall_firstOfEach_iff, List.filter_eq_nil_iff]
  refine forall₂_congr fun site _ => ?_
  rw [Bool.not_eq_true', Bool.not_eq_false, importsModule_iff]

end Checks

/-- Names are bound from imported modules only. -/
theorem Binds.imports {imports : List ImportSite} {moduleName key : String}
    (h : Binds imports moduleName key) : Imports imports moduleName := by
  obtain ⟨site, hsite, hname, -⟩ := h
  exact ⟨site, hsite, hname⟩

/-- Nothing is reported about imports exactly if those that are not erased are the same. -/
theorem compareImports_eq_nil {target : Target} {base head : Model} :
    compareImports target base head = .ok [] ↔
      SameImports (kept base.imports) (kept head.imports) := by
  have hkept (model : Model) : valueImports model = kept model.imports := rfl
  rw [compareImports_eq_ok_nil_iff, hkept, hkept, flatMapM_currentModule_eq_nil, modulesRemoved_eq_nil,
    orderChanges_eq_nil]
  constructor
  · rintro ⟨⟨hcurrent, hgone⟩, horder⟩
    -- The modules after the edit were imported before, and no module has gone.
    have hmodules (moduleName : String) :
        Imports (kept base.imports) moduleName ↔ Imports (kept head.imports) moduleName :=
      ⟨hgone moduleName, fun h => (hcurrent moduleName h).1⟩
    refine ⟨hmodules, fun moduleName key => ?_, horder⟩
    constructor
    · intro hbinds
      -- The bindings are compared at the statements after the edit, so the module is looked up
      -- there.
      exact ((hcurrent moduleName ((hmodules moduleName).1 hbinds.imports)).2 key).1 hbinds
    · intro hbinds
      exact ((hcurrent moduleName hbinds.imports).2 key).2 hbinds
  · rintro ⟨hmodules, hbindings, horder⟩
    exact ⟨⟨fun moduleName h => ⟨(hmodules moduleName).2 h, hbindings moduleName⟩,
      fun moduleName h => (hmodules moduleName).1 h⟩, horder⟩

/-! ### Rearranged imports -/

/-- One import statement that binds names can be written as two of the same module. A part can be
erased only with the whole or because it binds nothing but types, and not both parts of a statement
that is not erased. -/
structure Splits (whole one two : ImportSite) : Prop where
  moduleName : one.moduleName = whole.moduleName ∧ two.moduleName = whole.moduleName
  specifiers : (one.specifiers ++ two.specifiers).Perm whole.specifiers
  binding : one.specifiers ≠ [] ∧ two.specifiers ≠ []
  isTypeOnly : whole.isTypeOnly = (one.isTypeOnly && two.isTypeOnly)
  types : ∀ part ∈ [one, two], whole.isTypeOnly = false → part.isTypeOnly = true →
    ∀ specifier ∈ part.specifiers, specifier.isTypeOnly = true

/-- Imports are rearranged by writing statements anew with their specifiers in any order, by moving
statements past each other unless both only run their module, by splitting statements and by merging
them again. Places and positions in the file are free. -/
inductive Rearranged : List ImportSite → List ImportSite → Prop
  | restate {site other : ImportSite} (moduleName : other.moduleName = site.moduleName)
      (isTypeOnly : other.isTypeOnly = site.isTypeOnly)
      (specifiers : other.specifiers.Perm site.specifiers) : Rearranged [site] [other]
  | swap {one two : ImportSite} (binding : one.specifiers ≠ [] ∨ two.specifiers ≠ []) :
      Rearranged [one, two] [two, one]
  | split {whole one two : ImportSite} (splits : Splits whole one two) :
      Rearranged [whole] [one, two]
  | append {front front' rest rest' : List ImportSite} (hfront : Rearranged front front')
      (hrest : Rearranged rest rest') : Rearranged (front ++ rest) (front' ++ rest')
  | refl (imports : List ImportSite) : Rearranged imports imports
  | symm {before after : List ImportSite} (h : Rearranged before after) : Rearranged after before
  | trans {before between after : List ImportSite} (hfirst : Rearranged before between)
      (hsecond : Rearranged between after) : Rearranged before after

/-! ### What a list of imports shows -/

section View

variable {front rest : List ImportSite} {site : ImportSite} {moduleName key : String}

/-- Two lists of imports import what one of them imports. -/
theorem imports_kept_append :
    Imports (kept (front ++ rest)) moduleName ↔
      Imports (kept front) moduleName ∨ Imports (kept rest) moduleName := by
  simp only [Imports, kept, List.filter_append, List.mem_append, or_and_right, exists_or]

/-- Two lists of imports bind what one of them binds. -/
theorem binds_kept_append :
    Binds (kept (front ++ rest)) moduleName key ↔
      Binds (kept front) moduleName key ∨ Binds (kept rest) moduleName key := by
  simp only [Binds, kept, List.filter_append, List.mem_append, or_and_right, exists_or]

/-- The modules that are only run keep their order across two lists. -/
theorem runOnly_kept_append :
    runOnly (kept (front ++ rest)) =
      runOnly (kept front) ++ runOnly (kept rest) := by
  simp [runOnly, kept]

/-- One statement imports its module unless it is a type import. -/
theorem imports_kept_single :
    Imports (kept [site]) moduleName ↔ site.isTypeOnly = false ∧ site.moduleName = moduleName := by
  simp [Imports, kept]

/-- One statement binds the keys of its value specifiers, unless it is a type import. -/
theorem binds_kept_single :
    Binds (kept [site]) moduleName key ↔
      site.isTypeOnly = false ∧ site.moduleName = moduleName ∧
        ∃ specifier ∈ site.specifiers, specifier.isTypeOnly = false ∧
          bindingKey specifier = key := by
  simp [Binds, kept]

/-- One statement only runs its module if it is no type import and has no specifiers. -/
theorem runOnly_kept_single (site : ImportSite) :
    runOnly (kept [site]) =
      if site.isTypeOnly = false ∧ site.specifiers = [] then [site.moduleName] else [] := by
  cases herased : site.isTypeOnly <;> cases hnone : site.specifiers <;>
    simp [runOnly, kept, herased, hnone]

/-- A statement that binds names does not only run its module. -/
theorem runOnly_kept_of_binding (h : site.specifiers ≠ []) :
    runOnly (kept [site]) = [] := by
  rw [runOnly_kept_single, if_neg fun hnone => h hnone.2]

end View

/-- Two lists of imports show the same modules, the same bindings and the same modules that are only
run, in the same order. -/
structure SameView (before after : List ImportSite) : Prop where
  modules : ∀ moduleName, Imports (kept before) moduleName ↔ Imports (kept after) moduleName
  bindings : ∀ moduleName key,
    Binds (kept before) moduleName key ↔ Binds (kept after) moduleName key
  order : runOnly (kept before) = runOnly (kept after)

namespace SameView

variable {before between after front front' rest rest' : List ImportSite}
  {site other whole one two : ImportSite}

/-- A list of imports looks like itself. -/
theorem refl (imports : List ImportSite) : SameView imports imports :=
  ⟨fun _ => Iff.rfl, fun _ _ => Iff.rfl, rfl⟩

/-- Looking alike is symmetric: all three parts are equivalences or equations. -/
theorem symm (h : SameView before after) : SameView after before :=
  ⟨fun moduleName => (h.modules moduleName).symm,
    fun moduleName key => (h.bindings moduleName key).symm, h.order.symm⟩

/-- Looking alike is transitive. -/
theorem trans (hfirst : SameView before between) (hsecond : SameView between after) :
    SameView before after :=
  ⟨fun moduleName => (hfirst.modules moduleName).trans (hsecond.modules moduleName),
    fun moduleName key => (hfirst.bindings moduleName key).trans (hsecond.bindings moduleName key),
    hfirst.order.trans hsecond.order⟩

/-- Lists that look alike in two parts look alike as a whole. -/
theorem append (hfront : SameView front front') (hrest : SameView rest rest') :
    SameView (front ++ rest) (front' ++ rest') where
  modules moduleName := by
    rw [imports_kept_append, imports_kept_append, hfront.modules, hrest.modules]
  bindings moduleName key := by
    rw [binds_kept_append, binds_kept_append, hfront.bindings, hrest.bindings]
  order := by
    rw [runOnly_kept_append, runOnly_kept_append, hfront.order, hrest.order]

/-- A statement that is written anew shows the same. -/
theorem restate (moduleName : other.moduleName = site.moduleName)
    (isTypeOnly : other.isTypeOnly = site.isTypeOnly)
    (specifiers : other.specifiers.Perm site.specifiers) : SameView [site] [other] where
  modules _ := by rw [imports_kept_single, imports_kept_single, moduleName, isTypeOnly]
  bindings _ _ := by
    simp only [binds_kept_single, moduleName, isTypeOnly, specifiers.mem_iff]
  order := by
    have hnone : other.specifiers = [] ↔ site.specifiers = [] := by
      rw [← List.length_eq_zero_iff, specifiers.length_eq, List.length_eq_zero_iff]
    simp only [runOnly_kept_single, moduleName, isTypeOnly, hnone]

/-- Two statements show the same in either order unless both only run their module. -/
theorem swap (binding : one.specifiers ≠ [] ∨ two.specifiers ≠ []) :
    SameView [one, two] [two, one] := by
  show SameView ([one] ++ [two]) ([two] ++ [one])
  refine ⟨fun moduleName => ?_, fun moduleName key => ?_, ?_⟩
  · rw [imports_kept_append, imports_kept_append, or_comm]
  · rw [binds_kept_append, binds_kept_append, or_comm]
  · rw [runOnly_kept_append, runOnly_kept_append]
    -- One of the two binds something, so at most one module is only run, and the order says
    -- nothing.
    rcases binding with hone | htwo
    · rw [runOnly_kept_of_binding hone, List.append_nil, List.nil_append]
    · rw [runOnly_kept_of_binding htwo, List.append_nil, List.nil_append]

/-- Two parts of a statement show together what it shows. -/
theorem split (h : Splits whole one two) : SameView [whole] [one, two] := by
  show SameView [whole] ([one] ++ [two])
  -- The whole is erased exactly if both parts are.
  have hkept : whole.isTypeOnly = false ↔ one.isTypeOnly = false ∨ two.isTypeOnly = false := by
    rw [h.isTypeOnly, Bool.and_eq_false_iff]
  -- An erased part of a statement that is not erased binds no value.
  have hvalue {part : ImportSite} (hpart : part ∈ [one, two]) (hwhole : whole.isTypeOnly = false)
      {specifier : ImportSpecifier} (hspecifier : specifier ∈ part.specifiers)
      (hbinds : specifier.isTypeOnly = false) : part.isTypeOnly = false := by
    rw [Bool.eq_false_iff]
    intro herased
    rw [h.types part hpart hwhole herased specifier hspecifier] at hbinds
    cases hbinds
  refine ⟨fun moduleName => ?_, fun moduleName key => ?_, ?_⟩
  · rw [imports_kept_append, imports_kept_single, imports_kept_single, imports_kept_single,
      h.moduleName.1, h.moduleName.2, hkept, or_and_right]
  · rw [binds_kept_append, binds_kept_single, binds_kept_single, binds_kept_single,
      h.moduleName.1, h.moduleName.2]
    constructor
    · rintro ⟨hwhole, hname, specifier, hspecifier, hbinds, hkey⟩
      rcases List.mem_append.1 (h.specifiers.mem_iff.2 hspecifier) with hone | htwo
      · exact Or.inl ⟨hvalue (by simp) hwhole hone hbinds, hname, specifier, hone, hbinds, hkey⟩
      · exact Or.inr ⟨hvalue (by simp) hwhole htwo hbinds, hname, specifier, htwo, hbinds, hkey⟩
    · rintro (⟨hone, hname, specifier, hspecifier, hbinds, hkey⟩ |
        ⟨htwo, hname, specifier, hspecifier, hbinds, hkey⟩)
      · exact ⟨hkept.2 (Or.inl hone), hname, specifier,
          h.specifiers.mem_iff.1 (List.mem_append_left _ hspecifier), hbinds, hkey⟩
      · exact ⟨hkept.2 (Or.inr htwo), hname, specifier,
          h.specifiers.mem_iff.1 (List.mem_append_right _ hspecifier), hbinds, hkey⟩
  · -- Neither the whole nor a part is without specifiers, so none of them only runs its module.
    have hwhole : whole.specifiers ≠ [] := by
      intro hnone
      have hparts := h.specifiers.length_eq
      rw [hnone, List.length_append, List.length_nil] at hparts
      exact h.binding.1 (List.length_eq_zero_iff.1 (by omega))
    rw [runOnly_kept_append, runOnly_kept_of_binding hwhole,
      runOnly_kept_of_binding h.binding.1, runOnly_kept_of_binding h.binding.2]
    rfl

/-- Imports that look alike are the same: the modules that are only run are then in the same order.
-/
theorem sameImports (h : SameView before after) : SameImports (kept before) (kept after) :=
  ⟨h.modules, h.bindings, Or.inl h.order⟩

end SameView

/-- Rearranged imports show the same: every step does, and steps can be put together. -/
theorem Rearranged.sameView {before after : List ImportSite} (h : Rearranged before after) :
    SameView before after := by
  induction h with
  | restate moduleName isTypeOnly specifiers => exact .restate moduleName isTypeOnly specifiers
  | swap binding => exact .swap binding
  | split splits => exact .split splits
  | append _ _ hfront hrest => exact hfront.append hrest
  | refl imports => exact .refl imports
  | symm _ ih => exact ih.symm
  | trans _ _ hfirst hsecond => exact hfirst.trans hsecond

/-- Nothing is reported about imports exactly if, erased ones apart, both versions import the same
modules, bind the same keys from each of them, and only run other modules or the same ones in the
same order. So nothing is reported when imports are only rearranged. -/
theorem compareImports_eq_nil_iff (target : Target) (base head : Model) :
    (compareImports target base head = .ok [] ↔
      SameImports (kept base.imports) (kept head.imports)) ∧
    (Rearranged base.imports head.imports → compareImports target base head = .ok []) :=
  ⟨compareImports_eq_nil, fun h => compareImports_eq_nil.2 h.sameView.sameImports⟩

/-- An import of a module that binds some names, types among them. -/
def importOf (moduleName : String) (values types : List String) : ImportSite where
  moduleName := moduleName
  span := .fileStart
  specifiers :=
    values.map (fun name => { name }) ++ types.map fun name => { name, isTypeOnly := true }
  isTypeOnly := values.isEmpty && !types.isEmpty

/-- A model with nothing but imports. -/
def importModel (imports : List ImportSite) : Model where
  dialect := "typescript"
  text := ""
  imports := imports

/-- Names in another order, a moved statement and one split into values and types are silent; a
changed order of the modules that are only run is not. -/
theorem compareImports_eq_nil_iff_rearranged :
    compareImports ⟨"a.ts", {}, Text.similarity⟩
        (importModel
          [importOf "m" ["a", "b"] ["T"], importOf "x" [] [], importOf "y" [] []])
        (importModel
          [importOf "x" [] [], importOf "y" [] [], importOf "m" ["b", "a"] [],
           importOf "m" [] ["T"]]) = .ok [] ∧
      compareImports ⟨"a.ts", {}, Text.similarity⟩
        (importModel [importOf "x" [] [], importOf "y" [] []])
        (importModel [importOf "y" [] [], importOf "x" [] []]) ≠ .ok [] := by
  constructor
  · refine (compareImports_eq_nil_iff _ _ _).2 ?_
    -- The statement of `m` passes the two others, is split into values and types, and its values
    -- are restated in the other order.
    have hsplit : Rearranged [importOf "m" ["a", "b"] ["T"]]
        [importOf "m" ["a", "b"] [], importOf "m" [] ["T"]] :=
      .split ⟨by decide, List.Perm.refl _, by decide, by decide, by decide⟩
    have hrestate : Rearranged [importOf "m" ["a", "b"] []] [importOf "m" ["b", "a"] []] :=
      .restate rfl rfl (List.Perm.swap _ _ _)
    have hpast (site : ImportSite) :
        Rearranged [importOf "m" ["a", "b"] ["T"], site] [site, importOf "m" ["a", "b"] ["T"]] :=
      .swap (Or.inl (by decide))
    exact ((hpast (importOf "x" [] [])).append (.refl [importOf "y" [] []])).trans
      ((Rearranged.refl [importOf "x" [] []]).append
        ((hpast (importOf "y" [] [])).trans
          ((Rearranged.refl [importOf "y" [] []]).append
            (hsplit.trans (hrestate.append (.refl [importOf "m" [] ["T"]]))))))
  · -- Two modules that are only run may not be exchanged.
    intro hsilent
    rcases ((compareImports_eq_nil_iff _ _ _).1.1 hsilent).order with hsame | hother
    · exact absurd hsame (by decide)
    · exact hother (List.Perm.swap _ _ _)

end ChangeLens.Analyzer
