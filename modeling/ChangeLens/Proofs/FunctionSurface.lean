import ChangeLens.Analyzer.Functions
import ChangeLens.Proofs.FirstFit
import ChangeLens.Proofs.Selection
import ChangeLens.Text.Distance

/-!
# `ChangeLens.Proofs.FunctionSurface`: when the functions of two versions count as equal

`compareFunctions` pairs the named functions of two versions by identity and reports what callers
see of a pair, check by check. `SurfaceAgrees` gathers what all checks together ask of a pair, and
`functionChanges_eq_nil` proves that no check reports anything exactly then. Functions without a
partner are always reported, be it as a rename (`functionLeftovers_eq_nil`).

`compareFunctions_eq_nil_iff` puts both together: nothing is reported exactly if both versions have
the same identities equally often and the functions of equal rank among those of one identity agree.
What `FunctionSite.stripped` takes off a function (the names and default values of its parameters,
its body and the signature that shows them) can therefore be anything.
-/

set_option autoImplicit false

namespace ChangeLens

/-- A function without the names and default values of its parameters and without its body. The
signature goes with them, because it spells the parameters out. -/
def FunctionSite.stripped (site : FunctionSite) : FunctionSite :=
  { site with
    parameters := site.parameters.map fun parameter =>
      { parameter with name := "", hasDefault := false }
    bodyText := ""
    signature := "" }

namespace Analyzer

open ChangeLens.Pairing

/-- The keys that the parameter at a position takes apart, if both the position and an object pattern
in it exist. -/
def keysAt? (site : FunctionSite) (position : Nat) : Option (List String) :=
  site.parameters[position]?.bind Parameter.destructured

/-- What callers see of a function is the same in both versions. -/
structure SurfaceAgrees (before after : FunctionSite) : Prop where
  /-- The return type is the same. -/
  returnType : before.returnType = after.returnType
  /-- Parameter by parameter, type, question mark and rest mark are the same. -/
  shapes :
    (before.parameters.map fun parameter =>
        (parameter.typeText, parameter.optional, parameter.rest)) =
      after.parameters.map fun parameter =>
        (parameter.typeText, parameter.optional, parameter.rest)
  /-- Where both sides take a parameter apart, they take the same keys. -/
  keys : ∀ position old new, keysAt? before position = some old → keysAt? after position = some new →
    ∀ key, key ∈ old ↔ key ∈ new
  /-- Type parameter by type parameter, constraint and default are the same. -/
  generics :
    (before.typeParameters.map fun parameter => (parameter.constraint, parameter.default)) =
      after.typeParameters.map fun parameter => (parameter.constraint, parameter.default)
  /-- There are equally many overload signatures. -/
  overloads : before.overloads = after.overloads
  /-- Both are async or neither is. -/
  isAsync : before.isAsync = after.isAsync
  /-- The complexities differ by three at most. -/
  complexity : after.complexity ≤ before.complexity + 3 ∧ before.complexity ≤ after.complexity + 3

/-! ### The checks of a pair -/

section Checks

variable {target : Target} {base head : FunctionSite}

/-- Shapes are the same exactly if types, question marks and rest marks are. -/
theorem map_shape_eq_iff {before after : List Parameter} :
    before.map Parameter.shape = after.map Parameter.shape ↔
      (before.map fun parameter => (parameter.typeText, parameter.optional, parameter.rest)) =
        after.map fun parameter => (parameter.typeText, parameter.optional, parameter.rest) := by
  -- A shape is these three under other names, so both sides are one map behind the other.
  let ofTriple (triple : String × Bool × Bool) : ParameterShape :=
    ⟨triple.1, triple.2.1, triple.2.2⟩
  let toTriple (shape : ParameterShape) : String × Bool × Bool :=
    (shape.typeText, shape.optional, shape.rest)
  constructor
  · intro hshapes
    have htriples := congrArg (List.map toTriple) hshapes
    rw [List.map_map, List.map_map] at htriples
    exact htriples
  · intro htriples
    have hshapes := congrArg (List.map ofTriple) htriples
    rw [List.map_map, List.map_map] at hshapes
    exact hshapes

/-- Return type and parameters are reported unless the return type and all shapes are the same. -/
theorem shapeChanges_eq_nil :
    shapeChanges target base head = [] ↔
      base.returnType = head.returnType ∧
        (base.parameters.map fun parameter =>
            (parameter.typeText, parameter.optional, parameter.rest)) =
          head.parameters.map fun parameter =>
            (parameter.typeText, parameter.optional, parameter.rest) := by
  rw [← map_shape_eq_iff]
  unfold shapeChanges
  split <;> simp_all

/-- Two key lists are reported unless they are the same as sets. -/
theorem keyChanges_eq_nil {position : Nat} {before after : Parameter} :
    keyChanges target head position before after = [] ↔
      ∀ old new, before.destructured = some old → after.destructured = some new →
        ∀ key, key ∈ old ↔ key ∈ new := by
  unfold keyChanges
  split
  · rename_i old new hold hnew
    rw [List.append_eq_nil_iff, List.map_eq_nil_iff, List.map_eq_nil_iff, sortedWithout_eq_nil,
      sortedWithout_eq_nil]
    constructor
    · rintro ⟨hgone, hcame⟩ old' new' hold' hnew' key
      cases hold.symm.trans hold'
      cases hnew.symm.trans hnew'
      exact ⟨hgone key, hcame key⟩
    · intro hsame
      exact ⟨fun key => (hsame old new hold hnew key).1, fun key => (hsame old new hold hnew key).2⟩
  · -- One of the two parameters is not destructured, so there are no keys to compare.
    rename_i hmissing
    simp only [true_iff]
    intro old new hold hnew
    exact absurd hnew (hmissing old new hold)

/-- A position is looked at exactly if both sides have a parameter there. -/
theorem mem_zipIdx_zip {before after : Parameter} {position : Nat} :
    ((before, after), position) ∈ (base.parameters.zip head.parameters).zipIdx ↔
      base.parameters[position]? = some before ∧ head.parameters[position]? = some after := by
  rw [List.mem_zipIdx_iff_getElem?, List.getElem?_zip_eq_some]

/-- Destructured parameters are not reported exactly if the keys at each place that both have are
the same. -/
theorem destructuredChanges_eq_nil :
    destructuredChanges target base head = [] ↔
      ∀ position old new, keysAt? base position = some old → keysAt? head position = some new →
        ∀ key, key ∈ old ↔ key ∈ new := by
  unfold destructuredChanges
  rw [List.flatMap_eq_nil_iff]
  constructor
  · -- Places that both versions have are the pairs of the zipped lists.
    intro hsilent position old new hold hnew
    obtain ⟨before, hbefore, hold⟩ := Option.bind_eq_some_iff.1 hold
    obtain ⟨after, hafter, hnew⟩ := Option.bind_eq_some_iff.1 hnew
    have hpair := hsilent ((before, after), position) (mem_zipIdx_zip.2 ⟨hbefore, hafter⟩)
    exact keyChanges_eq_nil.1 hpair old new hold hnew
  · rintro hsame ⟨⟨before, after⟩, position⟩ hmem
    obtain ⟨hbefore, hafter⟩ := mem_zipIdx_zip.1 hmem
    show keyChanges target head position before after = []
    rw [keyChanges_eq_nil]
    intro old new hold hnew
    exact hsame position old new (by simp [keysAt?, hbefore, hold]) (by simp [keysAt?, hafter, hnew])

/-- Type parameters are reported unless all constraints and defaults are the same. -/
theorem genericChanges_eq_nil :
    genericChanges target base head = [] ↔
      (base.typeParameters.map fun parameter => (parameter.constraint, parameter.default)) =
        head.typeParameters.map fun parameter => (parameter.constraint, parameter.default) := by
  unfold genericChanges genericSurface
  split <;> simp_all

/-- Overloads are not reported exactly if there are as many. -/
theorem overloadChanges_eq_nil :
    overloadChanges target base head = [] ↔ base.overloads = head.overloads := by
  unfold overloadChanges
  split <;> simp_all

/-- A function is not reported as asynchronous or synchronous exactly if it stays so. -/
theorem asyncChanges_eq_nil :
    asyncChanges target base head = [] ↔ base.isAsync = head.isAsync := by
  unfold asyncChanges
  cases base.isAsync <;> cases head.isAsync <;> simp

/-- The complexity is not reported exactly if it has changed by at most three. -/
theorem complexityChanges_eq_nil :
    complexityChanges target base head = [] ↔
      head.complexity ≤ base.complexity + 3 ∧ base.complexity ≤ head.complexity + 3 := by
  have hwithin : difference head.complexity base.complexity ≤ complexityTolerance ↔
      head.complexity ≤ base.complexity + 3 ∧ base.complexity ≤ head.complexity + 3 := by
    show head.complexity - base.complexity + (base.complexity - head.complexity) ≤ 3 ↔ _
    omega
  unfold complexityChanges
  rw [← hwithin]
  split <;> simp_all

/-- Nothing is reported about a pair exactly if its surfaces agree. -/
theorem functionChanges_eq_nil :
    functionChanges target base head = [] ↔ SurfaceAgrees base head := by
  unfold functionChanges
  simp only [List.append_eq_nil_iff, shapeChanges_eq_nil, destructuredChanges_eq_nil,
    genericChanges_eq_nil, overloadChanges_eq_nil, asyncChanges_eq_nil, complexityChanges_eq_nil]
  constructor
  · rintro ⟨⟨⟨⟨⟨⟨returnType, shapes⟩, keys⟩, generics⟩, overloads⟩, isAsync⟩, complexity⟩
    exact ⟨returnType, shapes, keys, generics, overloads, isAsync, complexity⟩
  · rintro ⟨returnType, shapes, keys, generics, overloads, isAsync, complexity⟩
    exact ⟨⟨⟨⟨⟨⟨returnType, shapes⟩, keys⟩, generics⟩, overloads⟩, isAsync⟩, complexity⟩

end Checks

/-! ### Functions without a partner -/

/-- A function without a partner is reported. A rename replaces two reports by one, never by none. -/
theorem functionLeftovers_eq_nil {target : Target} {removed added : List FunctionSite} :
    functionLeftovers target removed added = [] ↔ removed = [] ∧ added = [] := by
  simp only [functionLeftovers]
  split
  · rename_i old new
    cases functionRename? target old new <;> simp
  · rw [List.append_eq_nil_iff, List.map_eq_nil_iff, List.map_eq_nil_iff]

/-! ### All functions -/

/-- Both versions have the same identities equally often, and the functions of equal rank among those
of one identity agree. -/
structure SameSurface (before after : List FunctionSite) : Prop where
  identities : (before.map FunctionSite.identity).Perm (after.map FunctionSite.identity)
  surfaces : ∀ identity (rank : Nat) b h,
    (ofKey FunctionSite.identity identity before)[rank]? = some b →
      (ofKey FunctionSite.identity identity after)[rank]? = some h → SurfaceAgrees b h

/-- The pairs are the functions of equal rank among those of one identity. -/
theorem flatMap_functionChanges_eq_nil {target : Target} {before after : List FunctionSite} :
    ((pairBy FunctionSite.identity before after).pairs.flatMap fun (b, h) =>
        functionChanges target b h) = [] ↔
      ∀ identity (rank : Nat) b h,
        (ofKey FunctionSite.identity identity before)[rank]? = some b →
          (ofKey FunctionSite.identity identity after)[rank]? = some h → SurfaceAgrees b h := by
  rw [List.flatMap_eq_nil_iff]
  constructor
  · -- Functions are paired by identity in their order, so a pair is an identity and a rank.
    intro hsilent identity rank b h hb hh
    have hpair : (b, h) ∈ (pairBy FunctionSite.identity before after).pairs := by
      refine mem_pairs_pairBy.2 ⟨identity, List.mem_iff_getElem?.2 ⟨rank, ?_⟩⟩
      rw [List.getElem?_zip_eq_some]
      exact ⟨hb, hh⟩
    exact functionChanges_eq_nil.1 (hsilent (b, h) hpair)
  · rintro hagree ⟨b, h⟩ hpair
    obtain ⟨identity, hzip⟩ := mem_pairs_pairBy.1 hpair
    obtain ⟨rank, hrank⟩ := List.mem_iff_getElem?.1 hzip
    obtain ⟨hb, hh⟩ := List.getElem?_zip_eq_some.1 hrank
    exact functionChanges_eq_nil.2 (hagree identity rank b h hb hh)

/-- No function is reported exactly if the last function of each identity has the same surface. -/
theorem compareFunctions_eq_nil {target : Target} {base head : Model} :
    compareFunctions target base head = [] ↔
      SameSurface base.namedFunctions head.namedFunctions := by
  simp only [compareFunctions, List.append_eq_nil_iff, functionLeftovers_eq_nil,
    pairBy_eq_nil_iff, flatMap_functionChanges_eq_nil]
  constructor
  · rintro ⟨hsurfaces, hidentities⟩
    exact ⟨hidentities, hsurfaces⟩
  · rintro ⟨hidentities, hsurfaces⟩
    exact ⟨hsurfaces, hidentities⟩

/-! ### What does not matter -/

/-- Stripping shows the same surface. -/
theorem surfaceAgrees_stripped {before after : FunctionSite} :
    SurfaceAgrees before.stripped after.stripped ↔ SurfaceAgrees before after := by
  -- Nothing of the surface is read from the body that is left out.
  have hshapes (site : FunctionSite) :
      (site.stripped.parameters.map fun parameter =>
          (parameter.typeText, parameter.optional, parameter.rest)) =
        site.parameters.map fun parameter =>
          (parameter.typeText, parameter.optional, parameter.rest) := by
    simp [FunctionSite.stripped]
  have hkeys (site : FunctionSite) : keysAt? site.stripped = keysAt? site := by
    funext position
    show ((site.parameters.map _)[position]?).bind Parameter.destructured = _
    rw [List.getElem?_map, Option.bind_map]
    rfl
  constructor
  · rintro ⟨returnType, shapes, keys, generics, overloads, isAsync, complexity⟩
    rw [hshapes, hshapes] at shapes
    rw [hkeys, hkeys] at keys
    exact ⟨returnType, shapes, keys, generics, overloads, isAsync, complexity⟩
  · rintro ⟨returnType, shapes, keys, generics, overloads, isAsync, complexity⟩
    rw [← hshapes, ← hshapes after] at shapes
    rw [← hkeys, ← hkeys after] at keys
    exact ⟨returnType, shapes, keys, generics, overloads, isAsync, complexity⟩

/-- Leaving out the bodies does not change which functions have an identity. -/
theorem ofKey_map_stripped (identity : String) (sites : List FunctionSite) :
    ofKey FunctionSite.identity identity (sites.map FunctionSite.stripped) =
      (ofKey FunctionSite.identity identity sites).map FunctionSite.stripped := by
  rw [ofKey, List.filter_map]
  rfl

/-- Whether functions agree can be seen on the stripped ones. -/
theorem sameSurface_stripped (before after : List FunctionSite) :
    SameSurface (before.map FunctionSite.stripped) (after.map FunctionSite.stripped) ↔
      SameSurface before after := by
  -- The functions of an identity are the stripped functions of this identity, at the same ranks.
  have hidentities (sites : List FunctionSite) :
      (sites.map FunctionSite.stripped).map FunctionSite.identity =
        sites.map FunctionSite.identity := by
    rw [List.map_map]
    rfl
  constructor
  · rintro ⟨identities, surfaces⟩
    rw [hidentities, hidentities] at identities
    refine ⟨identities, fun identity rank b h hb hh => ?_⟩
    rw [← surfaceAgrees_stripped]
    refine surfaces identity rank _ _ ?_ ?_
    · rw [ofKey_map_stripped, List.getElem?_map, hb, Option.map_some]
    · rw [ofKey_map_stripped, List.getElem?_map, hh, Option.map_some]
  · rintro ⟨identities, surfaces⟩
    rw [← hidentities, ← hidentities after] at identities
    refine ⟨identities, fun identity rank b h hb hh => ?_⟩
    rw [ofKey_map_stripped, List.getElem?_map] at hb hh
    obtain ⟨b', hb', rfl⟩ := Option.map_eq_some_iff.1 hb
    obtain ⟨h', hh', rfl⟩ := Option.map_eq_some_iff.1 hh
    exact surfaceAgrees_stripped.2 (surfaces identity rank b' h' hb' hh')

/-- Having a name survives stripping. -/
theorem namedFunctions_stripped (model : Model) :
    model.namedFunctions.map FunctionSite.stripped =
      (model.functions.map FunctionSite.stripped).filter (!·.isAnonymous) := by
  rw [Model.namedFunctions, List.filter_map]
  rfl

/-- Nothing is reported about functions exactly if the named ones of both versions have the same
identities equally often and, of each identity, the first agrees with the first, the second with the
second and so on. So the names and default values of parameters and the bodies never matter: with
others in their place, on either side, the answer is the same. -/
theorem compareFunctions_eq_nil_iff (target : Target) (base head : Model) :
    (compareFunctions target base head = [] ↔
      SameSurface base.namedFunctions head.namedFunctions) ∧
    ∀ base' head' : Model,
      base'.functions.map FunctionSite.stripped = base.functions.map FunctionSite.stripped →
      head'.functions.map FunctionSite.stripped = head.functions.map FunctionSite.stripped →
        (compareFunctions target base' head' = [] ↔ compareFunctions target base head = []) := by
  refine ⟨compareFunctions_eq_nil, ?_⟩
  intro base' head' hbase hhead
  rw [compareFunctions_eq_nil, compareFunctions_eq_nil,
    ← sameSurface_stripped base.namedFunctions head.namedFunctions,
    ← sameSurface_stripped base'.namedFunctions head'.namedFunctions]
  simp only [namedFunctions_stripped, hbase, hhead]

/-- A function of two parameters, the second of which is taken apart. -/
def loadSite (parameter : String) (hasDefault : Bool) (keys : List String) (body : String) :
    FunctionSite where
  name := "load"
  identity := "load|global|I:pub"
  context := .topLevel
  span := .fileStart
  parameters :=
    [{ name := parameter, typeText := "string", hasDefault := hasDefault },
     { name := "options", destructured := some keys }]
  bodyText := body

/-- A model of two functions with one identity. -/
def loadModel (parameter : String) (hasDefault : Bool) (body : String) : Model where
  dialect := "typescript"
  text := ""
  functions :=
    [loadSite parameter hasDefault ["x", "y"] body, loadSite parameter hasDefault ["x"] body]

/-- Another parameter name, a default value and another body are silent; the two functions in the
other order are not, because the first is then compared with the second. -/
theorem compareFunctions_eq_nil_iff_load :
    compareFunctions ⟨"a.ts", {}, Text.similarity⟩ (loadModel "a" false "\x7b\x7d")
        (loadModel "b" true "\x7b return b; \x7d") = [] ∧
      ¬ SameSurface (loadModel "a" false "\x7b\x7d").namedFunctions
        (loadModel "a" false "\x7b\x7d").namedFunctions.reverse := by
  constructor
  · refine ((compareFunctions_eq_nil_iff ⟨"a.ts", {}, Text.similarity⟩
      (loadModel "a" false "\x7b\x7d") (loadModel "a" false "\x7b\x7d")).2 _ _ rfl (by decide)).2 ?_
    decide +kernel
  · intro hsame
    have hkeys := (hsame.surfaces "load|global|I:pub" 0 _ _ rfl rfl).keys 1 _ _ rfl rfl "y"
    exact absurd hkeys (by decide)

end Analyzer

end ChangeLens
