import ChangeLens.Proofs.SignatureFallbacks
import ChangeLens.Proofs.Walks

/-!
# `ChangeLens.Proofs.Overloads`: which signatures count for a function

A signature without a body gives no site; it is counted on the functions that share its identity.
`OverloadAs` says what it takes to overload an implementation: the right kind of node, the declared
name, and the context, static flag and visibility of the implementation.

An identity is a text made of these four. Where names have no bar and visibilities are keywords
(`PlainlyNamed`) it can be taken apart again (`identityText_eq_iff`), so the signatures with the
identity of a site are the overloads under the name of the site (`signaturesOf_eq_overloadsOf`). The
name of the site is the declared one, except for constructors: their sites carry the name of the
class, their signatures do not. So no overload of a constructor has its identity
(`OverloadAs.ne_identity`).

`overloads_counted` puts this together, and `constructor_overload_lost` shows a class in which the
signature of a constructor is lost.
-/

set_option autoImplicit false

namespace ChangeLens

/-! ### Identities taken apart -/

namespace FunctionContext

/-- The word for a kind of context has no colon. -/
theorem colon_notMem_kindName (context : FunctionContext) : ':' ∉ context.kindName.toList := by
  have hword (kind : ContainerKind) : ':' ∉ kind.name.toList := by cases kind <;> decide
  cases context with
  | topLevel => decide
  | inside kind name => exact hword kind

/-- A context is known by its word and the name of its container; an empty name counts as none. -/
theorem eq_of_kindName_eq {context other : FunctionContext}
    (hkind : context.kindName = other.kindName)
    (hname : context.namedContainer? = other.namedContainer?) : context = other := by
  -- The words are all different, and none of them is that of the top level.
  have hword : ∀ kind kind' : ContainerKind, kind.name = kind'.name → kind = kind' := by
    intro kind kind'
    cases kind <;> cases kind' <;> decide
  have hglobal (kind : ContainerKind) : kind.name ≠ "global" := by cases kind <;> decide
  -- A container without a name is shown like one whose name is empty.
  have hshown (kind : ContainerKind) (name : String) :
      (inside kind name).namedContainer?.getD "" = name := by
    by_cases h : name = "" <;> simp [namedContainer?, container?, Option.filter, h]
  cases context with
  | topLevel =>
    cases other with
    | topLevel => rfl
    | inside kind' name' => exact absurd hkind.symm (hglobal kind')
  | inside kind name =>
    cases other with
    | topLevel => exact absurd hkind (hglobal kind)
    | inside kind' name' => rw [hword kind kind' hkind, ← hshown kind name, hname, hshown]

/-- A context is shown as its kind, and its name behind a colon if it has one. -/
theorem toList_render (context : FunctionContext) :
    context.render.toList =
      context.kindName.toList ++ context.namedContainer?.elim [] (':' :: ·.toList) := by
  unfold render
  cases context.namedContainer? with
  | none => simp
  | some name => simp

/-- The text of a context starts with its word, up to the colon if there is one. -/
theorem takeWhile_render (context : FunctionContext) :
    context.render.toList.takeWhile (· != ':') = context.kindName.toList := by
  rw [toList_render]
  cases context.namedContainer? with
  | none =>
    rw [Option.elim_none, List.append_nil, List.takeWhile_eq_self_iff]
    exact Text.ne_of_notMem context.colon_notMem_kindName
  | some name => exact Text.takeWhile_ne_append context.colon_notMem_kindName _

/-- A context can be read off its text. -/
theorem render_injective : Function.Injective render := by
  intro context other h
  have hkind : context.kindName = other.kindName := by
    rw [← String.toList_inj, ← takeWhile_render, h, takeWhile_render]
  refine eq_of_kindName_eq hkind ?_
  -- Behind the words, which are equal, there is a colon and a name, or nothing.
  rw [← String.toList_inj, toList_render, toList_render, hkind, List.append_right_inj] at h
  cases hname : context.namedContainer? with
  | none =>
    cases hother : other.namedContainer? with
    | none => rfl
    | some name' => simp [hname, hother] at h
  | some name =>
    cases hother : other.namedContainer? with
    | none => simp [hname, hother] at h
    | some name' => simpa [hname, hother, String.toList_inj] using h

end FunctionContext

namespace Extract

/-- The visibility as it stands in an identity. -/
def shownVisibility (visibility : Option String) : String :=
  (visibility.filter (!·.isEmpty)).getD "pub"

/-- The parts of an identity, with bars between them. -/
theorem toList_identityText (name : String) (context : FunctionContext) (modifiers : Modifiers) :
    (identityText name context modifiers).toList =
      name.toList ++ '|' :: (context.render.toList ++ '|' ::
        (if modifiers.isStatic then 'S' else 'I') :: ':' ::
          (shownVisibility modifiers.visibility).toList) := by
  cases h : modifiers.isStatic <;> simp [identityText, shownVisibility, h]

/-- A text is cut where a character last occurs. -/
theorem parts_eq_of_cut_last {d : Char} {front front' back back' : List Char} (hback : d ∉ back)
    (hback' : d ∉ back') (h : front ++ d :: back = front' ++ d :: back') :
    front = front' ∧ back = back' := by
  have hreverse := congrArg List.reverse h
  simp only [List.reverse_append, List.reverse_cons, List.append_assoc, List.singleton_append]
    at hreverse
  have hsame : back.reverse = back'.reverse := by
    have hcut := Text.takeWhile_ne_append (mt List.mem_reverse.1 hback) front.reverse
    rwa [hreverse, Text.takeWhile_ne_append (mt List.mem_reverse.1 hback'), eq_comm] at hcut
  obtain rfl : back = back' := List.reverse_injective hsame
  exact ⟨List.append_cancel_right h, rfl⟩

/-- Names and visibilities without a bar leave identities that can be taken apart. -/
theorem identityText_eq_iff {name other : String} {context context' : FunctionContext}
    {modifiers modifiers' : Modifiers} (hname : '|' ∉ name.toList) (hother : '|' ∉ other.toList)
    (hvisible : '|' ∉ (shownVisibility modifiers.visibility).toList)
    (hvisible' : '|' ∉ (shownVisibility modifiers'.visibility).toList) :
    identityText name context modifiers = identityText other context' modifiers' ↔
      name = other ∧ context = context' ∧ modifiers.isStatic = modifiers'.isStatic ∧
        shownVisibility modifiers.visibility = shownVisibility modifiers'.visibility := by
  -- The flags have no bar, which is why the last bar is the one in front of them.
  have hflags {modifiers : Modifiers} (h : '|' ∉ (shownVisibility modifiers.visibility).toList) :
      '|' ∉ (if modifiers.isStatic then 'S' else 'I') :: ':' ::
        (shownVisibility modifiers.visibility).toList := by
    cases modifiers.isStatic <;> simp [h]
  constructor
  · intro h
    have hsame : name = other := name_eq_of_identityText_eq hname hother h
    rw [← String.toList_inj, toList_identityText, toList_identityText, hsame, List.append_right_inj,
      List.cons_inj_right] at h
    -- Contexts may hold bars, so the flags are cut off at the last bar and not at the next one.
    obtain ⟨hcontext, hrest⟩ := parts_eq_of_cut_last (hflags hvisible) (hflags hvisible') h
    obtain ⟨hstatic, hshown⟩ := List.cons.inj hrest
    refine ⟨hsame, FunctionContext.render_injective (String.toList_inj.1 hcontext), ?_,
      String.toList_inj.1 (List.cons.inj hshown).2⟩
    revert hstatic
    cases modifiers.isStatic <;> cases modifiers'.isStatic <;> decide
  · rintro ⟨rfl, rfl, hstatic, hshown⟩
    rw [← String.toList_inj, toList_identityText, toList_identityText, hstatic, hshown]

/-! ### Overloads of an implementation -/

/-- The name that a declaration is written with. -/
def declaredName? (source : Source) (node : Tree) : Option String :=
  (node.field? "name").map source.textOf

/-- A declared name is the text of the name. -/
theorem textOf?_of_declared {source : Source} {node : Tree} {name : String}
    (h : declaredName? source node = some name) : source.textOf? (node.field? "name") = name := by
  obtain ⟨child, hchild, rfl⟩ := Option.map_eq_some_iff.1 h
  rw [hchild]
  rfl

/-- Whether a signature is of the kind that overloads an implementation: function signatures go with
function declarations, method signatures in the body of a class with methods. -/
def fits (implementation signature : Cursor) : Bool :=
  (implementation.kind == "function_declaration" && signature.kind == "function_signature") ||
    (implementation.kind == "method_definition" && signature.kind == "method_signature" &&
      signature.parent?.any (·.kind == "class_body"))

/-- Whether a node is a signature that is counted: a function signature, or a method signature in the
body of a class. -/
def isSignature (signature : Cursor) : Bool :=
  signature.kind == "function_signature" ||
    (signature.kind == "method_signature" && signature.parent?.any (·.kind == "class_body"))

/-- A signature without a body that overloads an implementation under a name. -/
structure OverloadAs (source : Source) (name : String) (implementation signature : Cursor) :
    Prop where
  /-- It is a rule of the grammar. -/
  named : signature.node.label.named = true
  /-- It is of the right kind. -/
  fits : fits implementation signature = true
  /-- It declares the name. -/
  name : declaredName? source signature.node = some name
  /-- Both stand in the same context. -/
  context : contextOf source signature.ancestors = contextOf source implementation.ancestors
  /-- Both or none are static. -/
  isStatic : (modifiersAt source signature).isStatic = (modifiersAt source implementation).isStatic
  /-- Both have the same visibility. -/
  visibility : (modifiersAt source signature).visibility =
    (modifiersAt source implementation).visibility

instance (source : Source) (name : String) (implementation signature : Cursor) :
    Decidable (OverloadAs source name implementation signature) :=
  decidable_of_iff
    (signature.node.label.named = true ∧ fits implementation signature = true ∧
      declaredName? source signature.node = some name ∧
      contextOf source signature.ancestors = contextOf source implementation.ancestors ∧
      (modifiersAt source signature).isStatic = (modifiersAt source implementation).isStatic ∧
      (modifiersAt source signature).visibility = (modifiersAt source implementation).visibility)
    ⟨fun ⟨h₁, h₂, h₃, h₄, h₅, h₆⟩ => ⟨h₁, h₂, h₃, h₄, h₅, h₆⟩,
      fun ⟨h₁, h₂, h₃, h₄, h₅, h₆⟩ => ⟨h₁, h₂, h₃, h₄, h₅, h₆⟩⟩

/-- All signatures of a source that overload an implementation under a name, in pre-order. -/
def overloadsOf (source : Source) (name : String) (implementation : Cursor) : List Cursor :=
  source.cursors.filter (OverloadAs source name implementation ·)

/-- All signatures of a source that have an identity, in pre-order. -/
def signaturesOf (source : Source) (identity : String) : List Cursor :=
  (namedCursors source).filter (overloadAt? source · == some identity)

/-- The site of a function, with its overloads counted. -/
def functionSite (source : Source) (cursor : Cursor) : FunctionSite :=
  { functionAt source cursor with
    overloads := (overloads source).count (functionAt source cursor).identity }

/-- The identity of a function is made of its name, its context and its flags. -/
theorem identity_functionSite (source : Source) (cursor : Cursor) :
    (functionSite source cursor).identity =
      identityText (nameAt source cursor) (contextOf source cursor.ancestors)
        (modifiersAt source cursor) := rfl

/-- The functions of a source are those of its nodes of function kinds. -/
theorem functions_eq_map_functionSite (source : Source) :
    functions source =
      ((namedCursors source).filter (Source.isFunctionKind ·.kind)).map (functionSite source) := rfl

/-- The count of a site is the number of the signatures with its identity. -/
theorem overloads_functionSite (source : Source) (cursor : Cursor) :
    (functionSite source cursor).overloads =
      (signaturesOf source (functionSite source cursor).identity).length := by
  change (overloads source).count _ = _
  rw [overloads, List.count_filterMap, signaturesOf, ← List.countP_eq_length_filter]
  rfl

/-- Some of these signatures are as many as the count says exactly if there are no others. -/
theorem overloads_eq_length_iff {source : Source} {cursor : Cursor} {group : List Cursor}
    (h : group.Sublist (signaturesOf source (functionSite source cursor).identity)) :
    (functionSite source cursor).overloads = group.length ↔
      signaturesOf source (functionSite source cursor).identity = group := by
  rw [overloads_functionSite]
  constructor
  · intro hlength
    exact (h.eq_of_length hlength.symm).symm
  · intro hsame
    rw [hsame]

/-- Every such node gives a function. -/
theorem mem_functions {source : Source} {cursor : Cursor} (hmem : cursor ∈ source.cursors)
    (hnamed : cursor.node.label.named = true) (hkind : Source.isFunctionKind cursor.kind = true) :
    functionSite source cursor ∈ functions source := by
  rw [functions_eq_map_functionSite]
  exact List.mem_map_of_mem (List.mem_filter.2 ⟨List.mem_filter.2 ⟨hmem, hnamed⟩, hkind⟩)

/-- A signature is read off its own node. -/
theorem overloadAt?_eq_some_iff {source : Source} {signature : Cursor} {identity : String} :
    overloadAt? source signature = some identity ↔
      isSignature signature = true ∧
        identityAt source (source.textOf? (signature.node.field? "name")) signature = identity := by
  unfold overloadAt? isSignature
  split <;> simp [*]

/-- What fits an implementation is a signature. -/
theorem isSignature_of_fits {implementation signature : Cursor}
    (h : fits implementation signature = true) : isSignature signature = true := by
  unfold fits at h
  unfold isSignature
  revert h
  cases signature.kind == "function_signature" <;> cases signature.kind == "method_signature" <;>
    simp

namespace OverloadAs

variable {source : Source} {name : String} {implementation signature : Cursor}

/-- An overload has the identity that the implementation would have under the name. -/
theorem overloadAt?_eq (h : OverloadAs source name implementation signature) :
    overloadAt? source signature =
      some (identityText name (contextOf source implementation.ancestors)
        (modifiersAt source implementation)) := by
  have hname : source.textOf? (signature.node.field? "name") = name := textOf?_of_declared h.name
  have hmodifiers : modifiersAt source signature = modifiersAt source implementation := by
    cases hsignature : modifiersAt source signature
    cases himplementation : modifiersAt source implementation
    have hstatic := h.isStatic
    have hvisibility := h.visibility
    rw [hsignature, himplementation] at hstatic hvisibility
    exact congr (congrArg Modifiers.mk hstatic) hvisibility
  rw [overloadAt?_eq_some_iff, identityAt, h.context, hmodifiers, hname]
  exact ⟨isSignature_of_fits h.fits, rfl⟩

/-- An overload under another name than that of the site has another identity. -/
theorem ne_identity (h : OverloadAs source name implementation signature)
    (hname : nameAt source implementation ≠ name) :
    overloadAt? source signature ≠ some (functionSite source implementation).identity := by
  rw [h.overloadAt?_eq, identity_functionSite]
  intro hsame
  have htexts := congrArg String.toList (Option.some.inj hsame)
  rw [toList_identityText, toList_identityText, List.append_left_inj, String.toList_inj] at htexts
  exact hname htexts.symm

end OverloadAs

/-- Overloads under the name of the site are counted. -/
theorem overloadsOf_sublist (source : Source) (implementation : Cursor) :
    (overloadsOf source (nameAt source implementation) implementation).Sublist
      (signaturesOf source (functionSite source implementation).identity) := by
  rw [overloadsOf, signaturesOf, namedCursors, List.filter_filter]
  refine List.monotone_filter_right _ fun signature h => ?_
  have hoverload := of_decide_eq_true h
  rw [hoverload.overloadAt?_eq, hoverload.named, identity_functionSite]
  simp

/-! ### Plain names -/

/-- A visibility is absent or one of the keywords. -/
def IsKeyword (visibility : Option String) : Prop :=
  visibility ∈ [none, some "public", some "protected", some "private"]

namespace IsKeyword

variable {visibility visibility' : Option String}

instance : Decidable (IsKeyword visibility) :=
  inferInstanceAs (Decidable (visibility ∈ [none, some "public", some "protected", some "private"]))

/-- No keyword has a bar. -/
theorem bar_notMem (h : IsKeyword visibility) : '|' ∉ (shownVisibility visibility).toList := by
  revert visibility
  unfold IsKeyword
  decide

/-- Keywords stay apart from each other and from no visibility at all. -/
theorem eq_of_shown_eq (h : IsKeyword visibility) (h' : IsKeyword visibility')
    (hshown : shownVisibility visibility = shownVisibility visibility') :
    visibility = visibility' := by
  have hall : ∀ v ∈ [none, some "public", some "protected", some "private"],
      ∀ v' ∈ [none, some "public", some "protected", some "private"],
        shownVisibility v = shownVisibility v' → v = v' := by
    decide
  exact hall visibility h visibility' h' hshown

end IsKeyword

/-- The name of the implementation and the names of all signatures have no bar, and all
visibilities are keywords. -/
structure PlainlyNamed (source : Source) (implementation : Cursor) : Prop where
  /-- No bar in the name of the site. -/
  name : '|' ∉ (nameAt source implementation).toList
  /-- The implementation has a common visibility. -/
  visibility : IsKeyword (modifiersAt source implementation).visibility
  /-- Signatures have a name, without a bar. -/
  signatureName : ∀ signature ∈ namedCursors source, isSignature signature = true →
    ∃ name ∈ declaredName? source signature.node, '|' ∉ name.toList
  /-- Signatures have a common visibility. -/
  signatureVisibility : ∀ signature ∈ namedCursors source, isSignature signature = true →
    IsKeyword (modifiersAt source signature).visibility

instance (source : Source) (implementation : Cursor) :
    Decidable (PlainlyNamed source implementation) :=
  decidable_of_iff
    ('|' ∉ (nameAt source implementation).toList ∧
      IsKeyword (modifiersAt source implementation).visibility ∧
      (∀ signature ∈ namedCursors source, isSignature signature = true →
        ∃ name ∈ declaredName? source signature.node, '|' ∉ name.toList) ∧
      ∀ signature ∈ namedCursors source, isSignature signature = true →
        IsKeyword (modifiersAt source signature).visibility)
    ⟨fun ⟨h₁, h₂, h₃, h₄⟩ => ⟨h₁, h₂, h₃, h₄⟩, fun ⟨h₁, h₂, h₃, h₄⟩ => ⟨h₁, h₂, h₃, h₄⟩⟩

/-- Members of classes have a visibility, functions have none. -/
theorem isSome_visibility {source : Source} {cursor : Cursor}
    (h : cursor.kind ≠ "arrow_function") (h' : cursor.kind ≠ "function_expression") :
    (modifiersAt source cursor).visibility.isSome =
      (cursor.kind == "method_definition" || cursor.kind == "method_signature") := by
  rw [modifiersAt, modifierHolder?, if_neg (by simp [h, h'])]
  cases cursor.kind == "method_definition" || cursor.kind == "method_signature" <;> rfl

/-- What is read as a signature is of the right kind for each implementation with its visibility. -/
theorem fits_of_visibility_eq {source : Source} {implementation signature : Cursor}
    (hkind : implementation.kind = "function_declaration" ∨
      implementation.kind = "method_definition")
    (hsignature : isSignature signature = true)
    (h : (modifiersAt source signature).visibility =
      (modifiersAt source implementation).visibility) :
    fits implementation signature = true := by
  -- A visibility is there for methods alone, so a function signature cannot meet a method.
  have hsome := congrArg Option.isSome h
  simp only [isSignature, Bool.or_eq_true, Bool.and_eq_true, beq_iff_eq] at hsignature
  obtain hfunction | ⟨hmethod, hclass⟩ := hsignature
  · rw [isSome_visibility (by simp [hfunction]) (by simp [hfunction]), hfunction] at hsome
    obtain hkind | hkind := hkind
    · simp [fits, hkind, hfunction]
    · rw [isSome_visibility (by simp [hkind]) (by simp [hkind]), hkind] at hsome
      simp at hsome
  · rw [isSome_visibility (by simp [hmethod]) (by simp [hmethod]), hmethod] at hsome
    obtain hkind | hkind := hkind
    · rw [isSome_visibility (by simp [hkind]) (by simp [hkind]), hkind] at hsome
      simp at hsome
    · simp [fits, hkind, hmethod, hclass]

/-- With plain names the signatures that are counted are the overloads under the name of the site. -/
theorem signaturesOf_eq_overloadsOf {source : Source} {implementation : Cursor}
    (h : PlainlyNamed source implementation)
    (hkind : implementation.kind = "function_declaration" ∨
      implementation.kind = "method_definition") :
    signaturesOf source (functionSite source implementation).identity =
      overloadsOf source (nameAt source implementation) implementation := by
  rw [signaturesOf, overloadsOf, namedCursors, List.filter_filter]
  refine List.filter_congr fun signature hmem => ?_
  rw [Bool.eq_iff_iff, Bool.and_eq_true, beq_iff_eq, decide_eq_true_iff]
  constructor
  · -- Without bars, an identity tells the name, the context and the flags it was made of.
    rintro ⟨hidentity, hnamed⟩
    obtain ⟨hsignature, hidentity⟩ := overloadAt?_eq_some_iff.1 hidentity
    have hmem : signature ∈ namedCursors source := List.mem_filter.2 ⟨hmem, hnamed⟩
    obtain ⟨name, hname, hbar⟩ := h.signatureName signature hmem hsignature
    have hkeyword := h.signatureVisibility signature hmem hsignature
    rw [textOf?_of_declared hname, identityAt, identity_functionSite, identityText_eq_iff hbar h.name
      hkeyword.bar_notMem h.visibility.bar_notMem] at hidentity
    obtain ⟨rfl, hcontext, hstatic, hshown⟩ := hidentity
    have hvisibility := hkeyword.eq_of_shown_eq h.visibility hshown
    exact ⟨hnamed, fits_of_visibility_eq hkind hsignature hvisibility, hname, hcontext, hstatic,
      hvisibility⟩
  · intro hoverload
    exact ⟨hoverload.overloadAt?_eq, hoverload.named⟩

/-! ### Names of sites -/

/-- The site of a function declaration or a method has its declared name. -/
theorem nameAt_of_declared {source : Source} {cursor : Cursor} {name : String}
    (hkind : cursor.kind = "function_declaration" ∨ cursor.kind = "method_definition")
    (hname : declaredName? source cursor.node = some name)
    (hother : ¬(cursor.kind = "method_definition" ∧ name = "constructor")) :
    nameAt source cursor = name := by
  unfold nameAt functionName
  obtain hkind | hkind := hkind
  · obtain ⟨child, hchild, rfl⟩ := Option.map_eq_some_iff.1 hname
    have hnode : cursor.node.kind = "function_declaration" := hkind
    simp [hnode, hchild, isFunctionExpression]
  · have hnode : cursor.node.kind = "method_definition" := hkind
    have hword : name ≠ "constructor" := fun h => hother ⟨hkind, h⟩
    simp [hnode, textOf?_of_declared hname, hword]

/-- The site of a constructor has the name of its class in front of its declared one. -/
theorem nameAt_constructor {source : Source} {cursor : Cursor}
    (hkind : cursor.kind = "method_definition")
    (hname : declaredName? source cursor.node = some "constructor") :
    nameAt source cursor =
      constructorName ((contextOf source cursor.ancestors).namedContainer?.getD "constructor") := by
  have hnode : cursor.node.kind = "method_definition" := hkind
  unfold nameAt functionName
  simp [hnode, textOf?_of_declared hname]

/-- A class name and a dot in front make another word. -/
theorem constructorName_ne (container : String) : constructorName container ≠ "constructor" := by
  intro h
  -- The container may be empty, but the dot is always there.
  have hlength := congrArg String.length h
  rw [constructorName, String.length_append] at hlength
  have hfixed : "constructor".length < ".constructor".length := by decide
  omega

/-! ### Siblings in front of an implementation -/

/-- The overloads among the siblings in front of an implementation. -/
def overloadsBefore (source : Source) (name : String) (parent : Cursor) (before : List Tree)
    (node : Tree) : List Cursor :=
  (before.map parent.down).filter (OverloadAs source name (parent.down node) ·)

/-- The signatures among the siblings in front are some of the overloads. -/
theorem overloadsBefore_sublist {source : Source} {parent : Cursor} {before after : List Tree}
    {node : Tree} (name : String) (hparent : parent ∈ source.cursors)
    (hchildren : parent.node.children = before ++ node :: after) :
    (overloadsBefore source name parent before node).Sublist
      (overloadsOf source name (parent.down node)) := by
  refine List.Sublist.filter _ (List.Sublist.trans ?_ (Source.map_down_sublist_cursors hparent))
  rw [hchildren, List.map_append]
  exact List.sublist_append_left _ _

/-- Take a function declaration or a method with a declared name. It has a site. The overloads among
its siblings in front of it are counted there, and its count is their number exactly if no other
signature has its identity. With plain names the count is the number of all signatures with its kind,
name, context, static flag and visibility. Constructors are the exception: no overload of a
constructor has its identity, and with plain names the count is zero unless something is declared
under the full name of the site. -/
theorem overloads_counted (source : Source) (dialect : String) (parent : Cursor)
    (before after : List Tree) (node : Tree) (name : String)
    (hdialect : knownDialects.contains dialect = true) (hparent : parent ∈ source.cursors)
    (hchildren : parent.node.children = before ++ node :: after)
    (hnamed : node.label.named = true)
    (hkind : node.kind = "function_declaration" ∨ node.kind = "method_definition")
    (hname : declaredName? source node = some name) :
    let site := functionSite source (parent.down node)
    let siblings := overloadsBefore source name parent before node
    site ∈ (Model.ofSource source dialect).functions ∧
    (¬(node.kind = "method_definition" ∧ name = "constructor") →
      siblings.Sublist (signaturesOf source site.identity) ∧
      (site.overloads = siblings.length ↔ signaturesOf source site.identity = siblings) ∧
      (PlainlyNamed source (parent.down node) →
        site.overloads = (overloadsOf source name (parent.down node)).length)) ∧
    (node.kind = "method_definition" ∧ name = "constructor" →
      (∀ signature, OverloadAs source name (parent.down node) signature →
        overloadAt? source signature ≠ some site.identity) ∧
      (PlainlyNamed source (parent.down node) →
        (∀ signature ∈ source.cursors, declaredName? source signature.node ≠ some site.name) →
          site.overloads = 0)) := by
  intro site siblings
  -- The node is a function or a method, so it gives a site.
  have hfunction : Source.isFunctionKind (parent.down node).kind = true := by
    obtain hkind | hkind := hkind <;> rw [Cursor.kind, Cursor.down, hkind] <;> decide
  have hmem : node ∈ parent.node.children := by
    rw [hchildren]
    exact List.mem_append_right _ List.mem_cons_self
  refine ⟨?_, ?_, ?_⟩
  · rw [Model.ofSource, Source.isSome_tree hparent, hdialect]
    exact mem_functions (Source.down_mem_cursors hparent hmem) hnamed hfunction
  · -- The site has the declared name, so an overload makes the same identity.
    intro hother
    have hsite : nameAt source (parent.down node) = name := nameAt_of_declared hkind hname hother
    have hcounted : siblings.Sublist (signaturesOf source site.identity) := by
      have hall := overloadsOf_sublist source (parent.down node)
      rw [hsite] at hall
      exact (overloadsBefore_sublist name hparent hchildren).trans hall
    refine ⟨hcounted, overloads_eq_length_iff hcounted, ?_⟩
    intro hplain
    rw [overloads_functionSite, signaturesOf_eq_overloadsOf hplain hkind, hsite]
  · -- The site has a longer name, and everything behind the name is the same in both identities.
    rintro ⟨hmethod, rfl⟩
    have hsite : nameAt source (parent.down node) = _ := nameAt_constructor hmethod hname
    refine ⟨fun signature hoverload => hoverload.ne_identity ?_, ?_⟩
    · rw [hsite]
      exact constructorName_ne _
    · intro hplain hnone
      rw [overloads_functionSite, signaturesOf_eq_overloadsOf hplain hkind, List.length_eq_zero_iff,
        overloadsOf, List.filter_eq_nil_iff]
      intro signature hsignature hoverload
      exact hnone signature hsignature (of_decide_eq_true hoverload).name

/-! ### A class with one overload -/

/-- The parameters `(a)` from an offset on. -/
def parametersAt (id start : Nat) : Tree :=
  .node (.inRow id "formal_parameters" "parameters" true start (start + 3))
    [.node (.inRow (id + 1) "(" "" false start (start + 1)) [],
     .node (.inRow (id + 2) "required_parameter" "" true (start + 1) (start + 2))
      [.node (.inRow (id + 3) "identifier" "pattern" true (start + 1) (start + 2)) []],
     .node (.inRow (id + 4) ")" "" false (start + 2) (start + 3)) []]

/-- What stands in front of the method in the body of the class: a signature of a name with `length`
characters. -/
def membersBefore (length : Nat) : List Tree :=
  [.node (.inRow 5 "\x7b" "" false 7 8) [],
   .node (.inRow 6 "method_signature" "" true 8 (8 + length + 3))
    [.node (.inRow 7 "property_identifier" "name" true 8 (8 + length)) [], parametersAt 8 (8 + length)],
   .node (.inRow 13 ";" "" false (8 + length + 3) (12 + length)) []]

/-- The method, with the same name and an empty body. -/
def methodNode (length : Nat) : Tree :=
  .node (.inRow 14 "method_definition" "" true (12 + length) (12 + length + length + 5))
    [.node (.inRow 15 "property_identifier" "name" true (12 + length) (12 + length + length)) [],
     parametersAt 16 (12 + length + length),
     .node (.inRow 21 "statement_block" "body" true (15 + length + length) (17 + length + length))
      [.node (.inRow 22 "\x7b" "" false (15 + length + length) (16 + length + length)) [],
       .node (.inRow 23 "\x7d" "" false (16 + length + length) (17 + length + length)) []]]

/-- The body of the class. -/
def classBody (length : Nat) : Tree :=
  .node (.inRow 4 "class_body" "body" true 7 (18 + length + length))
    (membersBefore length ++ methodNode length ::
      [.node (.inRow 24 "\x7d" "" false (17 + length + length) (18 + length + length)) []])

/-- The class `A` with this body. -/
def classNode (length : Nat) : Tree :=
  .node (.inRow 1 "class_declaration" "" true 0 (18 + length + length))
    [.node (.inRow 2 "class" "" false 0 5) [], .node (.inRow 3 "type_identifier" "name" true 6 7) [],
     classBody length]

/-- The program that declares the class. -/
def classProgram (length : Nat) : Tree :=
  .node (.inRow 0 "program" "" true 0 (18 + length + length)) [classNode length]

/-- A class `A` with one method and one signature of it. -/
def overloadedClass (name : String) : Source where
  text := "class A\x7b" ++ name ++ "(a);" ++ name ++ "(a)\x7b\x7d\x7d"
  tree := some (classProgram name.length)

/-- The body of the class with what stands around it. -/
def bodyCursor (length : Nat) : Cursor :=
  ⟨classBody length, [classNode length, classProgram length]⟩

/-- The body of the example is a node of its source. -/
theorem bodyCursor_mem (name : String) :
    bodyCursor name.length ∈ (overloadedClass name).cursors := by
  have hroot : ⟨classProgram name.length, []⟩ ∈ (overloadedClass name).cursors :=
    Cursor.mem_walkTree_self [] _
  have hclass : Cursor.down ⟨classProgram name.length, []⟩ (classNode name.length) ∈
      (overloadedClass name).cursors :=
    Source.down_mem_cursors hroot (by simp [classProgram])
  exact Source.down_mem_cursors hclass (by simp [Cursor.down, classNode])

/-- The signature of a method is counted. -/
theorem overloads_counted_method :
    PlainlyNamed (overloadedClass "f") ((bodyCursor 1).down (methodNode 1)) ∧
    (overloadsBefore (overloadedClass "f") "f" (bodyCursor 1) (membersBefore 1)
      (methodNode 1)).length = 1 ∧
    (functionSite (overloadedClass "f") ((bodyCursor 1).down (methodNode 1))).overloads = 1 := by
  have hplain : PlainlyNamed (overloadedClass "f") ((bodyCursor 1).down (methodNode 1)) := by
    decide +kernel
  obtain ⟨-, hcounted, -⟩ := overloads_counted (overloadedClass "f") "typescript" (bodyCursor 1)
    (membersBefore 1) _ (methodNode 1) "f" (by decide) (bodyCursor_mem "f") rfl rfl
    (.inr (by decide)) (by decide +kernel)
  refine ⟨hplain, by decide +kernel, ?_⟩
  rw [(hcounted (by decide)).2.2 hplain]
  decide +kernel

/-- The signature of a constructor is not. -/
theorem constructor_overload_lost :
    (overloadsBefore (overloadedClass "constructor") "constructor" (bodyCursor 11)
      (membersBefore 11) (methodNode 11)).length = 1 ∧
    (Model.ofSource (overloadedClass "constructor") "typescript").functions.map
      (fun site => (site.name, site.overloads)) = [("A.constructor", 0)] ∧
    (Model.ofSource (overloadedClass "f") "typescript").functions.map
      (fun site => (site.name, site.overloads)) = [("f", 1)] := by
  refine ⟨?_, ?_, ?_⟩ <;> decide +kernel

end Extract

end ChangeLens
