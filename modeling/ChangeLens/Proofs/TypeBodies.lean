import ChangeLens.Extract.Types
import ChangeLens.Proofs.ClosedText
import ChangeLens.Proofs.TypeGrammar

/-!
# `ChangeLens.Proofs.TypeBodies`: what the canonical text of a body tells

The canonical text of an interface, or of an alias for an object type with members, lists its
properties and methods in ascending order of their texts. This module says which bodies it tells
apart.

The text of a member puts name, question mark and type together, and the list puts semicolons between
members. Both can be taken apart again when names and texts are closed (`memberChars_inj`,
`join_inj`). So, for members that are legible in this sense, equal texts mean the same members in
some order and nothing else (`membersText_eq_iff`).

What stands in a body is more than its members in that sense: a `Signature` is a property with its
modifiers, a method, or an index, call or construct signature. `canonical_eq_iff` says what is left
out: bodies without modifiers have the same signatures exactly if their canonical texts agree and
their other signatures do. An alias without members is compared by its whole text.
`indexSignature_lost` shows two interfaces that differ and have one canonical text.
-/

set_option autoImplicit false

namespace ChangeLens.Extract

open ChangeLens.Text ChangeLens.TypeText

/-! ### The text of members -/

/-- How a member stands in the text of a body. -/
def memberChars (member : TypeMember) : List Char :=
  member.name.toList ++ (if member.optional then ['?'] else []) ++ ':' :: member.typeText.toList

/-- The text of members is their sorted texts between braces. -/
theorem toList_membersText (members : List TypeMember) :
    (membersText members).toList =
      '\x7b' :: ([';'].intercalate (sortPieces (members.map memberChars)) ++ ['\x7d']) := by
  -- A member is its name, a mark if it is optional, and its type.
  have htext (member : TypeMember) :
      (member.name ++ (if member.optional then "?" else "") ++ ":" ++ member.typeText).toList =
        memberChars member := by
    cases hoptional : member.optional <;>
      simp [memberChars, hoptional, String.toList_append]
  -- Texts are in order exactly if their characters are.
  have hsorted (texts : List String) :
      (sorted texts).map String.toList = sortPieces (texts.map String.toList) :=
    List.map_mergeSort fun _ _ _ _ => rfl
  rw [membersText, String.toList_append, String.toList_append, join, String.toList_intercalate, hsorted,
    List.map_map]
  simp only [Function.comp_def, htext]
  rfl

/-- A member whose text can be taken apart: brackets and literals in it are closed, no colon stands
outside them in the name and no semicolon in the whole, and the name does not end with a question
mark. -/
structure Readable (member : TypeMember) : Prop where
  /-- The name is closed. -/
  name : isClosed ':' member.name.toList = true
  /-- The name does not end with a question mark. -/
  mark : member.name.toList.getLast? ≠ some '?'
  /-- The whole is closed. -/
  whole : isClosed ';' (memberChars member) = true

/-- Members that can be read off their texts: each is readable, and no property looks like a
method. -/
structure Legible (members : List TypeMember) : Prop where
  /-- Each member is readable. -/
  readable : ∀ member ∈ members, Readable member
  /-- A property and a method differ in their texts. -/
  apart : ∀ a ∈ members, ∀ b ∈ members, memberChars a = memberChars b → a.isMethod = b.isMethod

instance (member : TypeMember) : Decidable (Readable member) :=
  decidable_of_iff
    (isClosed ':' member.name.toList = true ∧ member.name.toList.getLast? ≠ some '?' ∧
      isClosed ';' (memberChars member) = true)
    ⟨fun h => ⟨h.1, h.2.1, h.2.2⟩, fun h => ⟨h.name, h.mark, h.whole⟩⟩

instance (members : List TypeMember) : Decidable (Legible members) :=
  decidable_of_iff
    ((∀ member ∈ members, Readable member) ∧
      ∀ a ∈ members, ∀ b ∈ members, memberChars a = memberChars b → a.isMethod = b.isMethod)
    ⟨fun h => ⟨h.1, h.2⟩, fun h => ⟨h.readable, h.apart⟩⟩

/-- A question mark behind a name that does not end with one can be told from the name. -/
theorem mark_inj {xs ys : List Char} {p q : Bool} (hxs : xs.getLast? ≠ some '?')
    (hys : ys.getLast? ≠ some '?')
    (h : (xs ++ if p then ['?'] else []) = ys ++ if q then ['?'] else []) : xs = ys ∧ p = q := by
  cases p with
  | false =>
    cases q with
    | false => exact ⟨by simpa using h, rfl⟩
    | true =>
      have hmarked : xs = ys ++ ['?'] := by simpa using h
      -- Only one of the two has the mark, so the other one would have to end in it.
      exact absurd (hmarked ▸ List.getLast?_concat) hxs
  | true =>
    cases q with
    | false =>
      have hmarked : xs ++ ['?'] = ys := by simpa using h
      exact absurd (hmarked ▸ List.getLast?_concat) hys
    | true => exact ⟨List.append_cancel_right h, rfl⟩

/-- The text of a readable member tells all but whether it is a method. -/
theorem memberChars_inj {a b : TypeMember} (ha : Readable a) (hb : Readable b)
    (h : memberChars a = memberChars b) :
    a.name = b.name ∧ a.optional = b.optional ∧ a.typeText = b.typeText := by
  have hpasses (member : TypeMember) (hmember : Readable member) :
      Passes ':' 0 (member.name.toList ++ if member.optional then ['?'] else []) := by
    refine (passes_of_isClosed hmember.name).append ?_
    split
    · exact passes_neutral (by decide) (by decide) (by decide)
    · exact passes_nil
  -- The first colon outside brackets stands behind the name and its mark.
  obtain ⟨hmarked, htype⟩ := cut_inj (by decide) (hpasses a ha) (hpasses b hb) h
  obtain ⟨hname, hoptional⟩ := mark_inj ha.mark hb.mark hmarked
  exact ⟨String.toList_inj.1 hname, hoptional, String.toList_inj.1 htype⟩

/-- Members that are written alike are the same. -/
theorem Legible.eq_of_memberChars_eq {members : List TypeMember} (hlegible : Legible members)
    {a b : TypeMember} (ha : a ∈ members) (hb : b ∈ members) (h : memberChars a = memberChars b) :
    a = b := by
  obtain ⟨hname, hoptional, htype⟩ :=
    memberChars_inj (hlegible.readable a ha) (hlegible.readable b hb) h
  have hmethod := hlegible.apart a ha b hb h
  cases a
  cases b
  simp_all

/-- The text of legible members tells them up to their order, and nothing of that order. -/
theorem membersText_eq_iff {xs ys : List TypeMember} (hlegible : Legible (xs ++ ys)) :
    membersText xs = membersText ys ↔ xs.Perm ys := by
  have hsame {a b : TypeMember} (ha : a ∈ xs ++ ys) (hb : b ∈ xs ++ ys) :
      memberChars a = memberChars b → a = b := hlegible.eq_of_memberChars_eq ha hb
  rw [← String.toList_inj, toList_membersText, toList_membersText, sortPieces_map, sortPieces_map]
  constructor
  · intro htext
    have hpieces (members : List TypeMember) (hmembers : ∀ member ∈ members, Readable member) :
        ∀ piece ∈ (sortByText memberChars members).map memberChars,
          Passes ';' 0 piece ∧ piece ≠ [] := by
      intro piece hpiece
      obtain ⟨member, hmember, rfl⟩ := List.mem_map.1 hpiece
      have hreadable := hmembers member ((sortByText_perm _ members).mem_iff.1 hmember)
      exact ⟨passes_of_isClosed hreadable.whole, by simp [memberChars]⟩
    -- The braces fall away, and semicolons outside brackets separate the members.
    have hsorted : sortByText memberChars xs = sortByText memberChars ys := by
      have hmap := join_inj (by decide)
        (hpieces xs fun m hm => hlegible.readable m (List.mem_append_left ys hm))
        (hpieces ys fun m hm => hlegible.readable m (List.mem_append_right xs hm))
        (List.append_cancel_right (List.tail_eq_of_cons_eq htext))
      rw [← List.forall₂_eq_eq_eq]
      refine forall₂_of_map_eq hmap fun a ha b hb => hsame ?_ ?_
      · exact List.mem_append_left ys ((sortByText_perm _ xs).mem_iff.1 ha)
      · exact List.mem_append_right xs ((sortByText_perm _ ys).mem_iff.1 hb)
    exact (sortByText_perm memberChars xs).symm.trans (hsorted ▸ sortByText_perm memberChars ys)
  · intro hperm
    -- Equal texts belong to equal members, so the sort has no ties to break by position.
    have hsorted := sortByText_eq_of_perm hperm fun a ha b hb =>
      hsame (List.mem_append_left ys ha) (List.mem_append_left ys hb)
    rw [hsorted]

/-! ### What stands in a body -/

/-- What a node of a body declares, apart from layout and the spelling of types. -/
inductive Signature where
  /-- A property with its modifiers, or a method, which has its own in its text. -/
  | member (modifiers : List String) (member : TypeMember)
  /-- An index, call or construct signature. -/
  | other (text : String)
deriving DecidableEq

namespace Signature

/-- The modifiers of a property. -/
def modifiers : Signature → List String
  | member written _ => written
  | other _ => []

/-- The property or method. -/
def member? : Signature → Option TypeMember
  | member _ found => some found
  | other _ => none

/-- The text of a signature that is neither. -/
def other? : Signature → Option String
  | member _ _ => none
  | other text => some text

end Signature

/-- What a property has besides its name, its question mark and its type. -/
def propertyModifiers (source : Source) (node : Tree) : List String :=
  (node.children.filter fun child =>
    child.label.field == "" && child.kind != "?" && child.kind != "comment").map source.normalized

/-- The signature at a node of a body. -/
def signatureOf (source : Source) (node : Tree) : Signature :=
  match memberOf? source node with
  | some member => .member (if member.isMethod then [] else propertyModifiers source node) member
  | none => .other (source.normalized node)

/-- A signature has the member that is read from its node. -/
theorem member?_signatureOf (source : Source) (node : Tree) :
    (signatureOf source node).member? = memberOf? source node := by
  unfold signatureOf
  split
  · rename_i member hmember
    exact hmember.symm
  · rename_i hnone
    exact hnone.symm

/-- Signatures without modifiers are members and others. -/
theorem signatures_perm_parts {signatures : List Signature}
    (hplain : ∀ signature ∈ signatures, signature.modifiers = []) :
    signatures.Perm ((signatures.filterMap Signature.member?).map (.member []) ++
      (signatures.filterMap Signature.other?).map .other) := by
  induction signatures with
  | nil => exact List.Perm.refl []
  | cons signature signatures ih =>
    rw [List.forall_mem_cons] at hplain
    have hrest := ih hplain.2
    cases signature with
    | member modifiers member =>
      rw [show modifiers = [] from hplain.1]
      exact hrest.cons _
    | other text => exact (hrest.cons _).trans List.perm_middle.symm

/-- Signatures without modifiers are the same exactly if members and others are. -/
theorem signatures_perm_iff {xs ys : List Signature}
    (hxs : ∀ signature ∈ xs, signature.modifiers = [])
    (hys : ∀ signature ∈ ys, signature.modifiers = []) :
    xs.Perm ys ↔ (xs.filterMap Signature.member?).Perm (ys.filterMap Signature.member?) ∧
      (xs.filterMap Signature.other?).Perm (ys.filterMap Signature.other?) := by
  constructor
  · exact fun hperm => ⟨hperm.filterMap _, hperm.filterMap _⟩
  · rintro ⟨hmembers, hothers⟩
    refine (signatures_perm_parts hxs).trans (List.Perm.trans ?_ (signatures_perm_parts hys).symm)
    exact (hmembers.map _).append (hothers.map _)

/-! ### Declarations -/

/-- The declaration of a type by a body: an interface, or an alias for an object type. -/
structure BodyDeclaration where
  /-- Where it stands. -/
  source : Source
  /-- The node of the declaration. -/
  node : Tree
  /-- The body. -/
  body : Tree
  /-- The type it defines. -/
  site : TypeSite
  /-- The type is the one that is extracted. -/
  defines : typeAt? source node = some site
  /-- The body is that of an interface or of an alias. -/
  hasBody :
    (node.kind = "interface_declaration" ∧ node.field? "body" = some body ∧
      body.kind = "interface_body") ∨
    (node.kind = "type_alias_declaration" ∧ node.field? "value" = some body ∧
      body.kind = "object_type")

namespace BodyDeclaration

/-- All that stands in the body. -/
def signatures (declaration : BodyDeclaration) : List Signature :=
  declaration.body.parts.map (signatureOf declaration.source)

/-- The index, call and construct signatures of the body. -/
def others (declaration : BodyDeclaration) : List String :=
  declaration.signatures.filterMap Signature.other?

/-- No property of the body has modifiers. -/
def Unmodified (declaration : BodyDeclaration) : Prop :=
  ∀ signature ∈ declaration.signatures, signature.modifiers = []

instance (declaration : BodyDeclaration) : Decidable declaration.Unmodified :=
  inferInstanceAs (Decidable (∀ signature ∈ declaration.signatures, signature.modifiers = []))

/-- The canonical text lists the members of the body: always for an interface, and for an alias that
has any. -/
def Listed (declaration : BodyDeclaration) : Prop :=
  declaration.site.form = .interfaceType ∨ declaration.site.members ≠ []

/-- Two declarations of one form with the same type parameters and the same parents. -/
structure SameHead (a b : BodyDeclaration) : Prop where
  /-- Both are interfaces or both aliases. -/
  form : a.site.form = b.site.form
  /-- Their type parameters are the same. -/
  parameters : genericHead a.source a.node = genericHead b.source b.node
  /-- They extend the same interfaces. -/
  parents : parentsOf a.source a.node = parentsOf b.source b.node

/-- What stands before the body in the canonical text. -/
def preamble (declaration : BodyDeclaration) : String :=
  genericHead declaration.source declaration.node ++
    (if declaration.site.form = .interfaceType then
      ":" ++ join "," (sorted (parentsOf declaration.source declaration.node)) ++ "="
    else "=")

/-- Declarations with the same head have the same text in front of the body. -/
theorem SameHead.preamble_eq {a b : BodyDeclaration} (h : a.SameHead b) : a.preamble = b.preamble := by
  rw [preamble, preamble, h.form, h.parameters, h.parents]

/-- The type of an interface or of an alias. -/
theorem site_eq (declaration : BodyDeclaration) :
    (declaration.site = interfaceTypeAt declaration.source declaration.node ∧
      declaration.node.field? "body" = some declaration.body ∧
      declaration.body.kind = "interface_body") ∨
    (declaration.site = aliasAt declaration.source declaration.node ∧
      declaration.node.field? "value" = some declaration.body ∧
      declaration.body.kind = "object_type") := by
  have hdefines := declaration.defines
  rcases declaration.hasBody with ⟨hkind, hbody⟩ | ⟨hkind, hbody⟩
  · rw [typeAt?, hkind] at hdefines
    exact Or.inl ⟨(Option.some.inj hdefines).symm, hbody⟩
  · rw [typeAt?, hkind] at hdefines
    exact Or.inr ⟨(Option.some.inj hdefines).symm, hbody⟩

/-- The members of the type are the properties and methods of the body. -/
theorem members_eq (declaration : BodyDeclaration) :
    declaration.site.members = declaration.signatures.filterMap Signature.member? := by
  have hparts : declaration.signatures.filterMap Signature.member? =
      declaration.body.parts.filterMap (memberOf? declaration.source) := by
    rw [signatures, List.filterMap_map]
    exact List.filterMap_congr fun node _ => member?_signatureOf declaration.source node
  rw [hparts]
  rcases declaration.site_eq with ⟨hsite, hbody, hkind⟩ | ⟨hsite, hbody, hkind⟩
  · rw [hsite, interfaceTypeAt, hbody, membersOf, hkind]
    rfl
  · rw [hsite, aliasAt, hbody, membersOf, hkind]
    rfl

/-- The canonical text of a listed body consists of the preamble and the members. -/
theorem canonical_of_listed {declaration : BodyDeclaration} (h : declaration.Listed) :
    declaration.site.canonical =
      declaration.preamble ++ membersText declaration.site.members := by
  rcases declaration.site_eq with ⟨hsite, -, -⟩ | ⟨hsite, -, -⟩
  · rw [preamble, hsite]
    simp [interfaceTypeAt, String.append_assoc]
  · have hmembers : (aliasAt declaration.source declaration.node).members ≠ [] := by
      rw [Listed, hsite] at h
      exact h.resolve_left (by simp [aliasAt])
    rw [preamble, hsite]
    simp only [aliasAt] at hmembers ⊢
    simp [hmembers]

/-- The canonical text of any other body is the canonical form of its text, behind the preamble. -/
theorem canonical_of_not_listed {declaration : BodyDeclaration} (h : ¬ declaration.Listed) :
    declaration.site.canonical =
      declaration.preamble ++
        TypeText.canonical (declaration.source.normalized declaration.body) := by
  rw [Listed, not_or, not_not] at h
  rcases declaration.site_eq with ⟨hsite, -, -⟩ | ⟨hsite, hbody, -⟩
  · rw [hsite] at h
    exact absurd rfl h.1
  · have hmembers : (aliasAt declaration.source declaration.node).members = [] := hsite ▸ h.2
    rw [preamble, hsite]
    simp only [aliasAt, hbody] at hmembers ⊢
    simp [hmembers, Source.normalized?]

end BodyDeclaration

/-- Take two declarations of one form with the same type parameters and parents. Where their canonical
texts list members and these are legible, the texts agree exactly if the properties and methods are
the same in some order. So, where no property has modifiers, the bodies are the same up to order
exactly if the texts and, beside them, the index, call and construct signatures agree: the texts say
nothing about these. Aliases without properties and methods are compared by their whole bodies. -/
theorem canonical_eq_iff {a b : BodyDeclaration} (hhead : a.SameHead b) :
    (a.Listed → b.Listed → Legible (a.site.members ++ b.site.members) →
      (a.site.canonical = b.site.canonical ↔ a.site.members.Perm b.site.members) ∧
      (a.Unmodified → b.Unmodified →
        (a.signatures.Perm b.signatures ↔
          a.site.canonical = b.site.canonical ∧ a.others.Perm b.others))) ∧
    (¬ a.Listed → ¬ b.Listed →
      (a.site.canonical = b.site.canonical ↔
        TypeText.canonical (a.source.normalized a.body) =
          TypeText.canonical (b.source.normalized b.body))) := by
  constructor
  · intro ha hb hlegible
    have hcanonical : a.site.canonical = b.site.canonical ↔ a.site.members.Perm b.site.members := by
      rw [BodyDeclaration.canonical_of_listed ha, BodyDeclaration.canonical_of_listed hb,
        hhead.preamble_eq, String.append_right_inj, membersText_eq_iff hlegible]
    refine ⟨hcanonical, fun haPlain hbPlain => ?_⟩
    rw [hcanonical, signatures_perm_iff haPlain hbPlain, a.members_eq, b.members_eq]
    rfl
  · intro ha hb
    rw [BodyDeclaration.canonical_of_not_listed ha, BodyDeclaration.canonical_of_not_listed hb,
      hhead.preamble_eq, String.append_right_inj]

/-- A node without children. -/
def leaf (id : Nat) (kind field : String) (named : Bool) (start stop : Nat) : Tree :=
  .node (.inRow id kind field named start stop) []

/-- The braces of an interface with the nodes between them. -/
def interfaceBody (stop : Nat) (content : List Tree) : Tree :=
  let opening := leaf 5 "\x7b" "" false 12 13
  let closing := leaf (6 + Tree.sizeAll content) "\x7d" "" false (stop - 1) stop
  .node (.inRow 4 "interface_body" "body" true 12 stop) (opening :: content ++ [closing])

/-- The interface `A` with these nodes between its braces. -/
def interfaceNode (stop : Nat) (content : List Tree) : Tree :=
  .node (.inRow 1 "interface_declaration" "" true 0 stop)
    [leaf 2 "interface" "" false 0 9, leaf 3 "type_identifier" "name" true 10 11,
     interfaceBody stop content]

/-- The tree of a file that holds this interface and nothing else. -/
def interfaceFile (stop : Nat) (content : List Tree) : Tree :=
  .node (.inRow 0 "program" "" true 0 stop) [interfaceNode stop content]

/-- The declaration of this interface in a source. -/
def interfaceIn (source : Source) (stop : Nat) (content : List Tree) : BodyDeclaration where
  source := source
  node := interfaceNode stop content
  body := interfaceBody stop content
  site := interfaceTypeAt source (interfaceNode stop content)
  defines := rfl
  hasBody := Or.inl ⟨rfl, rfl, rfl⟩

/-- The property `a: X` at an offset. -/
def propertyAt (id start : Nat) : Tree :=
  .node (.inRow id "property_signature" "" true start (start + 4))
    [leaf (id + 1) "property_identifier" "name" true start (start + 1),
     .node (.inRow (id + 2) "type_annotation" "type" true (start + 1) (start + 4))
       [leaf (id + 3) ":" "" false (start + 1) (start + 2),
        leaf (id + 4) "type_identifier" "" true (start + 3) (start + 4)]]

/-- The method `b?(): Y` at an offset. -/
def methodAt (id start : Nat) : Tree :=
  .node (.inRow id "method_signature" "" true start (start + 7))
    [leaf (id + 1) "property_identifier" "name" true start (start + 1),
     leaf (id + 2) "?" "" false (start + 1) (start + 2),
     .node (.inRow (id + 3) "formal_parameters" "parameters" true (start + 2) (start + 4))
       [leaf (id + 4) "(" "" false (start + 2) (start + 3),
        leaf (id + 5) ")" "" false (start + 3) (start + 4)],
     .node (.inRow (id + 6) "type_annotation" "return_type" true (start + 4) (start + 7))
       [leaf (id + 7) ":" "" false (start + 4) (start + 5),
        leaf (id + 8) "type_identifier" "" true (start + 6) (start + 7)]]

/-- A property before a method. -/
def propertyFirst : BodyDeclaration :=
  let content := [propertyAt 6 14, leaf 11 ";" "" false 18 19, methodAt 12 20]
  interfaceIn ⟨"interface A \x7b a: X; b?(): Y \x7d", some (interfaceFile 29 content), _, rfl⟩ 29 content

/-- The same members the other way round. -/
def methodFirst : BodyDeclaration :=
  let content := [methodAt 6 14, leaf 15 ";" "" false 21 22, propertyAt 16 23]
  interfaceIn ⟨"interface A \x7b b?(): Y; a: X \x7d", some (interfaceFile 29 content), _, rfl⟩ 29 content

/-- A property and a method in two orders: the members are the same, so the canonical texts agree,
and these tell that the bodies hold the same. -/
theorem canonical_eq_iff_reordered :
    propertyFirst.site.members = [⟨"a", "X", false, false⟩, ⟨"b", "b?():Y", true, true⟩] ∧
      propertyFirst.site.canonical = methodFirst.site.canonical ∧
      propertyFirst.signatures.Perm methodFirst.signatures := by
  have hhead : propertyFirst.SameHead methodFirst :=
    ⟨by decide +kernel, by decide +kernel, by decide +kernel⟩
  have hfirst : propertyFirst.site.members =
      [⟨"a", "X", false, false⟩, ⟨"b", "b?():Y", true, true⟩] := by decide +kernel
  have hsecond : methodFirst.site.members =
      [⟨"b", "b?():Y", true, true⟩, ⟨"a", "X", false, false⟩] := by decide +kernel
  -- The members can be told apart, so the texts decide about them.
  have hlegible : Legible (propertyFirst.site.members ++ methodFirst.site.members) := by
    rw [hfirst, hsecond]
    decide +kernel
  obtain ⟨htexts, hbodies⟩ := (canonical_eq_iff hhead).1 (Or.inl rfl) (Or.inl rfl) hlegible
  have hcanonical : propertyFirst.site.canonical = methodFirst.site.canonical := by
    rw [htexts, hfirst, hsecond]
    exact List.Perm.swap _ _ _
  have hothers : propertyFirst.others = [] ∧ methodFirst.others = [] := by decide +kernel
  refine ⟨hfirst, hcanonical, (hbodies (by decide +kernel) (by decide +kernel)).2 ⟨hcanonical, ?_⟩⟩
  rw [hothers.1, hothers.2]

/-- The index signature `[k: string]: …` with a type of six letters for the values. -/
def indexSignature (typeName : String) : Tree :=
  .node (.inRow 6 "index_signature" "" true 14 33)
    [leaf 7 "[" "" false 14 15, leaf 8 "identifier" "name" true 15 16, leaf 9 ":" "" false 16 17,
     .node (.inRow 10 "predefined_type" "index_type" true 18 24) [leaf 11 "string" "" false 18 24],
     leaf 12 "]" "" false 24 25,
     .node (.inRow 13 "type_annotation" "type" true 25 33)
       [leaf 14 ":" "" false 25 26,
        .node (.inRow 15 "predefined_type" "" true 27 33) [leaf 16 typeName "" false 27 33]]]

/-- An interface from names to numbers. -/
def numberIndex : BodyDeclaration :=
  let content := [indexSignature "number"]
  interfaceIn ⟨"interface A \x7b [k: string]: number \x7d", some (interfaceFile 35 content), _, rfl⟩ 35
    content

/-- An interface from names to texts. -/
def stringIndex : BodyDeclaration :=
  let content := [indexSignature "string"]
  interfaceIn ⟨"interface A \x7b [k: string]: string \x7d", some (interfaceFile 35 content), _, rfl⟩ 35
    content

/-- Two interfaces with different index signatures have one canonical text. -/
theorem indexSignature_lost :
    numberIndex.SameHead stringIndex ∧
      numberIndex.site.canonical = stringIndex.site.canonical ∧
      ¬ numberIndex.signatures.Perm stringIndex.signatures := by
  have hhead : numberIndex.SameHead stringIndex :=
    ⟨by decide +kernel, by decide +kernel, by decide +kernel⟩
  have hmembers : numberIndex.site.members = [] ∧ stringIndex.site.members = [] := by decide +kernel
  refine ⟨hhead, ?_, by decide +kernel⟩
  rw [BodyDeclaration.canonical_of_listed (Or.inl rfl),
    BodyDeclaration.canonical_of_listed (Or.inl rfl), hhead.preamble_eq, hmembers.1, hmembers.2]

end ChangeLens.Extract
