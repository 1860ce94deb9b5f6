import ChangeLens.Proofs.TypeMembers
import Mathlib.Data.List.Forall2

/-!
# `ChangeLens.Proofs.TypeGrammar`: types, their texts, and when two types are the same

`TypeExpr` is the grammar of names, unions, intersections, arrays and generic types. `chars` prints a
type, with parentheses where a part binds more loosely than its place asks. `Same` is the equality of
types that the canonical text is to decide: members in any order, `Array<T>` for `T[]`, and
`Partial<Pick<A,B>>` for `Pick<Partial<A>,B>`.

The printed text of a type says which type it is, up to the grouping of members
(`same_of_chars_eq`). The proof cuts the text where the grammar does. `parts` lists the members of a
union or an intersection; cutting the printed text at the sign gives the texts of the parts
(`split_parts`), and types whose parts are the same are the same (`same_of_parts`).
-/

set_option autoImplicit false

namespace ChangeLens.TypeText

open ChangeLens.Text

/-! ### Types -/

/-- How members are combined. -/
inductive Connective where
  | union
  | intersection
deriving DecidableEq

mutual

/-- A type. -/
inductive TypeExpr where
  | name (name : Name)
  | combine (connective : Connective) (left right : TypeExpr)
  | array (element : TypeExpr)
  | generic (head : Name) (arguments : Arguments)
deriving DecidableEq

/-- The arguments of a generic type; there is at least one. -/
inductive Arguments where
  | last (argument : TypeExpr)
  | more (argument : TypeExpr) (rest : Arguments)
deriving DecidableEq

end

/-- The arguments as a list. -/
def Arguments.toList : Arguments → List TypeExpr
  | .last argument => [argument]
  | .more argument rest => argument :: rest.toList

/-- Induction over types, with the arguments of a generic type as a list. -/
@[elab_as_elim, induction_eliminator]
theorem TypeExpr.induct {motive : TypeExpr → Prop} (name : ∀ name, motive (.name name))
    (combine : ∀ c left right, motive left → motive right → motive (.combine c left right))
    (array : ∀ element, motive element → motive (.array element))
    (generic : ∀ head arguments, (∀ argument ∈ arguments.toList, motive argument) →
      motive (.generic head arguments))
    (t : TypeExpr) : motive t := by
  refine @TypeExpr.rec motive (fun arguments => ∀ argument ∈ arguments.toList, motive argument)
    name combine array generic ?_ ?_ t
  · intro argument hargument
    simpa [Arguments.toList] using hargument
  · intro argument rest hargument hrest
    simpa [Arguments.toList] using ⟨hargument, hrest⟩

/-- Arguments follow each other up to the last one. -/
@[elab_as_elim, induction_eliminator]
theorem Arguments.induct {motive : Arguments → Prop} (last : ∀ argument, motive (.last argument))
    (more : ∀ argument rest, motive rest → motive (.more argument rest)) (arguments : Arguments) :
    motive arguments :=
  @Arguments.rec (fun _ => True) motive (fun _ => trivial) (fun _ _ _ _ _ => trivial)
    (fun _ _ => trivial) (fun _ _ _ => trivial) (fun argument _ => last argument)
    (fun argument rest _ => more argument rest) arguments

/-! ### Texts -/

/-- The sign between members. -/
def Connective.sign : Connective → Char
  | .union => '|'
  | .intersection => '&'

/-- How tightly a connective binds. -/
def Connective.precedence : Connective → Nat
  | .union => 0
  | .intersection => 1

/-- How tightly a type holds together. -/
def TypeExpr.precedence : TypeExpr → Nat
  | .combine c .. => c.precedence
  | _ => 2

/-- Puts a text in parentheses where it holds together less tightly than its place asks. -/
def parenthesize (precedence place : Nat) (cs : List Char) : List Char :=
  if precedence < place then '(' :: (cs ++ [')']) else cs

mutual

/-- The text of a type. -/
def TypeExpr.chars : TypeExpr → List Char
  | .name name => name.chars
  | .combine c left right =>
    parenthesize left.precedence c.precedence left.chars ++
      c.sign :: parenthesize right.precedence c.precedence right.chars
  | .array element => parenthesize element.precedence 2 element.chars ++ ['[', ']']
  | .generic head arguments => head.chars ++ '<' :: (arguments.chars ++ ['>'])

/-- The text of arguments. -/
def Arguments.chars : Arguments → List Char
  | .last argument => argument.chars
  | .more argument rest => argument.chars ++ ',' :: rest.chars

end

/-- The text of a type. -/
def TypeExpr.text (t : TypeExpr) : String :=
  String.ofList t.chars

/-- The text of a type at a place that asks for this precedence. -/
def TypeExpr.charsAt (place : Nat) (t : TypeExpr) : List Char :=
  parenthesize t.precedence place t.chars

/-- The text of a union or intersection is its sign between the texts of its members. -/
theorem TypeExpr.chars_combine (c : Connective) (left right : TypeExpr) :
    (combine c left right).chars =
      left.charsAt c.precedence ++ c.sign :: right.charsAt c.precedence := by
  rw [chars]
  rfl

/-- The text of an array is that of its element with brackets behind it. -/
theorem TypeExpr.chars_array (element : TypeExpr) :
    (array element).chars = element.charsAt 2 ++ ['[', ']'] := by
  rw [chars]
  rfl

/-- A type that binds tightly enough for its place stands there as it is. -/
theorem TypeExpr.charsAt_of_le {place : Nat} {t : TypeExpr} (h : place ≤ t.precedence) :
    t.charsAt place = t.chars :=
  if_neg (Nat.not_lt.2 h)

/-- A member of a union needs no parentheses. -/
theorem TypeExpr.charsAt_union (t : TypeExpr) : t.charsAt Connective.union.precedence = t.chars :=
  charsAt_of_le (Nat.zero_le _)

/-- A type that does not is put in parentheses. -/
theorem TypeExpr.charsAt_of_lt {place : Nat} {t : TypeExpr} (h : t.precedence < place) :
    t.charsAt place = '(' :: (t.chars ++ [')']) :=
  if_pos h

/-- The text of arguments is their texts with commas between them. -/
theorem Arguments.chars_eq (arguments : Arguments) :
    arguments.chars = [','].intercalate (arguments.toList.map TypeExpr.chars) := by
  induction arguments with
  | last argument => rw [chars, toList, List.map_singleton, List.intercalate_singleton]
  | more argument rest ih =>
    have hrest : rest.toList.map TypeExpr.chars ≠ [] := by
      cases rest <;> simp [toList]
    rw [chars, ih, toList, List.map_cons, List.intercalate_cons_of_ne_nil hrest]
    simp

/-- There is an argument. -/
theorem Arguments.toList_ne_nil (arguments : Arguments) : arguments.toList ≠ [] := by
  cases arguments <;> exact List.cons_ne_nil _ _

/-- Nothing binds tighter than names, arrays and generic types. -/
theorem TypeExpr.precedence_le (t : TypeExpr) : t.precedence ≤ 2 := by
  cases t with
  | combine c => cases c <;> simp [precedence, Connective.precedence]
  | _ => exact Nat.le_refl 2

/-- What holds of names and signs, and is kept when texts are put one behind the other or into
brackets, holds of the texts of all types. -/
theorem TypeExpr.chars_induct {motive : List Char → Prop} (name : ∀ name : Name, motive name.chars)
    (sign : ∀ sign ∈ ['|', '&', ','], motive [sign]) (nil : motive [])
    (append : ∀ cs ds, motive cs → motive ds → motive (cs ++ ds))
    (enclosed : ∀ opening closing cs, (opening, closing) ∈ [('(', ')'), ('[', ']'), ('<', '>')] →
      motive cs → motive (opening :: (cs ++ [closing])))
    (t : TypeExpr) : motive t.chars := by
  have hcharsAt (place : Nat) (t : TypeExpr) (ht : motive t.chars) : motive (t.charsAt place) := by
    rw [charsAt, parenthesize]
    split
    · exact enclosed _ _ _ (by decide) ht
    · exact ht
  induction t with
  | name n => rw [chars]; exact name n
  | combine c left right hleft hright =>
    have hsign : motive [c.sign] := sign _ (by cases c <;> decide)
    rw [chars_combine]
    exact append _ _ (hcharsAt _ _ hleft) (append _ _ hsign (hcharsAt _ _ hright))
  | array element helement =>
    rw [chars_array]
    exact append _ _ (hcharsAt _ _ helement) (enclosed _ _ [] (by decide) nil)
  -- The property goes through the commas between the arguments, then through the brackets around
  -- them.
  | generic head arguments ih =>
    have harguments (pieces : List (List Char)) (h : ∀ piece ∈ pieces, motive piece) :
        motive ([','].intercalate pieces) := by
      induction pieces with
      | nil => exact nil
      | cons first more ihMore =>
        rw [List.forall_mem_cons] at h
        cases more with
        | nil => rw [List.intercalate_singleton]; exact h.1
        | cons second more =>
          rw [List.intercalate_cons_cons]
          exact append _ _ (append _ _ h.1 (sign ',' (by decide))) (ihMore h.2)
    rw [chars, Arguments.chars_eq]
    refine append _ _ (name head) (enclosed _ _ _ (by decide) (harguments _ fun piece hpiece => ?_))
    obtain ⟨argument, hargument, rfl⟩ := List.mem_map.1 hpiece
    exact ih argument hargument

/-- No type has an empty text. -/
theorem TypeExpr.chars_ne_nil (t : TypeExpr) : t.chars ≠ [] := by
  cases t with
  | name n => rw [chars]; exact n.nonempty
  | combine c left right => rw [chars_combine]; simp
  | array element => rw [chars_array]; simp
  | generic head arguments => rw [chars]; simp

/-! ### Cutting texts at signs -/

/-- The signs neither open nor close anything. -/
theorem isNeutral_sign (c : Connective) : isNeutral c.sign = true := by
  cases c <;> decide

/-- The two connectives have different signs. -/
theorem sign_inj {c d : Connective} (h : c.sign = d.sign) : c = d := by
  cases c <;> cases d <;> first | rfl | exact absurd h (by decide)

/-- The two connectives bind differently. -/
theorem precedence_inj {c d : Connective} (h : c.precedence = d.precedence) : c = d := by
  cases c <;> cases d <;> first | rfl | exact absurd h (by decide)

/-- Joined texts pass if each of them does. -/
theorem Passes.join {separator sign : Char} {depth : Nat} (hseparator : isNeutral separator = true)
    (hsign : isNeutral sign = true) (hcut : sign = separator → 1 ≤ depth)
    {pieces : List (List Char)} (h : ∀ piece ∈ pieces, Passes separator depth piece) :
    Passes separator depth ([sign].intercalate pieces) := by
  induction pieces with
  | nil => exact passes_nil
  | cons first more ih =>
    rw [List.forall_mem_cons] at h
    cases more with
    | nil => rw [List.intercalate_singleton]; exact h.1
    | cons second more =>
      rw [List.intercalate_cons_cons]
      exact (h.1.append (passes_neutral hseparator hsign hcut)).append (ih h.2)

/-- A type hides a sign in its text if it holds together more tightly than the sign binds. -/
theorem TypeExpr.passes {separator : Char} (hseparator : isNeutral separator = true)
    (hname : isNameChar separator = false) (t : TypeExpr) (depth : Nat)
    (h : ∀ c : Connective, separator = c.sign → t.precedence ≤ c.precedence → 1 ≤ depth) :
    Passes separator depth t.chars := by
  -- At a place that asks for more than a type has, parentheses hide the signs.
  have hcharsAt (t : TypeExpr) (place : Nat)
      (ih : ∀ depth, (∀ c : Connective, separator = c.sign → t.precedence ≤ c.precedence →
        1 ≤ depth) → Passes separator depth t.chars) (depth : Nat)
      (h : ∀ c : Connective, separator = c.sign → place ≤ c.precedence → 1 ≤ depth) :
      Passes separator depth (t.charsAt place) := by
    rw [charsAt, parenthesize]
    split
    · exact Passes.enclosed hseparator (by decide) (ih 1 fun _ _ _ => Nat.le_refl 1)
    · rename_i hplace
      exact ih depth fun c hsign hle => h c hsign (Nat.le_trans (Nat.not_lt.1 hplace) hle)
  induction t generalizing depth with
  | name n => rw [chars]; exact n.passes hseparator hname
  | combine c left right hleft hright =>
    have hsign : Passes separator depth [c.sign] :=
      passes_neutral hseparator (isNeutral_sign c) fun heq => h c heq.symm (Nat.le_refl _)
    rw [chars_combine]
    exact (hcharsAt left _ hleft depth h).append (hsign.append (hcharsAt right _ hright depth h))
  | array element ih =>
    rw [chars_array]
    refine (hcharsAt element 2 ih depth fun c _ hle => ?_).append
      (Passes.enclosed hseparator (by decide) passes_nil)
    cases c <;> exact absurd hle (by decide)
  | generic head arguments ih =>
    have harguments : Passes separator 1 arguments.chars := by
      rw [Arguments.chars_eq]
      refine Passes.join hseparator (by decide) (fun _ => Nat.le_refl 1) fun piece hpiece => ?_
      obtain ⟨argument, hargument, rfl⟩ := List.mem_map.1 hpiece
      exact ih argument hargument 1 fun _ _ _ => Nat.le_refl 1
    rw [chars]
    exact (head.passes hseparator hname).append (Passes.enclosed hseparator (by decide) harguments)

/-- Cutting the text of arguments at commas gives the texts of the arguments. -/
theorem split_arguments (arguments : Arguments) :
    splitTopLevel ',' arguments.chars = arguments.toList.map TypeExpr.chars := by
  rw [Arguments.chars_eq]
  refine splitTopLevel_join (by decide) (by simpa using arguments.toList_ne_nil) ?_
  intro piece hpiece
  obtain ⟨argument, -, rfl⟩ := List.mem_map.1 hpiece
  refine argument.passes (by decide) (by decide) 0 fun c hsign => ?_
  cases c <;> exact absurd hsign (by decide)

/-! ### Parts -/

/-- The members of a union or an intersection. -/
def TypeExpr.parts (c : Connective) : TypeExpr → List TypeExpr
  | .combine d left right =>
    if d = c then left.parts c ++ right.parts c else [.combine d left right]
  | t => [t]

/-- A type has a part. -/
theorem TypeExpr.parts_ne_nil (c : Connective) (t : TypeExpr) : t.parts c ≠ [] := by
  induction t with
  | combine d left right hleft =>
    rw [parts]
    split
    · exact List.append_ne_nil_of_left_ne_nil hleft _
    · exact List.cons_ne_nil _ _
  | _ => exact List.cons_ne_nil _ _

/-- A part is not made by the same connective again. -/
theorem TypeExpr.precedence_ne_of_mem_parts {c : Connective} {t part : TypeExpr}
    (h : part ∈ t.parts c) : part.precedence ≠ c.precedence := by
  have hother (t : TypeExpr) (ht : t.precedence = 2) : t.precedence ≠ c.precedence := by
    rw [ht]
    cases c <;> decide
  induction t with
  | combine d left right hleft hright =>
    rw [parts] at h
    split at h
    · exact (List.mem_append.1 h).elim hleft hright
    · rename_i hne
      cases List.mem_singleton.1 h
      exact fun heq => hne (precedence_inj heq)
  | _ =>
    cases List.mem_singleton.1 h
    exact hother _ rfl

/-- Joining two lists of pieces puts the separator between their texts. -/
theorem join_append {separator : Char} {xs ys : List (List Char)} (hxs : xs ≠ []) (hys : ys ≠ []) :
    [separator].intercalate (xs ++ ys) =
      [separator].intercalate xs ++ separator :: [separator].intercalate ys := by
  induction xs with
  | nil => exact absurd rfl hxs
  | cons first more ih =>
    cases more with
    | nil =>
      rw [List.singleton_append, List.intercalate_cons_of_ne_nil hys, List.intercalate_singleton]
      simp
    | cons second more =>
      rw [List.cons_append, List.intercalate_cons_of_ne_nil (by simp), ih (by simp),
        List.intercalate_cons_cons]
      simp

/-- A text is its parts, joined by the sign. -/
theorem TypeExpr.charsAt_eq (c : Connective) (t : TypeExpr) :
    t.charsAt c.precedence =
      [c.sign].intercalate ((t.parts c).map (TypeExpr.charsAt c.precedence)) := by
  have hsingle (t : TypeExpr) : t.charsAt c.precedence =
      [c.sign].intercalate ([t].map (TypeExpr.charsAt c.precedence)) := by
    rw [List.map_singleton, List.intercalate_singleton]
  induction t with
  | combine d left right hleft hright =>
    rw [parts]
    split
    · rename_i heq
      subst heq
      rw [List.map_append, join_append (by simpa using left.parts_ne_nil d)
        (by simpa using right.parts_ne_nil d), ← hleft, ← hright, ← chars_combine]
      exact charsAt_of_le (Nat.le_refl _)
    · exact hsingle _
  | _ => exact hsingle _

/-- The sign of a connective is hidden in each of its parts: a part that has it at the top is no
part but made of parts. -/
theorem TypeExpr.passes_of_mem_parts {c : Connective} {t part : TypeExpr} (h : part ∈ t.parts c) :
    Passes c.sign 0 (part.charsAt c.precedence) := by
  have hname : isNameChar c.sign = false := by cases c <;> decide
  have hne := precedence_ne_of_mem_parts h
  rcases Nat.lt_or_gt_of_ne hne with hlt | hgt
  · -- A looser part stands in parentheses, a tighter one hides the sign by itself.
    rw [charsAt_of_lt hlt]
    exact Passes.enclosed (isNeutral_sign c) (by decide)
      (part.passes (isNeutral_sign c) hname 1 fun _ _ _ => Nat.le_refl 1)
  · rw [charsAt_of_le (Nat.le_of_lt hgt)]
    refine part.passes (isNeutral_sign c) hname 0 fun d hsign hle => ?_
    rw [← sign_inj hsign] at hle
    omega

/-- Cutting a text at a sign gives the texts of the parts. -/
theorem split_parts (c : Connective) (t : TypeExpr) :
    splitTopLevel c.sign (t.charsAt c.precedence) =
      (t.parts c).map (TypeExpr.charsAt c.precedence) := by
  rw [TypeExpr.charsAt_eq]
  refine splitTopLevel_join (isNeutral_sign c) (by simpa using t.parts_ne_nil c) ?_
  intro piece hpiece
  obtain ⟨part, hpart, rfl⟩ := List.mem_map.1 hpiece
  exact TypeExpr.passes_of_mem_parts hpart

/-! ### The same type -/

/-- The names with a meaning of their own. -/
def arrayName : Name := .ofText "Array" (by decide)

@[inherit_doc arrayName]
def partialName : Name := .ofText "Partial" (by decide)

@[inherit_doc arrayName]
def pickName : Name := .ofText "Pick" (by decide)

mutual

/-- Types that differ in the order and grouping of members and in the two spellings only. -/
inductive Same : TypeExpr → TypeExpr → Prop where
  | refl (t) : Same t t
  | symm {t u} : Same t u → Same u t
  | trans {t u v} : Same t u → Same u v → Same t v
  | comm (c a b) : Same (.combine c a b) (.combine c b a)
  | assoc (c a b d) : Same (.combine c (.combine c a b) d) (.combine c a (.combine c b d))
  | array_spelling (t) : Same (.generic arrayName (.last t)) (.array t)
  | partial_spelling (a b) :
    Same (.generic partialName (.last (.generic pickName (.more a (.last b)))))
      (.generic pickName (.more (.generic partialName (.last a)) (.last b)))
  | combine (c) {a b a' b'} : Same a a' → Same b b' → Same (.combine c a b) (.combine c a' b')
  | array {t u} : Same t u → Same (.array t) (.array u)
  | generic (head) {as bs} : SameArguments as bs → Same (.generic head as) (.generic head bs)

/-- Arguments that are the same one by one. -/
inductive SameArguments : Arguments → Arguments → Prop where
  | last {a b} : Same a b → SameArguments (.last a) (.last b)
  | more {a b as bs} : Same a b → SameArguments as bs → SameArguments (.more a as) (.more b bs)

end

/-- Neither the order of members nor a spelling changes how tightly a type holds together. -/
theorem Same.precedence_eq {t u : TypeExpr} : Same t u → t.precedence = u.precedence
  | .symm h => h.precedence_eq.symm
  | .trans h h' => h.precedence_eq.trans h'.precedence_eq
  | .refl _ | .comm .. | .assoc .. | .array_spelling _ | .partial_spelling .. | .combine .. |
    .array _ | .generic .. => rfl

/-- Arguments are the same if they are so one by one. -/
theorem sameArguments_of_forall₂ {as bs : Arguments} (h : List.Forall₂ Same as.toList bs.toList) :
    SameArguments as bs := by
  induction as generalizing bs with
  | last a =>
    cases bs with
    | last b =>
      cases h with
      | cons hhead => exact .last hhead
    | more b bs =>
      cases h with
      | cons _ htail => exact absurd (List.forall₂_nil_left_iff.1 htail) bs.toList_ne_nil
  | more a as ih =>
    cases bs with
    | last b =>
      cases h with
      | cons _ htail => exact absurd (List.forall₂_nil_right_iff.1 htail) as.toList_ne_nil
    | more b bs =>
      cases h with
      | cons hhead htail => exact .more hhead (ih htail)

/-- Parts combined from the right. -/
def chain (c : Connective) : TypeExpr → List TypeExpr → TypeExpr
  | first, [] => first
  | first, second :: rest => .combine c first (chain c second rest)

/-- The text of a chain is that of its members with the sign between them. -/
theorem charsAt_chain (c : Connective) (first : TypeExpr) (rest : List TypeExpr) :
    (chain c first rest).charsAt c.precedence =
      [c.sign].intercalate ((first :: rest).map (TypeExpr.charsAt c.precedence)) := by
  induction rest generalizing first with
  | nil => rw [chain, List.map_singleton, List.intercalate_singleton]
  | cons second rest ih =>
    rw [chain, List.map_cons, List.map_cons, List.intercalate_cons_cons, ← List.map_cons, ← ih,
      List.append_assoc, List.singleton_append, ← TypeExpr.chars_combine]
    exact TypeExpr.charsAt_of_le (Nat.le_refl _)

/-- A chain of two chains is a chain of all members. -/
theorem same_chain_append (c : Connective) (a : TypeExpr) (as : List TypeExpr) (b : TypeExpr)
    (bs : List TypeExpr) :
    Same (.combine c (chain c a as) (chain c b bs)) (chain c a (as ++ b :: bs)) := by
  induction as generalizing a with
  | nil => exact .refl _
  | cons second as ih => exact (Same.assoc c a _ _).trans (.combine c (.refl a) (ih second))

/-- A type is the same as its parts combined. -/
theorem same_chain_parts {c : Connective} {t first : TypeExpr} {rest : List TypeExpr}
    (h : t.parts c = first :: rest) : Same t (chain c first rest) := by
  induction t generalizing first rest with
  | combine d left right hleft hright =>
    rw [TypeExpr.parts] at h
    split at h
    · rename_i heq
      subst heq
      -- Both sides have parts, and theirs one behind the other are the parts of the whole.
      obtain ⟨a, as, has⟩ := List.exists_cons_of_ne_nil (left.parts_ne_nil d)
      obtain ⟨b, bs, hbs⟩ := List.exists_cons_of_ne_nil (right.parts_ne_nil d)
      rw [has, hbs] at h
      cases h
      exact (Same.combine d (hleft has) (hright hbs)).trans (same_chain_append d _ as b bs)
    · cases h
      exact .refl _
  | _ =>
    cases h
    exact .refl _

/-- The members of a chain may be put in another order. -/
theorem same_chain_of_perm {c : Connective} {xs ys : List TypeExpr} (h : xs.Perm ys)
    {a b : TypeExpr} {as bs : List TypeExpr} (hxs : xs = a :: as) (hys : ys = b :: bs) :
    Same (chain c a as) (chain c b bs) := by
  -- The induction is on how one order is made of the other; a chain is never empty, so lists of no
  -- members are ruled out in each case.
  induction h generalizing a as b bs with
  | nil => cases hxs
  | @cons x xs ys hperm ih =>
    cases hxs
    cases hys
    cases xs with
    | nil =>
      cases hperm.nil_eq
      exact .refl _
    | cons a as =>
      cases ys with
      | nil => exact absurd hperm.eq_nil (List.cons_ne_nil a as)
      | cons b bs => exact .combine c (.refl x) (ih rfl rfl)
  | swap x y zs =>
    cases hxs
    cases hys
    cases zs with
    | nil => exact .comm c y x
    | cons z zs =>
      -- The two in front change places, the rest stays.
      have hswap := (Same.comm c y x).combine c (.refl (chain c z zs))
      exact ((Same.assoc c y x _).symm.trans hswap).trans (.assoc c x y _)
  | @trans xs middle ys hfirst _ ihFirst ihSecond =>
    obtain ⟨m, ms, hmiddle⟩ := List.exists_cons_of_ne_nil (l := middle) fun hnil => by
      rw [hxs, hnil] at hfirst
      exact List.cons_ne_nil a as hfirst.eq_nil
    exact (ihFirst hxs hmiddle).trans (ihSecond hmiddle hys)

/-- The members of a chain may be exchanged for the same types. -/
theorem same_chain_of_forall₂ {c : Connective} {a b : TypeExpr} {as bs : List TypeExpr}
    (h : List.Forall₂ Same (a :: as) (b :: bs)) : Same (chain c a as) (chain c b bs) := by
  induction as generalizing a b bs with
  | nil =>
    obtain ⟨hhead, htail⟩ := List.forall₂_cons.1 h
    cases List.forall₂_nil_left_iff.1 htail
    exact hhead
  | cons second as ih =>
    obtain ⟨hhead, htail⟩ := List.forall₂_cons.1 h
    cases bs with
    | nil => cases htail
    | cons b' bs => exact .combine c hhead (ih htail)

/-- Parts in another order, each replaced by the same type, make the same type. -/
theorem exists_same_of_parts {c : Connective} {t : TypeExpr} {middle others : List TypeExpr}
    (hperm : (t.parts c).Perm middle) (hsame : List.Forall₂ Same middle others) :
    ∃ u, Same t u ∧ u.charsAt c.precedence =
      [c.sign].intercalate (others.map (TypeExpr.charsAt c.precedence)) := by
  obtain ⟨a, as, has⟩ := List.exists_cons_of_ne_nil (t.parts_ne_nil c)
  obtain ⟨m, ms, rfl⟩ := List.exists_cons_of_ne_nil (l := middle) fun hnil => by
    rw [has, hnil] at hperm
    exact List.cons_ne_nil a as hperm.eq_nil
  cases others with
  | nil => cases hsame
  | cons b bs =>
    refine ⟨chain c b bs, ?_, charsAt_chain c b bs⟩
    exact ((same_chain_parts has).trans (same_chain_of_perm hperm has rfl)).trans
      (same_chain_of_forall₂ hsame)

/-- Types with the same parts, one by one, are the same. -/
theorem same_of_parts {c : Connective} {t u : TypeExpr}
    (h : List.Forall₂ Same (t.parts c) (u.parts c)) : Same t u := by
  obtain ⟨a, as, has⟩ := List.exists_cons_of_ne_nil (t.parts_ne_nil c)
  obtain ⟨b, bs, hbs⟩ := List.exists_cons_of_ne_nil (u.parts_ne_nil c)
  rw [has, hbs] at h
  exact ((same_chain_parts has).trans (same_chain_of_forall₂ h)).trans (same_chain_parts hbs).symm

/-! ### Reading a text -/

/-- Lists with equal images are related one by one if elements with equal images are. -/
theorem forall₂_of_map_eq {α β : Type} {f : α → β} {R : α → α → Prop} {xs ys : List α}
    (h : xs.map f = ys.map f) (hR : ∀ x ∈ xs, ∀ y ∈ ys, f x = f y → R x y) :
    List.Forall₂ R xs ys := by
  induction xs generalizing ys with
  | nil =>
    cases List.map_eq_nil_iff.1 h.symm
    exact .nil
  | cons x xs ih =>
    obtain ⟨y, ys', rfl, hxy, hrest⟩ := List.map_eq_cons_iff.1 h.symm
    refine .cons (hR x List.mem_cons_self y List.mem_cons_self hxy.symm) (ih hrest.symm ?_)
    exact fun x hx y hy => hR x (List.mem_cons_of_mem _ hx) y (List.mem_cons_of_mem _ hy)

/-- A piece is no longer than the joined text. -/
theorem length_le_join {separator : Char} {piece : List Char} {pieces : List (List Char)}
    (h : piece ∈ pieces) : piece.length ≤ ([separator].intercalate pieces).length := by
  induction pieces with
  | nil => cases h
  | cons first more ih =>
    cases more with
    | nil =>
      cases List.mem_singleton.1 h
      exact Nat.le_of_eq (congrArg _ List.intercalate_singleton.symm)
    | cons second more =>
      rw [List.intercalate_cons_cons, List.length_append, List.length_append]
      rcases List.mem_cons.1 h with rfl | h
      · omega
      · exact Nat.le_trans (ih h) (Nat.le_add_left _ _)

/-- A name and what follows it can be read off a text. -/
theorem nameChars_append_inj {a b x y : List Char} {c d : Char}
    (ha : ∀ e ∈ a, isNameChar e = true) (hb : ∀ e ∈ b, isNameChar e = true)
    (hc : isNameChar c = false) (hd : isNameChar d = false) (h : a ++ c :: x = b ++ d :: y) :
    a = b ∧ c = d ∧ x = y := by
  induction a generalizing b with
  | nil =>
    cases b with
    | nil => exact ⟨rfl, List.cons.inj h⟩
    | cons e b =>
      have heq : c = e := (List.cons.inj h).1
      exact absurd heq.symm (ne_of_isNameChar (hb e List.mem_cons_self) hc)
  | cons e a ih =>
    cases b with
    | nil =>
      have heq : e = d := (List.cons.inj h).1
      exact absurd heq (ne_of_isNameChar (ha e List.mem_cons_self) hd)
    | cons f b =>
      rw [List.cons_append, List.cons_append, List.cons.injEq] at h
      obtain ⟨rfl, hrest⟩ := h
      rw [List.forall_mem_cons] at ha hb
      obtain ⟨rfl, hcd, hxy⟩ := ih ha.2 hb.2 hrest
      exact ⟨rfl, hcd, hxy⟩

/-! The last character of a text tells names, arrays and generic types apart. -/

/-- A name ends in a character of names. -/
theorem Name.getLast?_ne (name : Name) {c : Char} (hc : isNameChar c = false) :
    name.chars.getLast? ≠ some c :=
  fun heq => name.not_mem hc (List.mem_of_getLast? heq)

/-- The text of an array ends in a bracket. -/
theorem TypeExpr.getLast?_array (element : TypeExpr) : element.array.chars.getLast? = some ']' := by
  rw [chars_array]
  simp

/-- The text of a generic type ends in an angle bracket. -/
theorem TypeExpr.getLast?_generic (head : Name) (arguments : Arguments) :
    (generic head arguments).chars.getLast? = some '>' := by
  rw [chars, ← List.cons_append, ← List.append_assoc, List.getLast?_concat]

/-- None of the tightest types ends in a parenthesis. -/
theorem TypeExpr.getLast?_ne_of_operand {t : TypeExpr} (h : t.precedence = 2) :
    t.chars.getLast? ≠ some ')' := by
  cases t with
  | name n => rw [chars]; exact n.getLast?_ne (by decide)
  | combine c left right => cases c <;> cases h
  | array element => rw [getLast?_array]; decide
  | generic head arguments => rw [getLast?_generic]; decide

/-- A part is no longer than the type it is a part of. -/
theorem TypeExpr.length_charsAt_le {c : Connective} {t part : TypeExpr} (h : part ∈ t.parts c) :
    (part.charsAt c.precedence).length ≤ (t.charsAt c.precedence).length := by
  rw [t.charsAt_eq c]
  exact length_le_join (List.mem_map_of_mem h)

section Reading

-- Texts shorter than `bound` are known to say which type they are of.
variable {bound : Nat} (ih : ∀ t u : TypeExpr, t.chars.length < bound → t.chars = u.chars → Same t u)
include ih

/-- Types that stand in the same text at one place are the same, when those that stand there without
parentheses are. -/
theorem same_of_charsAt_eq {place : Nat} {t u : TypeExpr} (hlength : (t.charsAt place).length ≤ bound)
    (ht : t.precedence < place ∨ t.precedence = 2) (hu : u.precedence < place ∨ u.precedence = 2)
    (hoperand : t.precedence = 2 → u.precedence = 2 → t.chars = u.chars → Same t u)
    (h : t.charsAt place = u.charsAt place) : Same t u := by
  -- A text with parentheses ends in one, the text of an operand does not.
  have hmixed (v : TypeExpr) (cs : List Char) (hv : v.precedence = 2) :
      '(' :: (cs ++ [')']) ≠ v.chars := by
    intro heq
    refine v.getLast?_ne_of_operand hv ?_
    rw [← heq, ← List.cons_append, List.getLast?_concat]
  by_cases hinside : t.precedence < place <;> by_cases hinside' : u.precedence < place
  · rw [TypeExpr.charsAt_of_lt hinside] at hlength
    rw [TypeExpr.charsAt_of_lt hinside, TypeExpr.charsAt_of_lt hinside', List.cons.injEq,
      List.append_cancel_right_eq] at h
    refine ih t u ?_ h.2
    simp only [List.length_cons, List.length_append] at hlength
    omega
  · rw [TypeExpr.charsAt_of_lt hinside, TypeExpr.charsAt_of_le (Nat.not_lt.1 hinside')] at h
    exact absurd h (hmixed u _ (hu.resolve_left hinside'))
  · rw [TypeExpr.charsAt_of_le (Nat.not_lt.1 hinside), TypeExpr.charsAt_of_lt hinside'] at h
    exact absurd h.symm (hmixed t _ (ht.resolve_left hinside))
  · rw [TypeExpr.charsAt_of_le (Nat.not_lt.1 hinside),
      TypeExpr.charsAt_of_le (Nat.not_lt.1 hinside')] at h
    exact hoperand (ht.resolve_left hinside) (hu.resolve_left hinside') h

/-- Arrays with the same text are the same if shorter types are. -/
theorem same_arrays {t u : TypeExpr} (hlength : (t.array).chars.length ≤ bound)
    (h : t.array.chars = u.array.chars) : Same t.array u.array := by
  have hprecedence (v : TypeExpr) : v.precedence < 2 ∨ v.precedence = 2 :=
    Nat.lt_or_eq_of_le v.precedence_le
  rw [TypeExpr.chars_array, TypeExpr.chars_array, List.append_cancel_right_eq] at h
  rw [TypeExpr.chars_array, List.length_append] at hlength
  refine .array (same_of_charsAt_eq ih (by omega) (hprecedence t) (hprecedence u) ?_ h)
  intro ht _ hchars
  rw [TypeExpr.charsAt_of_le (Nat.le_of_eq ht.symm)] at hlength
  exact ih t u (by simp only [List.length_cons, List.length_nil] at hlength; omega) hchars

/-- Generic types with the same text have the same head, and the same arguments if shorter types are
the same. -/
theorem same_generics {head head' : Name} {as bs : Arguments}
    (hlength : (TypeExpr.generic head as).chars.length ≤ bound)
    (h : (TypeExpr.generic head as).chars = (TypeExpr.generic head' bs).chars) :
    Same (.generic head as) (.generic head' bs) := by
  rw [TypeExpr.chars] at hlength
  rw [TypeExpr.chars, TypeExpr.chars] at h
  obtain ⟨hhead, -, hrest⟩ := nameChars_append_inj head.valid head'.valid (by decide) (by decide) h
  cases Name.ext hhead
  -- The brackets fall away, and commas outside brackets separate the arguments.
  have hsplit := congrArg (splitTopLevel ',') (List.append_cancel_right hrest)
  rw [split_arguments, split_arguments] at hsplit
  refine .generic head (sameArguments_of_forall₂ (forall₂_of_map_eq hsplit fun a ha b _ hab => ?_))
  refine ih a b ?_ hab
  have hargument : a.chars.length ≤ as.chars.length := by
    rw [Arguments.chars_eq]
    exact length_le_join (List.mem_map_of_mem ha)
  simp only [List.length_append, List.length_cons] at hlength
  omega

/-- Names, arrays and generic types with the same text are the same if shorter types are. -/
theorem same_operands {t u : TypeExpr} (hlength : t.chars.length ≤ bound) (ht : t.precedence = 2)
    (hu : u.precedence = 2) (h : t.chars = u.chars) : Same t u := by
  have hlast := congrArg List.getLast? h
  -- The last character says which of the three both are.
  cases t with
  | combine c => cases c <;> cases ht
  | name a =>
    cases u with
    | combine c => cases c <;> cases hu
    | name b =>
      rw [TypeExpr.chars, TypeExpr.chars] at h
      cases Name.ext h
      exact .refl _
    | array e =>
      rw [TypeExpr.getLast?_array, TypeExpr.chars] at hlast
      exact absurd hlast (a.getLast?_ne (by decide))
    | generic head as =>
      rw [TypeExpr.getLast?_generic, TypeExpr.chars] at hlast
      exact absurd hlast (a.getLast?_ne (by decide))
  | array e =>
    cases u with
    | combine c => cases c <;> cases hu
    | name b =>
      rw [TypeExpr.getLast?_array, TypeExpr.chars] at hlast
      exact absurd hlast.symm (b.getLast?_ne (by decide))
    | array e' => exact same_arrays ih hlength h
    | generic head as =>
      rw [TypeExpr.getLast?_array, TypeExpr.getLast?_generic] at hlast
      exact absurd hlast (by decide)
  | generic head as =>
    cases u with
    | combine c => cases c <;> cases hu
    | name b =>
      rw [TypeExpr.getLast?_generic, TypeExpr.chars] at hlast
      exact absurd hlast.symm (b.getLast?_ne (by decide))
    | array e' =>
      rw [TypeExpr.getLast?_array, TypeExpr.getLast?_generic] at hlast
      exact absurd hlast (by decide)
    | generic head' bs => exact same_generics ih hlength h

/-- Parts of intersections are operands or unions in parentheses. -/
theorem same_members {t u : TypeExpr} (hlength : t.chars.length ≤ bound) (ht : t.precedence ≠ 0)
    (hu : u.precedence ≠ 0) (h : t.chars = u.chars) : Same t u := by
  -- Both are cut into their parts at the sign of intersections, and each part is a tighter type or
  -- a union in parentheses.
  let c := Connective.intersection
  have hcharsAt (v : TypeExpr) (hv : v.precedence ≠ 0) : v.charsAt c.precedence = v.chars :=
    TypeExpr.charsAt_of_le (Nat.one_le_iff_ne_zero.2 hv)
  have hpart {v part : TypeExpr} (hpart : part ∈ v.parts c) :
      part.precedence < c.precedence ∨ part.precedence = 2 := by
    have hne : part.precedence ≠ 1 := TypeExpr.precedence_ne_of_mem_parts hpart
    have hle := part.precedence_le
    show part.precedence < 1 ∨ _
    omega
  rw [← hcharsAt t ht] at hlength
  rw [← hcharsAt t ht, ← hcharsAt u hu] at h
  have hsplit := congrArg (splitTopLevel c.sign) h
  rw [split_parts, split_parts] at hsplit
  refine same_of_parts (forall₂_of_map_eq hsplit fun a ha b hb hab => ?_)
  have hshort := Nat.le_trans (TypeExpr.length_charsAt_le ha) hlength
  refine same_of_charsAt_eq ih hshort (hpart ha) (hpart hb) (fun haTwo hbTwo hchars => ?_) hab
  rw [TypeExpr.charsAt_of_le (haTwo ▸ Nat.le_succ 1)] at hshort
  exact same_operands ih hshort haTwo hbTwo hchars

end Reading

/-- The text of a type says which type it is. -/
theorem same_of_chars_eq {t u : TypeExpr} (h : t.chars = u.chars) : Same t u := by
  -- By the length of the text: inside brackets of any kind it gets shorter.
  induction hbound : t.chars.length using Nat.strongRecOn generalizing t u with
  | _ bound ih =>
    have ih (t u : TypeExpr) (hlength : t.chars.length < bound) (h : t.chars = u.chars) : Same t u :=
      ih _ hlength h rfl
    have hsplit := congrArg (splitTopLevel Connective.union.sign) h
    rw [← t.charsAt_union, ← u.charsAt_union, split_parts, split_parts] at hsplit
    refine same_of_parts (forall₂_of_map_eq hsplit fun a ha b hb hab => ?_)
    rw [a.charsAt_union, b.charsAt_union] at hab
    have hshort := TypeExpr.length_charsAt_le ha
    rw [a.charsAt_union, t.charsAt_union, hbound] at hshort
    exact same_members ih hshort (TypeExpr.precedence_ne_of_mem_parts ha)
      (TypeExpr.precedence_ne_of_mem_parts hb) hab

end ChangeLens.TypeText
