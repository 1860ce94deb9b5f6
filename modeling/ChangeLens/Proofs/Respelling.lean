import ChangeLens.Proofs.TypeGrammar
import Mathlib.Data.List.TakeWhile

/-!
# `ChangeLens.Proofs.Respelling`: rewriting the text of a type rewrites the type

The two spelling rules work on flat text. This module says what they do to the printed text of a
type. `Spelled t cs` means that `cs` is the text of some type that is the same as `t`, and the result
is that a pass keeps it (`Spelled.respellUpTo`).

A match of a rule starts with a word and `<` and ends with the `>` that closes it, because what a
rule reads between them is `Balanced`. In a printed text every `<` belongs to a generic type, and
that type stands in a `Frame`: it can be exchanged for a type that is the same (`exists_frame`). So a
match is a generic type, provided the word is its whole name, and what is written in its place is the
text of the same type, provided the type needs no parentheses there. `Plain` says just that.
-/

set_option autoImplicit false

namespace ChangeLens.TypeText

open ChangeLens.Text

/-! ### Balanced texts -/

/-- Every `<` is closed by a `>`, and no other `>` occurs. -/
structure Balanced (cs : List Char) : Prop where
  total : cs.count '<' = cs.count '>'
  initial : ∀ before after, cs = before ++ after → before.count '>' ≤ before.count '<'

/-- A text without angle brackets is balanced. -/
theorem balanced_of_not_mem {cs : List Char} (hopening : '<' ∉ cs) (hclosing : '>' ∉ cs) :
    Balanced cs where
  total := by rw [List.count_eq_zero.2 hopening, List.count_eq_zero.2 hclosing]
  initial before after h := by
    have hnone : '>' ∉ before := fun hmem => hclosing (h ▸ List.mem_append_left after hmem)
    rw [List.count_eq_zero.2 hnone]
    exact Nat.zero_le _

/-- So is a single character that is none. -/
theorem balanced_single {c : Char} (hopening : c ≠ '<') (hclosing : c ≠ '>') : Balanced [c] :=
  balanced_of_not_mem (by simpa using hopening.symm) (by simpa using hclosing.symm)

/-- Balanced texts one behind the other are balanced. -/
theorem Balanced.append {a b : List Char} (ha : Balanced a) (hb : Balanced b) :
    Balanced (a ++ b) where
  total := by rw [List.count_append, List.count_append, ha.total, hb.total]
  initial before after h := by
    rcases List.append_eq_append_iff.1 h with ⟨c, rfl, hc⟩ | ⟨c, hc, -⟩
    · have hinitial := hb.initial c after hc
      have htotal := ha.total
      rw [List.count_append, List.count_append]
      omega
    · exact ha.initial before c hc

/-- What follows a balanced text in a balanced text is balanced. -/
theorem Balanced.right {a b : List Char} (h : Balanced (a ++ b)) (ha : Balanced a) : Balanced b where
  total := by
    have htotal := h.total
    have haTotal := ha.total
    rw [List.count_append, List.count_append] at htotal
    omega
  initial before after hb := by
    have hinitial := h.initial (a ++ before) after (by rw [hb, List.append_assoc])
    have haTotal := ha.total
    rw [List.count_append, List.count_append] at hinitial
    omega

/-- A balanced text in a pair of brackets is balanced. -/
theorem Balanced.enclosed {cs : List Char} (h : Balanced cs) : Balanced ('<' :: (cs ++ ['>'])) where
  total := by
    have htotal := h.total
    simp only [List.count_cons, List.count_append, List.count_nil]
    simpa using htotal
  initial before after heq := by
    cases before with
    | nil => exact Nat.le_refl _
    | cons c before =>
      rw [List.cons_append, List.cons.injEq] at heq
      obtain ⟨rfl, heq⟩ := heq
      -- Either the initial part ends inside the brackets or the closing bracket is its last
      -- character.
      rcases List.append_eq_append_iff.1 heq with ⟨d, rfl, hd⟩ | ⟨d, hd, -⟩
      · have hcount : d.count '>' ≤ 1 := by
          have hlength := congrArg List.length hd
          rw [List.length_singleton, List.length_append] at hlength
          exact Nat.le_trans List.count_le_length (by omega)
        have htotal := h.total
        simp only [List.count_cons, List.count_append]
        simp
        omega
      · have hinitial := h.initial before d hd
        simp only [List.count_cons]
        simp
        omega

/-- The bracket that closes a balanced text is found where the text ends. -/
theorem Balanced.closing_inj {a b x y : List Char} (ha : Balanced a) (hb : Balanced b)
    (h : a ++ '>' :: x = b ++ '>' :: y) : a = b ∧ x = y := by
  have hlonger {a b x y : List Char} (ha : Balanced a) (hb : Balanced b) (c : List Char)
      (hc : b = a ++ c) (hrest : '>' :: x = c ++ '>' :: y) : c = [] := by
    cases c with
    | nil => rfl
    | cons d c =>
      obtain ⟨rfl, -⟩ := List.cons.inj hrest
      -- The bracket that closes `a` would close nothing in `b`.
      have hinitial := hb.initial (a ++ ['>']) c (by rw [hc, List.append_assoc]; rfl)
      have htotal := ha.total
      simp [List.count_append] at hinitial
      omega
  rcases List.append_eq_append_iff.1 h with ⟨c, hc, hrest⟩ | ⟨c, hc, hrest⟩
  · cases hlonger ha hb c hc hrest
    rw [List.append_nil] at hc
    exact ⟨hc.symm, (List.cons.inj hrest).2⟩
  · cases hlonger hb ha c hc hrest
    rw [List.append_nil] at hc
    exact ⟨hc, (List.cons.inj hrest).2.symm⟩

/-- No name has a bracket. -/
theorem Name.balanced (name : Name) : Balanced name.chars :=
  balanced_of_not_mem (name.not_mem (by decide)) (name.not_mem (by decide))

/-- The text of a type is balanced. -/
theorem TypeExpr.balanced (t : TypeExpr) : Balanced t.chars := by
  refine TypeExpr.chars_induct Name.balanced (fun sign hsign => ?_)
    (balanced_of_not_mem (by decide) (by decide)) (fun _ _ => Balanced.append) ?_ t
  · simp only [List.mem_cons, List.not_mem_nil, or_false] at hsign
    rcases hsign with rfl | rfl | rfl <;> exact balanced_single (by decide) (by decide)
  · intro opening closing cs hbrackets hcs
    simp only [List.mem_cons, Prod.mk.injEq, List.not_mem_nil, or_false] at hbrackets
    rcases hbrackets with ⟨rfl, rfl⟩ | ⟨rfl, rfl⟩ | ⟨rfl, rfl⟩
    · exact (balanced_single (c := '(') (by decide) (by decide)).append
        (hcs.append (balanced_single (by decide) (by decide)))
    · exact (balanced_single (c := '[') (by decide) (by decide)).append
        (hcs.append (balanced_single (by decide) (by decide)))
    · exact hcs.enclosed

/-- So is the text of a list of arguments. -/
theorem Arguments.balanced (arguments : Arguments) : Balanced arguments.chars := by
  induction arguments with
  | last argument => rw [chars]; exact argument.balanced
  | more argument rest ih =>
    rw [chars]
    exact argument.balanced.append ((balanced_single (c := ',') (by decide) (by decide)).append ih)

/-! ### What the rules read -/

/-- The groups a rule reads are whole groups, whatever its fuel is. -/
theorem balanced_take_groupsLength (fuel : Nat) (cs : List Char) :
    Balanced (cs.take (groupsLength fuel cs)) := by
  have hnil : Balanced [] := balanced_of_not_mem (by decide) (by decide)
  fun_induction groupsLength fuel cs with
  | case2 fuel rest inner after hafter ih =>
    have hinner : Balanced inner := by
      have hmem (c : Char) (hc : c ∈ inner) : c ≠ '<' ∧ c ≠ '>' := by
        simpa using List.mem_takeWhile_imp hc
      exact balanced_of_not_mem (fun hc => (hmem _ hc).1 rfl) (fun hc => (hmem _ hc).2 rfl)
    have hrest : '<' :: rest = ('<' :: (inner ++ ['>'])) ++ after := by
      have hdrop : inner ++ rest.drop inner.length = rest :=
        List.prefix_iff_eq_append.1 (List.takeWhile_prefix _)
      rw [← hdrop, hafter]
      simp
    -- A group without inner brackets, and the groups after it.
    have hlength : inner.length + 2 = ('<' :: (inner ++ ['>'])).length := by simp
    rw [hrest, hlength, List.take_append, Nat.add_sub_cancel_left, List.take_of_length_le (by omega)]
    exact hinner.enclosed.append ih
  | _ => exact hnil

/-- The argument a rule reads is the front of the text, and balanced. -/
theorem argument?_eq_some {stop cs argument rest : List Char}
    (h : argument? stop cs = some (argument, rest)) : cs = argument ++ rest ∧ Balanced argument := by
  -- A name up to a bracket or a stop, and the groups that follow it.
  let name := cs.takeWhile fun c => c != '<' && c != '>' && !stop.contains c
  let after := cs.drop name.length
  have hcs : cs = name ++ after := (List.prefix_iff_eq_append.1 (List.takeWhile_prefix _)).symm
  have hname : Balanced name := by
    have hmem (c : Char) (hc : c ∈ name) : c ≠ '<' ∧ c ≠ '>' := by
      have hnot := List.mem_takeWhile_imp hc
      simp only [Bool.and_eq_true, bne_iff_ne] at hnot
      exact hnot.1
    exact balanced_of_not_mem (fun hc => (hmem _ hc).1 rfl) (fun hc => (hmem _ hc).2 rfl)
  rw [argument?] at h
  split at h
  · cases h
  · simp only [Option.some.injEq, Prod.mk.injEq] at h
    obtain ⟨rfl, rfl⟩ := h
    refine ⟨?_, hname.append (balanced_take_groupsLength after.length after)⟩
    rw [List.append_assoc, List.take_append_drop]
    exact hcs

/-! ### Plain types -/

/-- Whether a name is longer than `word` and ends in it after a character that is no word
character, as `$Array` does: a rule that looks for the word finds it there. -/
def hidesWord (word : List Char) : List Char → Bool
  | [] => false
  | c :: rest => (!isWord c && rest == word) || hidesWord word rest

/-- A name hides a word if it ends in it and the character before the word is no word character. -/
theorem hidesWord_append {c : Char} (hc : isWord c = false) (before word : List Char) :
    hidesWord word (before ++ c :: word) = true := by
  induction before with
  | nil => simp [hidesWord, hc]
  | cons d before ih => simp [hidesWord, ih]

/-- How tightly the arguments hold together. -/
def Arguments.precedences (arguments : Arguments) : List Nat :=
  arguments.toList.map TypeExpr.precedence

/-- A generic type on which the rules of spelling do what they are meant to do. -/
structure PlainHead (head : Name) (precedences : List Nat) : Prop where
  /-- The name is not taken for `Array`. -/
  array : hidesWord arrayName.chars head.chars = false
  /-- The name is not taken for `Partial`. -/
  partialPick : hidesWord partialName.chars head.chars = false
  /-- An `Array` has one argument, and its text needs no parentheses before `[]`. -/
  element : head = arrayName → precedences = [2]
  /-- A `Pick` has no third argument. -/
  keys : head = pickName → precedences.length ≤ 2

mutual

/-- All generic types in a type are plain. -/
def TypeExpr.Plain : TypeExpr → Prop
  | .name _ => True
  | .combine _ left right => left.Plain ∧ right.Plain
  | .array element => element.Plain
  | .generic head arguments => PlainHead head arguments.precedences ∧ arguments.Plain

@[inherit_doc TypeExpr.Plain]
def Arguments.Plain : Arguments → Prop
  | .last argument => argument.Plain
  | .more argument rest => argument.Plain ∧ rest.Plain

end

/-- Arguments of the same type bind equally tight. -/
theorem SameArguments.precedences_eq {as bs : Arguments} :
    SameArguments as bs → as.precedences = bs.precedences
  | .last h => congrArg (fun precedence => [precedence]) h.precedence_eq
  | .more h hrest => congrArg₂ List.cons h.precedence_eq hrest.precedences_eq

/-! ### Texts of the same type -/

/-- A text of a plain type that is the same. -/
def TypeExpr.Spelled (t : TypeExpr) (cs : List Char) : Prop :=
  ∃ u, Same t u ∧ u.Plain ∧ u.chars = cs

@[inherit_doc TypeExpr.Spelled]
def Arguments.Spelled (as : Arguments) (cs : List Char) : Prop :=
  ∃ bs, SameArguments as bs ∧ bs.Plain ∧ bs.chars = cs

/-- A plain type is spelled as it is written. -/
theorem TypeExpr.Plain.spelled {t : TypeExpr} (h : t.Plain) : t.Spelled t.chars :=
  ⟨t, .refl t, h, rfl⟩

/-- So are plain arguments. -/
theorem Arguments.Plain.spelled {as : Arguments} (h : as.Plain) : as.Spelled as.chars :=
  ⟨as, sameArguments_of_forall₂ (List.forall₂_same.2 fun a _ => .refl a), h, rfl⟩

/-- A text of a type is one of every type that is the same. -/
theorem Same.spelled {t u : TypeExpr} {cs : List Char} (h : Same t u) (hu : u.Spelled cs) :
    t.Spelled cs := by
  obtain ⟨v, hv, hplain, hchars⟩ := hu
  exact ⟨v, h.trans hv, hplain, hchars⟩

/-- Texts of the members of a union or intersection make a text of it, in parentheses where a member
binds less tight. -/
theorem TypeExpr.Spelled.combine (c : Connective) {left right : TypeExpr} {cs ds : List Char}
    (hleft : left.Spelled cs) (hright : right.Spelled ds) :
    (TypeExpr.combine c left right).Spelled
      (parenthesize left.precedence c.precedence cs ++
        c.sign :: parenthesize right.precedence c.precedence ds) := by
  obtain ⟨a, ha, haPlain, rfl⟩ := hleft
  obtain ⟨b, hb, hbPlain, rfl⟩ := hright
  refine ⟨.combine c a b, .combine c ha hb, by rw [Plain]; exact ⟨haPlain, hbPlain⟩, ?_⟩
  rw [chars, ha.precedence_eq, hb.precedence_eq]

/-- A text of the element and brackets behind it make a text of the array. -/
theorem TypeExpr.Spelled.array {element : TypeExpr} {cs : List Char} (h : element.Spelled cs) :
    (TypeExpr.array element).Spelled (parenthesize element.precedence 2 cs ++ ['[', ']']) := by
  obtain ⟨e, he, hplain, rfl⟩ := h
  refine ⟨.array e, .array he, by rw [Plain]; exact hplain, ?_⟩
  rw [chars, he.precedence_eq]

/-- Texts of the arguments behind a plain head make a text of the generic type. -/
theorem Arguments.Spelled.generic {head : Name} {arguments : Arguments} {cs : List Char}
    (hhead : PlainHead head arguments.precedences) (h : arguments.Spelled cs) :
    (TypeExpr.generic head arguments).Spelled (head.chars ++ '<' :: (cs ++ ['>'])) := by
  obtain ⟨bs, hbs, hplain, rfl⟩ := h
  refine ⟨.generic head bs, .generic head hbs, ?_, by rw [TypeExpr.chars]⟩
  rw [TypeExpr.Plain, ← hbs.precedences_eq]
  exact ⟨hhead, hplain⟩

/-- A text of a single argument is one of the list. -/
theorem TypeExpr.Spelled.last {argument : TypeExpr} {cs : List Char} (h : argument.Spelled cs) :
    (Arguments.last argument).Spelled cs := by
  obtain ⟨a, ha, hplain, rfl⟩ := h
  exact ⟨.last a, .last ha, by rwa [Arguments.Plain], by rw [Arguments.chars]⟩

/-- A comma joins texts of the arguments. -/
theorem TypeExpr.Spelled.more {argument : TypeExpr} {rest : Arguments} {cs ds : List Char}
    (h : argument.Spelled cs) (hrest : rest.Spelled ds) :
    (Arguments.more argument rest).Spelled (cs ++ ',' :: ds) := by
  obtain ⟨a, ha, hplain, rfl⟩ := h
  obtain ⟨bs, hbs, hbsPlain, rfl⟩ := hrest
  exact ⟨.more a bs, .more ha hbs, by rw [Arguments.Plain]; exact ⟨hplain, hbsPlain⟩,
    by rw [Arguments.chars]⟩

/-! ### Frames -/

/-- A name that follows begins there. -/
def Detached (before : List Char) : Prop :=
  ∀ c, before.getLast? = some c → isNameChar c = false

/-- Nothing is detached from what follows it. -/
theorem detached_nil : Detached [] := fun _ hc => by cases hc

/-- Two detached texts make a detached one. -/
theorem Detached.append {a b : List Char} (ha : Detached a) (hb : Detached b) : Detached (a ++ b) := by
  intro c hc
  rw [List.getLast?_append] at hc
  cases hlast : b.getLast? with
  | none =>
    rw [hlast] at hc
    exact ha c hc
  | some d =>
    rw [hlast] at hc
    exact hb c (hlast.trans hc)

/-- A text is detached if it ends in a sign. -/
theorem detached_concat {sign : Char} (hsign : isNameChar sign = false) (before : List Char) :
    Detached (before ++ [sign]) := by
  intro c hc
  rw [List.getLast?_concat, Option.some.injEq] at hc
  rwa [← hc]

/-- A plain type stands between two texts, and whatever text of it stands there, the whole is a text
of the whole. -/
structure Frame (whole : List Char → Prop) (part : TypeExpr) (before after : List Char) : Prop where
  detached : Detached before
  plain : part.Plain
  exchange : ∀ cs, part.Spelled cs → whole (before ++ (cs ++ after))

/-- A plain type is a frame around itself. -/
theorem TypeExpr.Plain.frame {t : TypeExpr} (h : t.Plain) : Frame t.Spelled t [] [] where
  detached := detached_nil
  plain := h
  exchange cs hcs := by rwa [List.nil_append, List.append_nil]

/-- What stands in a part stands in the whole. -/
theorem Frame.inside {spelled whole : List Char → Prop} {inner : TypeExpr} {l r : List Char}
    (h : Frame spelled inner l r) {before after : List Char} (hdetached : Detached before)
    (hwhole : ∀ cs, spelled cs → whole (before ++ (cs ++ after))) :
    Frame whole inner (before ++ l) (r ++ after) where
  detached := hdetached.append h.detached
  plain := h.plain
  exchange cs hcs := by
    have hpart := hwhole _ (h.exchange cs hcs)
    simpa only [List.append_assoc] using hpart

/-- Each `<` of a text opens the arguments of a generic type in a frame. -/
def Framed (whole : List Char → Prop) (cs : List Char) : Prop :=
  ∀ x y, cs = x ++ '<' :: y → ∃ head arguments before after,
    Frame whole (.generic head arguments) before after ∧ x = before ++ head.chars ∧
      y = arguments.chars ++ '>' :: after

/-- A character at which a text is split is in the text. -/
theorem mem_of_eq_append {α : Type} {cs x y : List α} {c : α} (h : cs = x ++ c :: y) : c ∈ cs :=
  h ▸ List.mem_append_right x List.mem_cons_self

/-- Where two texts are split at a character, it is in the first or in the second of them. -/
theorem append_eq_append_cons {α : Type} {a b x y : List α} {c : α} (h : a ++ b = x ++ c :: y) :
    (∃ z, a = x ++ c :: z ∧ y = z ++ b) ∨ ∃ z, x = a ++ z ∧ b = z ++ c :: y := by
  rcases List.append_eq_append_iff.1 h with ⟨z, hx, hb⟩ | ⟨z, ha, hy⟩
  · exact Or.inr ⟨z, hx, hb⟩
  · cases z with
    | nil => exact Or.inr ⟨[], by rw [ha, List.append_nil, List.append_nil], hy.symm⟩
    | cons d z =>
      rw [List.cons_append, List.cons.injEq] at hy
      obtain ⟨rfl, hy⟩ := hy
      exact Or.inl ⟨z, ha, hy⟩

/-- The parentheses at a place, or their absence, and where a character is found between them. -/
theorem exists_parentheses (precedence place : Nat) {c : Char} (hc : c ∉ ['(', ')']) :
    ∃ opening closing : List Char, Detached opening ∧ Balanced opening ∧
      (∀ cs, parenthesize precedence place cs = opening ++ (cs ++ closing)) ∧
      ∀ cs x y, parenthesize precedence place cs = x ++ c :: y →
        ∃ x' y', cs = x' ++ c :: y' ∧ x = opening ++ x' ∧ y = y' ++ closing := by
  have hmem {sign : Char} {x y : List Char} (heq : [sign] = x ++ c :: y) : c = sign :=
    List.mem_singleton.1 (mem_of_eq_append heq)
  simp only [List.mem_cons, List.not_mem_nil, or_false, not_or] at hc
  -- With parentheses, the character is neither of them; without, the texts are the same.
  by_cases h : precedence < place
  · refine ⟨['('], [')'], detached_concat (by decide) [],
      balanced_of_not_mem (by decide) (by decide), fun cs => if_pos h, fun cs x y heq => ?_⟩
    rw [parenthesize, if_pos h] at heq
    have hsplit := append_eq_append_cons (a := ['(']) (b := cs ++ [')']) heq
    rcases hsplit with ⟨z, hz, -⟩ | ⟨z, rfl, hz⟩
    · exact absurd (hmem hz) hc.1
    · rcases append_eq_append_cons hz with ⟨w, hw, hy⟩ | ⟨w, -, hw⟩
      · exact ⟨z, w, hw, rfl, hy⟩
      · exact absurd (hmem hw) hc.2
  · refine ⟨[], [], detached_nil, balanced_of_not_mem (by decide) (by decide), ?_, ?_⟩
    · intro cs
      rw [parenthesize, if_neg h, List.append_nil, List.nil_append]
    · intro cs x y heq
      rw [parenthesize, if_neg h] at heq
      exact ⟨x, y, heq, rfl, by rw [List.append_nil]⟩

/-- What frames the brackets of a part frames them in the whole, when the whole is spelled with any
text of the part. -/
theorem Framed.inside {spelled whole : List Char → Prop} {cs : List Char} (hpart : Framed spelled cs)
    {before after x y : List Char} (hdetached : Detached before)
    (hwhole : ∀ cs, spelled cs → whole (before ++ (cs ++ after))) (h : cs = x ++ '<' :: y) :
    ∃ head arguments before' after', Frame whole (.generic head arguments) before' after' ∧
      before ++ x = before' ++ head.chars ∧ y ++ after = arguments.chars ++ '>' :: after' := by
  obtain ⟨head, arguments, l, r, hframe, rfl, rfl⟩ := hpart x y h
  refine ⟨head, arguments, before ++ l, r ++ after, hframe.inside hdetached hwhole, ?_, ?_⟩
  · rw [List.append_assoc]
  · rw [List.append_assoc, List.cons_append]

/-- Every bracket in a list of arguments is framed if those of each argument are. -/
theorem framed_arguments (arguments : Arguments) (hplain : arguments.Plain)
    (h : ∀ argument ∈ arguments.toList, argument.Plain → Framed argument.Spelled argument.chars) :
    Framed arguments.Spelled arguments.chars := by
  induction arguments with
  | last argument =>
    rw [Arguments.Plain] at hplain
    intro x y heq
    rw [Arguments.chars] at heq
    have hlast (cs : List Char) (hcs : argument.Spelled cs) :
        (Arguments.last argument).Spelled ([] ++ (cs ++ [])) := by
      rw [List.nil_append, List.append_nil]
      exact hcs.last
    have hinside := (h argument List.mem_cons_self hplain).inside detached_nil hlast heq
    rwa [List.nil_append, List.append_nil] at hinside
  | more argument rest ih =>
    rw [Arguments.Plain] at hplain
    rw [Arguments.toList, List.forall_mem_cons] at h
    intro x y heq
    rw [Arguments.chars] at heq
    -- The bracket is in the first argument, or behind the comma in the other ones.
    rcases append_eq_append_cons heq with ⟨z, hz, rfl⟩ | ⟨z, rfl, hz⟩
    · have hmore (cs : List Char) (hcs : argument.Spelled cs) :
          (Arguments.more argument rest).Spelled ([] ++ (cs ++ ',' :: rest.chars)) :=
        hcs.more hplain.2.spelled
      exact (h.1 hplain.1).inside detached_nil hmore hz
    · rcases List.cons_eq_append_iff.1 hz with ⟨-, hcons⟩ | ⟨z, rfl, hrest⟩
      · exact absurd (List.cons.inj hcons).1 (by decide)
      · have hmore (cs : List Char) (hcs : rest.Spelled cs) :
            (Arguments.more argument rest).Spelled ((argument.chars ++ [',']) ++ (cs ++ [])) := by
          rw [List.append_nil, List.append_assoc]
          exact hplain.1.spelled.more hcs
        have hinside := (ih hplain.2 h.2).inside (detached_concat (by decide) _) hmore hrest
        rwa [List.append_nil, List.append_assoc] at hinside

/-- Every opening bracket in the text of a plain type is that of a generic type, and all around it
may stay when that type is spelled in another way. -/
theorem framed_chars (t : TypeExpr) (hplain : t.Plain) : Framed t.Spelled t.chars := by
  have hname (name : Name) (x y : List Char) : name.chars ≠ x ++ '<' :: y := fun heq =>
    name.not_mem (by decide) (mem_of_eq_append heq)
  -- By induction on the type: a bracket stands in one of its parts, or the type is generic and the
  -- bracket is its own. In the first case the rest of the type is added to the frame.
  induction t with
  | name name =>
    intro x y heq
    rw [TypeExpr.chars] at heq
    exact absurd heq (hname name x y)
  | combine c left right hleft hright =>
    rw [TypeExpr.Plain] at hplain
    intro x y heq
    obtain ⟨o, cl, ho, -, hparens, hfind⟩ :=
      exists_parentheses left.precedence c.precedence (c := '<') (by decide)
    obtain ⟨o', cl', ho', -, hparens', hfind'⟩ :=
      exists_parentheses right.precedence c.precedence (c := '<') (by decide)
    rw [TypeExpr.chars] at heq
    rcases append_eq_append_cons heq with ⟨z, hz, rfl⟩ | ⟨z, rfl, hz⟩
    · -- In the left member: the sign and the right one follow.
      obtain ⟨x', y', hchars, rfl, rfl⟩ := hfind _ _ _ hz
      rw [List.append_assoc]
      refine (hleft hplain.1).inside ho (fun cs hcs => ?_) hchars
      have hcombined := hcs.combine c hplain.2.spelled
      rwa [hparens, List.append_assoc, List.append_assoc] at hcombined
    · rcases List.cons_eq_append_iff.1 hz with ⟨-, hcons⟩ | ⟨z, rfl, hrest⟩
      · cases c <;> exact absurd (List.cons.inj hcons).1 (by decide)
      · -- In the right member: the left one and the sign stand before it.
        obtain ⟨x', y', hchars, rfl, rfl⟩ := hfind' _ _ _ hrest
        have hcombine (cs : List Char) (hcs : right.Spelled cs) :
            (TypeExpr.combine c left right).Spelled
              ((parenthesize left.precedence c.precedence left.chars ++ [c.sign] ++ o') ++
                (cs ++ cl')) := by
          have hcombined := hplain.1.spelled.combine c hcs
          rw [hparens'] at hcombined
          simpa only [List.append_assoc, List.cons_append, List.nil_append] using hcombined
        have hsign : isNameChar c.sign = false := by cases c <;> decide
        have hinside := (hright hplain.2).inside ((detached_concat hsign _).append ho') hcombine hchars
        simpa only [List.append_assoc, List.cons_append, List.nil_append] using hinside
  | array element ih =>
    rw [TypeExpr.Plain] at hplain
    intro x y heq
    obtain ⟨o, cl, ho, -, hparens, hfind⟩ :=
      exists_parentheses element.precedence 2 (c := '<') (by decide)
    rw [TypeExpr.chars] at heq
    rcases append_eq_append_cons heq with ⟨z, hz, rfl⟩ | ⟨z, rfl, hz⟩
    · obtain ⟨x', y', hchars, rfl, rfl⟩ := hfind _ _ _ hz
      rw [List.append_assoc]
      refine (ih hplain).inside ho (fun cs hcs => ?_) hchars
      have harray := hcs.array
      rwa [hparens, List.append_assoc, List.append_assoc] at harray
    · exact absurd (mem_of_eq_append hz) (by decide)
  | generic head arguments ih =>
    have hwhole := hplain
    rw [TypeExpr.Plain] at hplain
    intro x y heq
    rw [TypeExpr.chars] at heq
    rcases append_eq_append_cons heq with ⟨z, hz, -⟩ | ⟨z, rfl, hz⟩
    · exact absurd hz (hname head x z)
    · rcases List.cons_eq_append_iff.1 hz with ⟨rfl, hcons⟩ | ⟨z, rfl, hrest⟩
      · -- This type's own bracket.
        obtain ⟨-, rfl⟩ := List.cons.inj hcons
        exact ⟨head, arguments, [], [], hwhole.frame, by simp, rfl⟩
      · rcases append_eq_append_cons hrest with ⟨w, hw, rfl⟩ | ⟨w, -, hw⟩
        · have hgeneric (cs : List Char) (hcs : arguments.Spelled cs) :
              (TypeExpr.generic head arguments).Spelled ((head.chars ++ ['<']) ++ (cs ++ ['>'])) := by
            rw [List.append_assoc]
            exact hcs.generic hplain.1
          have hframed := framed_arguments arguments hplain.2 ih
          have hinside := hframed.inside (detached_concat (by decide) _) hgeneric hw
          simpa only [List.append_assoc, List.singleton_append] using hinside
        · exact absurd (mem_of_eq_append hw) (by decide)

/-! ### One match -/

/-- A word that a rule finds before `<` is the whole name of the generic type that `<` opens, unless
the name hides it. -/
theorem head_eq_word {word before l : List Char} {head : Name}
    (hword : ∀ c ∈ word, isNameChar c = true) (hbefore : before.getLast?.any isWord = false)
    (hdetached : Detached l) (hhides : hidesWord word head.chars = false)
    (h : before ++ word = l ++ head.chars) : head.chars = word ∧ before = l := by
  rcases List.append_eq_append_iff.1 h with ⟨z, rfl, hz⟩ | ⟨z, rfl, hz⟩
  · cases hlast : z.getLast? with
    | none =>
      cases List.getLast?_eq_none_iff.1 hlast
      exact ⟨hz.symm, (List.append_nil before).symm⟩
    | some c =>
      -- The frame would end inside the word.
      have hname := hword c (hz ▸ List.mem_append_left _ (List.mem_of_getLast? hlast))
      rw [hdetached c (by rw [List.getLast?_append, hlast]; rfl)] at hname
      cases hname
  · cases hlast : z.getLast? with
    | none =>
      cases List.getLast?_eq_none_iff.1 hlast
      exact ⟨hz, List.append_nil l⟩
    | some c =>
      -- The name is longer than the word, with a character before it that is no word character.
      obtain ⟨junk, rfl⟩ := List.getLast?_eq_some_iff.1 hlast
      rw [← List.append_assoc, List.getLast?_concat] at hbefore
      rw [hz, List.append_assoc, List.singleton_append, hidesWord_append hbefore] at hhides
      cases hhides

/-- The generic type that a word before `<` belongs to. -/
theorem TypeExpr.Spelled.exists_frame {t : TypeExpr} {name : Name} {before inner after : List Char}
    (h : t.Spelled (before ++ (name.chars ++ '<' :: (inner ++ '>' :: after))))
    (hbefore : before.getLast?.any isWord = false) (hinner : Balanced inner)
    (hhides : ∀ head precedences, PlainHead head precedences →
      hidesWord name.chars head.chars = false) :
    ∃ arguments : Arguments, arguments.chars = inner ∧
      Frame t.Spelled (.generic name arguments) before after := by
  obtain ⟨u, hsame, hplain, hchars⟩ := h
  rw [← List.append_assoc] at hchars
  -- The bracket fixes the frame; the name before it and the bracket that closes it follow.
  obtain ⟨head, arguments, l, r, hframe, hx, hy⟩ := framed_chars u hplain _ _ hchars
  have hheadPlain := hframe.plain
  rw [Plain] at hheadPlain
  obtain ⟨hhead, rfl⟩ :=
    head_eq_word name.valid hbefore hframe.detached (hhides head _ hheadPlain.1) hx
  cases Name.ext hhead
  obtain ⟨rfl, rfl⟩ := hinner.closing_inj arguments.balanced hy
  exact ⟨arguments, rfl, hframe.detached, hframe.plain, fun cs hcs =>
    hsame.spelled (hframe.exchange cs hcs)⟩

/-- The first rule takes a text of a type to a text of the same type. -/
theorem TypeExpr.Spelled.arrayMatch {t : TypeExpr} {before element after : List Char}
    (h : t.Spelled (before ++ (arrayName.chars ++ '<' :: (element ++ '>' :: after))))
    (hbefore : before.getLast?.any isWord = false) (helement : Balanced element) :
    t.Spelled (before ++ (element ++ ['[', ']'] ++ after)) := by
  obtain ⟨arguments, rfl, hframe⟩ := h.exists_frame hbefore helement fun _ _ hplain => hplain.array
  have hplain := hframe.plain
  rw [Plain] at hplain
  have hprecedences := hplain.1.element rfl
  -- One argument that needs no parentheses: its text and brackets are the text of the array.
  cases arguments with
  | more argument rest =>
    rw [Arguments.precedences, Arguments.toList, List.map_cons, List.cons.injEq,
      List.map_eq_nil_iff] at hprecedences
    exact absurd hprecedences.2 rest.toList_ne_nil
  | last argument =>
    have hprecedence : argument.precedence = 2 := (List.cons.inj hprecedences).1
    refine hframe.exchange _ ⟨.array argument, .array_spelling argument, hplain.2, ?_⟩
    rw [chars_array, charsAt_of_le (Nat.le_of_eq hprecedence.symm), Arguments.chars]

/-- In the text of a generic type, a balanced text does not end before a sign. -/
theorem append_ne_generic {name : Name} {a b inner : List Char} {c : Char} (ha : Balanced a)
    (hinner : Balanced inner) (hc : isNameChar c = false) (hopening : c ≠ '<') (hclosing : c ≠ '>') :
    a ++ c :: b ≠ name.chars ++ '<' :: (inner ++ ['>']) := by
  intro h
  rcases append_eq_append_cons h.symm with ⟨z, hz, -⟩ | ⟨z, rfl, hz⟩
  · exact name.not_mem hc (mem_of_eq_append hz)
  · rcases List.cons_eq_append_iff.1 hz with ⟨-, hcons⟩ | ⟨z, rfl, hrest⟩
    · exact hopening (List.cons.inj hcons).1
    · rcases append_eq_append_cons hrest with ⟨w, hw, -⟩ | ⟨w, -, hw⟩
      · -- The bracket after the name is still open there.
        have htotal := ha.total
        have hname := name.balanced.total
        have hinitial := hinner.initial z (c :: w) hw
        simp [List.count_append] at htotal
        omega
      · exact hclosing (List.mem_singleton.1 (mem_of_eq_append hw))

/-- The text of a type is balanced with parentheses around it too. -/
theorem TypeExpr.balanced_charsAt (t : TypeExpr) (place : Nat) : Balanced (t.charsAt place) := by
  rw [charsAt, parenthesize]
  split
  · exact (balanced_single (c := '(') (by decide) (by decide)).append
      (t.balanced.append (balanced_single (by decide) (by decide)))
  · exact t.balanced

/-- Commas stand between the brackets of generic types. -/
theorem TypeExpr.not_balanced_of_comma {t : TypeExpr} {x y : List Char} (h : t.chars = x ++ ',' :: y) :
    ¬ Balanced x := by
  -- Parentheses around a member change nothing about its commas.
  have hinside {t : TypeExpr} {place : Nat} {x y : List Char}
      (ih : ∀ x y, t.chars = x ++ ',' :: y → ¬ Balanced x)
      (h : t.charsAt place = x ++ ',' :: y) : ¬ Balanced x := by
    obtain ⟨o, cl, -, ho, -, hfind⟩ := exists_parentheses t.precedence place (c := ',') (by decide)
    obtain ⟨x', y', hchars, rfl, -⟩ := hfind _ _ _ h
    exact fun hx => ih x' y' hchars (hx.right ho)
  intro hx
  -- A comma stands between the arguments of some generic type, and so inside its brackets.
  induction t generalizing x y with
  | name name =>
    rw [chars] at h
    exact name.not_mem (by decide) (mem_of_eq_append h)
  | combine c left right hleft hright =>
    rw [chars_combine] at h
    rcases append_eq_append_cons h with ⟨z, hz, -⟩ | ⟨z, rfl, hz⟩
    · exact hinside (fun _ _ h hx => hleft h hx) hz hx
    · rcases List.cons_eq_append_iff.1 hz with ⟨-, hcons⟩ | ⟨z, rfl, hrest⟩
      · cases c <;> exact absurd (List.cons.inj hcons).1 (by decide)
      · have hsign : Balanced [c.sign] := by
          cases c <;> exact balanced_single (by decide) (by decide)
        have hright' := (hx.right (left.balanced_charsAt _)).right hsign
        exact hinside (fun _ _ h hx => hright h hx) hrest hright'
  | array element ih =>
    rw [chars_array] at h
    rcases append_eq_append_cons h with ⟨z, hz, -⟩ | ⟨z, rfl, hz⟩
    · exact hinside (fun _ _ h hx => ih h hx) hz hx
    · exact absurd (mem_of_eq_append hz) (by decide)
  | generic head arguments _ =>
    rw [chars] at h
    exact append_ne_generic hx arguments.balanced (by decide) (by decide) (by decide) h.symm

/-- Arguments whose text is that of one generic type are that type. -/
theorem exists_eq_last {arguments : Arguments} {name : Name} {inner : List Char}
    (hinner : Balanced inner) (h : arguments.chars = name.chars ++ '<' :: (inner ++ ['>'])) :
    ∃ as : Arguments, arguments = .last (.generic name as) ∧ as.chars = inner := by
  -- A second argument would put a comma outside of all brackets; and only a generic type ends in a
  -- closing bracket.
  cases arguments with
  | more argument rest =>
    rw [Arguments.chars] at h
    exact absurd h
      (append_ne_generic argument.balanced hinner (by decide) (by decide) (by decide))
  | last t =>
    rw [Arguments.chars] at h
    have hlast : t.chars.getLast? = some '>' := by
      rw [h, ← List.cons_append, ← List.append_assoc, List.getLast?_concat]
    cases t with
    | name n =>
      rw [TypeExpr.chars] at hlast
      exact absurd hlast (n.getLast?_ne (by decide))
    | combine c left right =>
      rw [TypeExpr.chars_combine] at h
      refine absurd h (append_ne_generic (left.balanced_charsAt _) hinner ?_ ?_ ?_) <;>
        cases c <;> decide
    | array element =>
      rw [TypeExpr.getLast?_array] at hlast
      exact absurd hlast (by decide)
    | generic head as =>
      rw [TypeExpr.chars] at h
      obtain ⟨hhead, -, hrest⟩ := nameChars_append_inj head.valid name.valid (by decide) (by decide) h
      cases Name.ext hhead
      exact ⟨as, rfl, List.append_cancel_right hrest⟩

/-- Two arguments can be read off their text. -/
theorem exists_eq_more {arguments : Arguments} {first second : List Char} (hfirst : Balanced first)
    (hlength : arguments.precedences.length ≤ 2) (h : arguments.chars = first ++ ',' :: second) :
    ∃ a b : TypeExpr, arguments = .more a (.last b) ∧ a.chars = first ∧ b.chars = second := by
  cases arguments with
  | last t =>
    rw [Arguments.chars] at h
    exact absurd hfirst (TypeExpr.not_balanced_of_comma h)
  | more a rest =>
    cases rest with
    | more b more =>
      have hlong := List.length_pos_iff.2 more.toList_ne_nil
      simp only [Arguments.precedences, Arguments.toList, List.length_map, List.length_cons] at hlength
      omega
    | last b =>
      rw [Arguments.chars, Arguments.chars] at h
      -- The comma read is neither one inside the first argument nor one inside the second.
      rcases append_eq_append_cons h with ⟨z, hz, -⟩ | ⟨z, rfl, hz⟩
      · exact absurd hfirst (TypeExpr.not_balanced_of_comma hz)
      · rcases List.cons_eq_append_iff.1 hz with ⟨rfl, hcons⟩ | ⟨z, rfl, hrest⟩
        · exact ⟨a, b, rfl, (List.append_nil _).symm, (List.cons.inj hcons).2.symm⟩
        · have hcomma : Balanced [','] := balanced_single (by decide) (by decide)
          exact absurd ((hfirst.right a.balanced).right hcomma) (TypeExpr.not_balanced_of_comma hrest)

/-- The second rule takes a text of a type to a text of the same type. -/
theorem TypeExpr.Spelled.partialPickMatch {t : TypeExpr} {before whole keys after : List Char}
    (h : t.Spelled (before ++ (partialName.chars ++ '<' ::
      ((pickName.chars ++ '<' :: ((whole ++ ',' :: keys) ++ ['>'])) ++ '>' :: after))))
    (hbefore : before.getLast?.any isWord = false) (hwhole : Balanced whole) (hkeys : Balanced keys) :
    t.Spelled (before ++ ((pickName.chars ++ '<' ::
      ((partialName.chars ++ '<' :: (whole ++ ['>'])) ++ ',' :: keys ++ ['>'])) ++ after)) := by
  have hinner : Balanced (whole ++ ',' :: keys) :=
    hwhole.append ((balanced_single (c := ',') (by decide) (by decide)).append hkeys)
  obtain ⟨arguments, harguments, hframe⟩ := h.exists_frame hbefore
    (pickName.balanced.append hinner.enclosed) fun _ _ hplain => hplain.partialPick
  obtain ⟨as, rfl, has⟩ := exists_eq_last hinner harguments
  have hplain := hframe.plain
  rw [Plain, Arguments.Plain, Plain] at hplain
  obtain ⟨-, hpick, hasPlain⟩ := hplain
  obtain ⟨a, b, rfl, rfl, rfl⟩ := exists_eq_more hwhole (hpick.keys rfl) has
  rw [Arguments.Plain, Arguments.Plain] at hasPlain
  refine hframe.exchange _ ⟨_, .partial_spelling a b, ?_, ?_⟩
  · have hpartial (precedences : List Nat) : PlainHead partialName precedences :=
      ⟨by decide, by decide, fun heq => absurd heq (by decide), fun heq => absurd heq (by decide)⟩
    rw [Plain, Arguments.Plain, Plain, Arguments.Plain, Arguments.Plain]
    exact ⟨⟨by decide, by decide, fun heq => absurd heq (by decide), fun _ => Nat.le_refl 2⟩,
      ⟨hpartial _, hasPlain.1⟩, hasPlain.2⟩
  · rw [chars, Arguments.chars, chars, Arguments.chars, Arguments.chars]

/-! ### A pass -/

/-- A rule keeps a property of texts if each single replacement does. Matches end in `>` and no
replacement ends in a word character, so that the next word starts where it did before. -/
def Keeps (rule : Rule) (property : List Char → Prop) : Prop :=
  ∀ before done cs taken put, before.any isWord = done.getLast?.any isWord →
    rule before cs = some (taken, put) → property (done ++ cs) →
    ∃ found rest : List Char, cs = found ++ '>' :: rest ∧ taken = found.length + 1 ∧ put ≠ [] ∧
      put.getLast?.any isWord = false ∧ property (done ++ (put ++ rest))

/-- A pass skips what a match took and goes on behind it. -/
theorem substituteFrom_skip (rule : Rule) (before : Option Char) (found rest : List Char) (c : Char) :
    substituteFrom rule before (found.length + 1) (found ++ c :: rest) =
      substituteFrom rule (some c) 0 rest := by
  induction found generalizing before with
  | nil => rfl
  | cons d found ih => exact ih (some d)

/-- What single replacements keep, a pass from left to right keeps. -/
theorem Keeps.substitute {rule : Rule} {property : List Char → Prop} (hrule : Keeps rule property)
    {cs : List Char} (h : property cs) : property (substitute rule cs) := by
  -- The text is made of what was written, `done`, and what is still to be read. They are split at a
  -- place where the character before is a word character on both sides or on neither.
  have hfrom (bound : Nat) (cs done : List Char) (before : Option Char) (hbound : cs.length ≤ bound)
      (hbefore : before.any isWord = done.getLast?.any isWord) (h : property (done ++ cs)) :
      property (done ++ substituteFrom rule before 0 cs) := by
    induction bound generalizing cs done before with
    | zero =>
      cases List.length_eq_zero_iff.1 (Nat.le_zero.1 hbound)
      exact h
    | succ bound ih =>
      cases cs with
      | nil => exact h
      | cons c rest =>
        rw [List.length_cons, Nat.succ_le_succ_iff] at hbound
        have hkept : property (done ++ c :: substituteFrom rule (some c) 0 rest) := by
          have hstep := ih rest (done ++ [c]) (some c) hbound (by simp) (by simpa using h)
          simpa using hstep
        rw [substituteFrom]
        split
        · rename_i taken put hmatch
          obtain ⟨found, after, hcs, htaken, hput, hlast, hreplaced⟩ :=
            hrule before done _ _ put hbefore hmatch h
          have hskip : substituteFrom rule (some c) taken rest =
              substituteFrom rule (some '>') 0 after := by
            cases found with
            | nil =>
              obtain ⟨rfl, rfl⟩ := List.cons.inj hcs
              cases Nat.succ.inj htaken
              rfl
            | cons d found =>
              obtain ⟨rfl, rfl⟩ := List.cons.inj hcs
              rw [Nat.succ.inj htaken]
              exact substituteFrom_skip rule (some c) found after '>'
          have hafter : after.length ≤ bound := by
            have hlength := congrArg List.length hcs
            simp only [List.length_cons, List.length_append] at hlength
            omega
          have hword : (some '>').any isWord = (done ++ put).getLast?.any isWord := by
            rw [List.getLast?_append_of_ne_nil _ hput, hlast]
            decide
          have hstep := ih after (done ++ put) (some '>') hafter hword (by simpa using hreplaced)
          rw [hskip]
          simpa using hstep
        · exact hkept
  exact hfrom cs.length cs [] none (Nat.le_refl _) rfl h

/-- Where the first rule matches, the text stays one of the type. -/
theorem arrayRule_keeps (t : TypeExpr) : Keeps arrayRule t.Spelled := by
  intro before done cs taken put hbefore hmatch h
  simp only [arrayRule, Option.bind_eq_bind, Option.bind_eq_some_iff, Prod.exists] at hmatch
  obtain ⟨rest, hword, element, following, hargument, hmatch⟩ := hmatch
  -- What was matched is the word, an argument and a closing bracket.
  obtain ⟨hany, rfl⟩ := afterWord?_eq_some hword
  obtain ⟨rfl, helement⟩ := argument?_eq_some hargument
  split at hmatch
  · rename_i after
    simp only [Option.some.injEq, Prod.mk.injEq] at hmatch
    obtain ⟨rfl, rfl⟩ := hmatch
    refine ⟨"Array<".toList ++ element, after, by simp, ?_, by simp, ?_, ?_⟩
    · simp only [List.length_append, List.length_cons]
      omega
    · have hlast : (element ++ ['[', ']']).getLast? = some ']' := by simp
      rw [hlast]
      decide
    · exact TypeExpr.Spelled.arrayMatch h (hbefore ▸ hany) helement
  · cases hmatch

/-- Where the second rule matches, the text stays one of the type. -/
theorem partialPickRule_keeps (t : TypeExpr) : Keeps partialPickRule t.Spelled := by
  intro before done cs taken put hbefore hmatch h
  simp only [partialPickRule, Option.bind_eq_bind, Option.bind_eq_some_iff, Prod.exists] at hmatch
  obtain ⟨rest, hword, whole, following, hfirst, hmatch⟩ := hmatch
  -- What was matched is both words, two arguments with a comma between them, and two closing
  -- brackets.
  obtain ⟨hany, rfl⟩ := afterWord?_eq_some hword
  obtain ⟨rfl, hwhole⟩ := argument?_eq_some hfirst
  split at hmatch
  · rename_i rest
    simp only [Option.bind_eq_some_iff, Prod.exists] at hmatch
    obtain ⟨keys, following, hsecond, hmatch⟩ := hmatch
    obtain ⟨rfl, hkeys⟩ := argument?_eq_some hsecond
    split at hmatch
    · rename_i after
      simp only [Option.some.injEq, Prod.mk.injEq] at hmatch
      obtain ⟨rfl, rfl⟩ := hmatch
      refine ⟨"Partial<Pick<".toList ++ whole ++ ',' :: keys ++ ['>'], after, by simp, ?_, by simp,
        ?_, ?_⟩
      · simp only [List.length_append, List.length_cons, List.length_nil]
        omega
      · rw [List.getLast?_concat]
        decide
      · have hfound : "Partial<Pick<".toList =
            partialName.chars ++ '<' :: (pickName.chars ++ ['<']) := by decide
        have hput : "Pick<Partial<".toList =
            pickName.chars ++ '<' :: (partialName.chars ++ ['<']) := by decide
        have hmatched : t.Spelled (done ++ (partialName.chars ++ '<' ::
            ((pickName.chars ++ '<' :: ((whole ++ ',' :: keys) ++ ['>'])) ++ '>' :: after))) := by
          rw [hfound] at h
          simpa only [List.append_assoc, List.cons_append, List.nil_append] using h
        have hreplaced := hmatched.partialPickMatch (hbefore ▸ hany) hwhole hkeys
        rw [hput]
        simpa only [List.append_assoc, List.cons_append, List.nil_append] using hreplaced
    · cases hmatch
  · cases hmatch

/-- A pass of both rules takes a text of a type to a text of the same type. -/
theorem TypeExpr.Spelled.respell {t : TypeExpr} {cs : List Char} (h : t.Spelled cs) :
    t.Spelled (respell cs) :=
  (partialPickRule_keeps t).substitute ((arrayRule_keeps t).substitute h)

/-- However many passes are made, the text stays a text of the same type. -/
theorem TypeExpr.Spelled.respellUpTo {t : TypeExpr} (passes : Nat) {cs : List Char}
    (h : t.Spelled cs) : t.Spelled (respellUpTo passes cs) := by
  induction passes generalizing cs with
  | zero => exact h
  | succ passes ih =>
    rw [TypeText.respellUpTo]
    split
    · exact h
    · exact ih h.respell

end ChangeLens.TypeText
