import ChangeLens.Proofs.AngleNesting
import Mathlib.Logic.Function.Iterate

/-!
# `ChangeLens.Proofs.ArrayLevels`: which arrays a number of passes takes away

A run of passes is followed on texts cut at their brackets, for `Array<f>` and `f[]` side by side.
The brackets of `f[]` take no part in a pass. `Array<f>` becomes `f[]` in the first pass that finds
`f` readable, and before that the same passes go on inside it (`Argument.pass_arrayOf`,
`Pass.arrayOf`).

Two invariants decide whether that pass comes. A text is `Shallow` if it holds arrays only, or one
other group around arrays only. A pass takes one level of arrays away from it (`Shallow.step`), and
without arrays it is readable and stays as it is. So both spellings become one text after more passes
than there are levels, and not before (`Shallow.iterate_arrayOf_eq_iff`). A text is `Blocked` if a
group that is no array stands before brackets at its end, or inside the group that ends it. No rule
takes such a group away, so a blocked text stays blocked (`Blocked.step`), and no argument is
(`Argument.not_blocked`): the two spellings never become one text (`Blocked.iterate_arrayOf_ne`).
-/

set_option autoImplicit false

namespace ChangeLens.TypeText

open ChangeLens.Text

/-! ### Passes -/

/-- Passes stop early only where they would change nothing. -/
theorem respellUpTo_eq_iterate (passes : Nat) (cs : List Char) :
    respellUpTo passes cs = respell^[passes] cs := by
  induction passes generalizing cs with
  | zero => rfl
  | succ passes ih =>
    rw [respellUpTo, Function.iterate_succ_apply]
    split
    · rename_i hfixed
      rw [hfixed, Function.iterate_fixed hfixed]
    · exact ih (respell cs)

namespace Nested

section Passing

variable {name : Name} {body : Nested → Nested → Prop} {f g : Nested}

/-- A text without brackets is copied. -/
theorem Rewrites.eq_of_word {piece : Piece} (h : Rewrites name body (word piece) g) :
    g = word piece := by
  cases h
  rfl

/-- What stands behind the last bracket stays. -/
theorem Rewrites.append_word (h : Rewrites name body f g) (piece : Piece) :
    Rewrites name body (f ++ word piece) (g ++ word piece) := by
  induction h with
  | copy other => exact .copy _
  | keep hkeep hinner _ _ ih => exact .keep hkeep hinner ih
  | replace hu hput _ ih =>
    rw [group_append, prepend_append, append_assoc]
    exact .replace hu hput ih

/-- A rule whose matches bring in no new sign leaves a text without the sign so. -/
theorem Rewrites.not_mem {sign : Char}
    (hbody : ∀ inner put, body inner put → sign ∉ inner.chars → sign ∉ put.chars)
    (h : Rewrites name body f g) (hf : sign ∉ f.chars) : sign ∉ g.chars := by
  induction h with
  | copy piece => exact hf
  | keep _ _ _ hinner hrest =>
    simp only [chars, List.mem_append, List.mem_cons, not_or] at hf ⊢
    exact ⟨hf.1, hf.2.1, hinner hf.2.2.1, hf.2.2.2.1, hrest hf.2.2.2.2⟩
  | replace _ hput _ hrest =>
    simp only [chars, Piece.chars_append, chars_prepend, chars_append, List.mem_append, List.mem_cons,
      not_or] at hf ⊢
    exact ⟨hf.1.1, hbody _ _ hput hf.2.2.1, hrest hf.2.2.2.2⟩

end Passing

/-- No pass brings in the sign of a union or an intersection. -/
theorem Pass.not_mem {c : Connective} {f g : Nested} (h : Pass f g) (hf : c.sign ∉ f.chars) :
    c.sign ∉ g.chars := by
  obtain ⟨middle, harrays, hpicks⟩ := h
  refine hpicks.not_mem ?_ (harrays.not_mem ?_ hf)
  · rintro inner put ⟨whole, keys, -, -, rfl, rfl⟩ hinner
    have hletters : c.sign ∉ partialName.chars ∧ c.sign ≠ '<' ∧ c.sign ≠ '>' := by
      cases c <;> decide
    simp only [chars, chars_append, chars_prepend, List.mem_append, List.mem_cons, not_or] at hinner ⊢
    exact ⟨hinner.1, hletters.2.1, ⟨hletters.1, hletters.2.1, hinner.2.2.1.1, hletters.2.2,
      hinner.2.2.1.2⟩, hinner.2.2.2⟩
  · rintro inner put ⟨-, rfl⟩ hinner
    rw [chars_bracketed, List.mem_append, not_or]
    refine ⟨hinner, ?_⟩
    cases c <;> decide

/-- However many passes there are, none brings in the sign of a union or an intersection. -/
theorem not_mem_iterate {c : Connective} (n : Nat) (f : Nested) (hf : c.sign ∉ f.chars) :
    c.sign ∉ respell^[n] f.chars := by
  induction n generalizing f with
  | zero => exact hf
  | succ n ih =>
    obtain ⟨g, hpass⟩ := exists_pass f
    rw [Function.iterate_succ_apply, hpass.respell_eq]
    exact ih g (hpass.not_mem hf)

/-! ### Both spellings of an array -/

/-- The text `Array<f>`. -/
def arrayOf (f : Nested) : Nested :=
  group arrayName.piece f (word .nil)

/-- How `Array<f>` is written. -/
theorem chars_arrayOf (f : Nested) : f.arrayOf.chars = arrayName.chars ++ '<' :: (f.chars ++ ['>']) :=
  rfl

/-- The two spellings of arrays end in different characters. -/
theorem arrayOf_ne_bracketed (f g : Nested) : f.arrayOf.chars ≠ g.bracketed.chars := by
  intro heq
  have hlast := congrArg List.getLast? heq
  rw [chars_bracketed, chars_arrayOf, ← List.cons_append, ← List.append_assoc, List.getLast?_concat]
    at hlast
  simp at hlast

/-- The brackets of `f[]` take no part in a pass. -/
theorem Pass.bracketed {f g : Nested} (h : Pass f g) : Pass f.bracketed g.bracketed := by
  obtain ⟨middle, harrays, hpicks⟩ := h
  exact ⟨middle.bracketed, harrays.append_word _, hpicks.append_word _⟩

/-- In an argument the second rule finds nothing, since no group stands inside another one there. -/
theorem Argument.rewrites_pick {stop : List Char} {f : Nested} (h : Argument stop f) :
    Rewrites partialName pickBody f f := by
  -- Inside `Partial<…>` there would be another group.
  have hgroups (name : Piece) {groups : Nested} (hgroups : Groups groups) :
      Rewrites partialName pickBody (prepend name groups) (prepend name groups) := by
    induction hgroups generalizing name with
    | nil => exact .copy _
    | @cons inner rest _ ih =>
      have hrest := ih .nil
      rw [prepend_nil] at hrest
      refine .keep (fun u put _ _ hbody => ?_) (.copy inner) hrest
      obtain ⟨whole, keys, -, -, hinner, -⟩ := hbody
      cases hinner
  obtain ⟨name, -, -, h⟩ := h
  exact hgroups name h

/-- An array whose content can be read is respelled. -/
theorem Argument.pass_arrayOf {f : Nested} (h : Argument [] f) : Pass f.arrayOf f.bracketed := by
  refine ⟨f.bracketed, ?_, h.rewrites_pick.append_word _⟩
  have hbody : arrayBody f f.bracketed := ⟨h, rfl⟩
  have hstart : Piece.nil.AtBoundary := rfl
  have hreplace : Rewrites arrayName arrayBody f.arrayOf
      (prepend .nil (f.bracketed ++ word .nil)) := .replace hstart hbody (.copy .nil)
  rwa [prepend_nil, append_nil] at hreplace

/-- Of an array whose content cannot be read, the content is respelled. -/
theorem Pass.arrayOf {f g : Nested} (hf : ¬ Argument [] f) (h : Pass f g) :
    Pass f.arrayOf g.arrayOf := by
  obtain ⟨middle, harrays, hpicks⟩ := h
  refine ⟨middle.arrayOf, .keep (fun _ _ _ _ hbody => hf hbody.1) harrays (.copy _),
    .keep (fun u put hword _ _ => ?_) hpicks (.copy _)⟩
  have hlength := congrArg (fun piece => piece.chars.length) hword
  have hshort : arrayName.piece.chars.length < partialName.piece.chars.length := by decide
  simp only [Piece.chars_append, List.length_append] at hlength
  omega

end Nested

/-! ### Heads -/

/-- Whether the rule for arrays takes a name for `Array`: it is that word, or ends in it after a
character that is no word character. -/
def isArrayHead (cs : List Char) : Bool :=
  cs == arrayName.chars || hidesWord arrayName.chars cs

/-- A name that hides a word ends in it, behind a character that is no word character. -/
theorem exists_of_hidesWord {word cs : List Char} (h : hidesWord word cs = true) :
    ∃ before c, isWord c = false ∧ cs = before ++ c :: word := by
  induction cs with
  | nil => cases h
  | cons d rest ih =>
    rw [hidesWord, Bool.or_eq_true, Bool.and_eq_true, Bool.not_eq_true', beq_iff_eq] at h
    rcases h with ⟨hd, rfl⟩ | h
    · exact ⟨[], d, hd, rfl⟩
    · obtain ⟨before, c, hc, rfl⟩ := ih h
      exact ⟨d :: before, c, hc, rfl⟩

/-- A name is taken for `Array` exactly if it ends in the word at the start of a word. -/
theorem isArrayHead_iff {cs : List Char} :
    isArrayHead cs = true ↔
      ∃ u, cs = u ++ arrayName.chars ∧ u.getLast?.any isWord = false := by
  rw [isArrayHead, Bool.or_eq_true, beq_iff_eq]
  constructor
  · rintro (rfl | h)
    · exact ⟨[], rfl, rfl⟩
    · obtain ⟨before, c, hc, rfl⟩ := exists_of_hidesWord h
      refine ⟨before ++ [c], by simp, ?_⟩
      rw [List.getLast?_concat]
      exact hc
  · rintro ⟨u, rfl, hu⟩
    rcases List.eq_nil_or_concat u with rfl | ⟨before, c, rfl⟩
    · exact Or.inl rfl
    · rw [List.concat_eq_append, List.getLast?_concat] at hu
      rw [List.concat_eq_append, List.append_assoc, List.singleton_append]
      exact Or.inr (hidesWord_append hu before _)

/-- What stands before a place where a word can start does not matter. -/
theorem isArrayHead_append {u : Piece} (hu : u.AtBoundary) (cs : List Char) :
    isArrayHead (u.chars ++ cs) = isArrayHead cs := by
  rw [Bool.eq_iff_iff, isArrayHead_iff, isArrayHead_iff]
  constructor
  · rintro ⟨v, hv, hboundary⟩
    -- The word ends the second text, or reaches into the first one.
    rcases List.append_eq_append_iff.1 hv with ⟨z, rfl, hz⟩ | ⟨z, hz, hname⟩
    · refine ⟨z, hz, ?_⟩
      rw [List.getLast?_append] at hboundary
      cases hlast : z.getLast? with
      | none => rfl
      | some c => rwa [hlast, Option.some_or] at hboundary
    · cases hlast : z.getLast? with
      | none =>
        cases List.getLast?_eq_none_iff.1 hlast
        exact ⟨[], hname.symm, rfl⟩
      | some c =>
        -- The place would be inside the word.
        have hword : arrayName.chars.all isWord = true := by decide
        have hc := List.all_eq_true.1 hword c
          (hname ▸ List.mem_append_left _ (List.mem_of_getLast? hlast))
        rw [Piece.AtBoundary, hz, List.getLast?_append, hlast, Option.some_or, Option.any_some, hc] at hu
        cases hu
  · rintro ⟨z, rfl, hz⟩
    refine ⟨u.chars ++ z, by rw [List.append_assoc], ?_⟩
    rw [List.getLast?_append]
    cases hlast : z.getLast? with
    | none => exact hu
    | some c => rwa [hlast] at hz

/-- A piece taken for `Array` is cut before that word. -/
theorem exists_eq_arrayName {before : Piece} (h : isArrayHead before.chars = true) :
    ∃ u : Piece, before = u ++ arrayName.piece ∧ u.AtBoundary := by
  obtain ⟨u, hchars, hu⟩ := isArrayHead_iff.1 h
  have hopening : '<' ∉ u := fun hmem => before.opening (hchars ▸ List.mem_append_left _ hmem)
  have hclosing : '>' ∉ u := fun hmem => before.closing (hchars ▸ List.mem_append_left _ hmem)
  exact ⟨⟨u, hopening, hclosing⟩, Piece.ext hchars, hu⟩

namespace Nested

/-- Every group is an array, and not an empty one. -/
def Soft : Nested → Prop
  | word _ => True
  | group before inner rest =>
    isArrayHead before.chars = true ∧ inner ≠ word .nil ∧ inner.Soft ∧ rest.Soft

/-- Some group is no array. -/
def Hard : Nested → Prop
  | word _ => False
  | group before inner rest => isArrayHead before.chars = false ∨ inner.Hard ∨ rest.Hard

/-- How many arrays stand inside one another. -/
def arrayDepth : Nested → Nat
  | word _ => 0
  | group before inner rest =>
    max (inner.arrayDepth + if isArrayHead before.chars then 1 else 0) rest.arrayDepth

section Joining

variable {u : Piece}

/-- What stands before a text at a boundary of words says nothing about its groups. -/
theorem soft_prepend (hu : u.AtBoundary) (f : Nested) : (prepend u f).Soft ↔ f.Soft := by
  cases f <;> simp [prepend, Soft, isArrayHead_append hu]

/-- The same for a group that is no array. -/
theorem hard_prepend (hu : u.AtBoundary) (f : Nested) : (prepend u f).Hard ↔ f.Hard := by
  cases f <;> simp [prepend, Hard, isArrayHead_append hu]

/-- The same for the number of levels. -/
theorem arrayDepth_prepend (hu : u.AtBoundary) (f : Nested) :
    (prepend u f).arrayDepth = f.arrayDepth := by
  cases f <;> simp [prepend, arrayDepth, isArrayHead_append hu]

/-! A piece between two texts keeps their words apart. -/

variable (hu : u.AtBoundary) (hne : u.chars ≠ [])
include hu hne

/-- All groups of two texts are arrays if those of each are. -/
theorem soft_join (f g : Nested) : (f ++ prepend u g).Soft ↔ f.Soft ∧ g.Soft := by
  induction f with
  | word piece => rw [word_append, prepend_prepend, soft_prepend (hu.prepend hne piece)]; simp [Soft]
  | group before inner rest _ ih => simp only [group_append, Soft, ih, and_assoc]

/-- Some group of two texts is no array if one of either is none. -/
theorem hard_join (f g : Nested) : (f ++ prepend u g).Hard ↔ f.Hard ∨ g.Hard := by
  induction f with
  | word piece => rw [word_append, prepend_prepend, hard_prepend (hu.prepend hne piece)]; simp [Hard]
  | group before inner rest _ ih => simp only [group_append, Hard, ih, or_assoc]

/-- Levels of two texts side by side do not add up. -/
theorem arrayDepth_join (f g : Nested) :
    (f ++ prepend u g).arrayDepth = max f.arrayDepth g.arrayDepth := by
  induction f with
  | word piece =>
    rw [word_append, prepend_prepend, arrayDepth_prepend (hu.prepend hne piece), arrayDepth,
      Nat.zero_max]
  | group before inner rest _ ih => simp only [group_append, arrayDepth, ih, Nat.max_assoc]

end Joining

/-- Brackets begin with no word character. -/
theorem brackets_atBoundary : bracketsPiece.AtBoundary := by
  show isWord ']' = false
  decide

/-- Brackets are some characters. -/
theorem brackets_ne_nil : bracketsPiece.chars ≠ [] := by decide

/-! ### Texts of arrays -/

/-- A text behind brackets is one that the brackets stand before. -/
theorem bracketed_append (f g : Nested) : f.bracketed ++ g = f ++ prepend bracketsPiece g := by
  rw [bracketed, append_assoc, word_append]

/-- Brackets behind a text are a piece of their own. -/
theorem bracketed_eq (f : Nested) : f.bracketed = f ++ prepend bracketsPiece (word .nil) := by
  rw [← bracketed_append, append_nil]

/-- A text without angle brackets can be read as an argument, unless it is empty. -/
theorem argument_word {piece : Piece} (h : word piece ≠ word .nil) : Argument [] (word piece) := by
  have hne : piece.chars ≠ [] := fun hnil => h (congrArg word (Piece.ext hnil))
  have hargument : Argument [] (prepend piece (word .nil)) :=
    .intro piece hne (fun _ _ => List.not_mem_nil) .nil
  rwa [prepend, Piece.append_nil] at hargument

/-- Without an array, a text of arrays has no bracket. -/
theorem Soft.exists_word {f : Nested} (h : f.Soft) (hdepth : f.arrayDepth = 0) :
    ∃ piece, f = word piece := by
  cases f with
  | word piece => exact ⟨piece, rfl⟩
  | group before inner rest =>
    rw [arrayDepth, h.1, if_pos rfl] at hdepth
    omega

/-- No pass makes a text empty. -/
theorem Rewrites.ne_nil {f g : Nested} (h : Rewrites arrayName arrayBody f g) (hf : f ≠ word .nil) :
    g ≠ word .nil := by
  cases h with
  | copy piece => exact hf
  | keep => exact Nested.noConfusion
  | replace hu hput _ =>
    obtain ⟨-, rfl⟩ := hput
    intro hnil
    have hchars := congrArg chars hnil
    simp [chars, chars_bracketed] at hchars

/-- The rule for arrays takes away the innermost arrays. -/
theorem Rewrites.soft {f g : Nested} (h : Rewrites arrayName arrayBody f g) (hf : f.Soft) :
    g.Soft ∧ g.arrayDepth = f.arrayDepth - 1 := by
  -- By induction on the pass: it copies a piece, keeps a group or replaces one.
  induction h with
  | copy piece => exact ⟨hf, rfl⟩
  | @keep before inner inner' rest rest' hkeep hinner _ ihInner ihRest =>
    obtain ⟨hhead, hne, hsoft, hrest⟩ := hf
    obtain ⟨hinnerSoft, hinnerDepth⟩ := ihInner hsoft
    obtain ⟨hrestSoft, hrestDepth⟩ := ihRest hrest
    refine ⟨⟨hhead, hinner.ne_nil hne, hinnerSoft, hrestSoft⟩, ?_⟩
    -- The content could not be read, so there is an array in it.
    have hdeep : 1 ≤ inner.arrayDepth := by
      refine Nat.one_le_iff_ne_zero.2 fun hzero => ?_
      obtain ⟨piece, rfl⟩ := hsoft.exists_word hzero
      obtain ⟨u, rfl, hu⟩ := exists_eq_arrayName hhead
      exact hkeep u _ rfl hu ⟨argument_word hne, rfl⟩
    simp only [arrayDepth, hhead, if_true, hinnerDepth, hrestDepth]
    omega
  | @replace u inner put rest rest' hu hput _ ih =>
    obtain ⟨hargument, rfl⟩ := hput
    obtain ⟨hhead, hne, hsoft, hrest⟩ := hf
    obtain ⟨hrestSoft, hrestDepth⟩ := ih hrest
    constructor
    · rw [soft_prepend hu, bracketed_append, soft_join brackets_atBoundary brackets_ne_nil]
      exact ⟨hsoft, hrestSoft⟩
    · rw [arrayDepth_prepend hu, bracketed_append, arrayDepth_join brackets_atBoundary brackets_ne_nil,
        hrestDepth, arrayDepth, hhead, if_pos rfl]
      omega

/-- In a text of arrays there is no `Partial`. -/
theorem Rewrites.eq_of_soft {f g : Nested} (h : Rewrites partialName pickBody f g) (hf : f.Soft) :
    g = f := by
  induction h with
  | copy piece => rfl
  | keep _ _ _ ihInner ihRest => rw [ihInner hf.2.2.1, ihRest hf.2.2.2]
  | @replace u inner put rest rest' hu _ _ _ =>
    have hhead : isArrayHead partialName.chars = true := by
      rw [← isArrayHead_append hu]
      exact hf.1
    exact absurd hhead (by decide)

/-- Arrays only, or one group that is no array around arrays only: a rule that reads no deeper than
one group can read this once the arrays are gone. -/
inductive Shallow : Nested → Prop
  | arrays {f : Nested} (hsoft : f.Soft) (hne : f ≠ word .nil) : Shallow f
  | around {head : Piece} {inner : Nested} (hhead : head.chars ≠ [])
    (hother : isArrayHead head.chars = false) (hsoft : inner.Soft) :
    Shallow (group head inner (word .nil))

/-- The rule for arrays takes the innermost level of a shallow text away. -/
theorem Shallow.arrays_step {f g : Nested} (hf : f.Shallow) (h : Rewrites arrayName arrayBody f g) :
    g.Shallow ∧ g.arrayDepth = f.arrayDepth - 1 := by
  cases hf with
  | arrays hsoft hne =>
    obtain ⟨hsoft, hdepth⟩ := h.soft hsoft
    exact ⟨.arrays hsoft (h.ne_nil hne), hdepth⟩
  | @around head inner hhead hother hsoft =>
    cases h with
    | keep _ hinner hrest =>
      cases hrest
      obtain ⟨hsoft, hdepth⟩ := hinner.soft hsoft
      refine ⟨.around hhead hother hsoft, ?_⟩
      simp [arrayDepth, hother, hdepth]
    | replace hu _ _ =>
      rw [Piece.chars_append, isArrayHead_append hu] at hother
      exact absurd hother (by decide)

/-- The second rule finds nothing in a shallow text. -/
theorem Shallow.picks_step {f g : Nested} (hf : f.Shallow) (h : Rewrites partialName pickBody f g) :
    g = f := by
  cases hf with
  | arrays hsoft _ => exact h.eq_of_soft hsoft
  | around _ _ hsoft =>
    cases h with
    | keep _ hinner hrest =>
      cases hrest
      rw [hinner.eq_of_soft hsoft]
    | replace _ hput _ =>
      -- The `Pick` would have to be an array.
      obtain ⟨whole, keys, -, -, rfl, -⟩ := hput
      exact absurd hsoft.1 (by decide)

/-- A pass takes away one level of arrays. -/
theorem Shallow.step {f g : Nested} (hf : f.Shallow) (h : Pass f g) :
    g.Shallow ∧ g.arrayDepth = f.arrayDepth - 1 := by
  obtain ⟨middle, harrays, hpicks⟩ := h
  obtain ⟨hmiddle, hdepth⟩ := hf.arrays_step harrays
  cases hmiddle.picks_step hpicks
  exact ⟨hmiddle, hdepth⟩

/-- Once the arrays are gone, what is left can be read. -/
theorem Shallow.argument {f : Nested} (hf : f.Shallow) (hdepth : f.arrayDepth = 0) :
    Argument [] f := by
  cases hf with
  | arrays hsoft hne =>
    obtain ⟨piece, rfl⟩ := hsoft.exists_word hdepth
    exact argument_word hne
  | @around head inner hhead hother hsoft =>
    rw [arrayDepth, hother] at hdepth
    obtain ⟨piece, rfl⟩ := hsoft.exists_word (by omega)
    have hargument : Argument [] (prepend head (group .nil (word piece) (word .nil))) :=
      .intro head hhead (fun _ _ => List.not_mem_nil) (.cons piece .nil)
    rwa [prepend, Piece.append_nil] at hargument

/-- Once the arrays are gone, a pass changes nothing. -/
theorem Shallow.eq_of_pass {f g : Nested} (hf : f.Shallow) (hdepth : f.arrayDepth = 0)
    (h : Pass f g) : g = f := by
  obtain ⟨middle, harrays, hpicks⟩ := h
  have hmiddle : middle = f := by
    -- Either there is no group at all, or one that is no array around a text without groups.
    cases hf with
    | arrays hsoft _ =>
      obtain ⟨piece, rfl⟩ := hsoft.exists_word hdepth
      exact harrays.eq_of_word
    | @around head inner _ hother hsoft =>
      rw [arrayDepth, hother] at hdepth
      obtain ⟨piece, rfl⟩ := hsoft.exists_word (by omega)
      cases harrays with
      | keep _ hinner hrest =>
        cases hrest
        rw [hinner.eq_of_word]
      | replace hu _ _ =>
        rw [Piece.chars_append, isArrayHead_append hu] at hother
        exact absurd hother (by decide)
  cases hmiddle
  exact hf.picks_step hpicks

/-! ### Runs on shallow texts -/

/-- Passes over `f[]` are passes over `f`. -/
theorem iterate_bracketed (n : Nat) (f : Nested) :
    respell^[n] f.bracketed.chars = respell^[n] f.chars ++ ['[', ']'] := by
  induction n generalizing f with
  | zero => exact chars_bracketed f
  | succ n ih =>
    obtain ⟨g, hpass⟩ := exists_pass f
    rw [Function.iterate_succ_apply, Function.iterate_succ_apply, hpass.bracketed.respell_eq,
      hpass.respell_eq, ih g]

/-- One more pass changes nothing exactly if the passes were enough for all levels of arrays. -/
theorem Shallow.iterate_succ_eq_iff {f : Nested} (hf : f.Shallow) (n : Nat) :
    respell^[n + 1] f.chars = respell^[n] f.chars ↔ f.arrayDepth ≤ n := by
  -- Each pass takes one level away, so the induction is on the passes and for all shallow texts.
  induction n generalizing f with
  | zero =>
    obtain ⟨g, hpass⟩ := exists_pass f
    show respell f.chars = f.chars ↔ _
    rw [hpass.respell_eq]
    constructor
    · intro heq
      have hdepth := (hf.step hpass).2
      rw [chars_inj heq] at hdepth
      omega
    · intro hdepth
      rw [hf.eq_of_pass (Nat.le_zero.1 hdepth) hpass]
  | succ n ih =>
    obtain ⟨g, hpass⟩ := exists_pass f
    obtain ⟨hg, hdepth⟩ := hf.step hpass
    rw [Function.iterate_succ_apply, Function.iterate_succ_apply respell n f.chars, hpass.respell_eq,
      ih hg, hdepth]
    omega

/-- Both spellings of an array of a shallow text become one text exactly if the passes are enough
for all levels of arrays and one more. -/
theorem Shallow.iterate_arrayOf_eq_iff {f : Nested} (hf : f.Shallow) (n : Nat) :
    respell^[n] f.arrayOf.chars = respell^[n] f.bracketed.chars ↔ f.arrayDepth < n := by
  induction n generalizing f with
  | zero =>
    show f.arrayOf.chars = f.bracketed.chars ↔ _
    constructor
    · intro heq
      exact absurd heq (arrayOf_ne_bracketed f f)
    · omega
  | succ n ih =>
    obtain ⟨g, hpass⟩ := exists_pass f
    obtain ⟨hg, hdepth⟩ := hf.step hpass
    by_cases hargument : Argument [] f
    · -- From here on the two runs are one pass apart.
      rw [Function.iterate_succ_apply, hargument.pass_arrayOf.respell_eq, iterate_bracketed,
        iterate_bracketed, List.append_cancel_right_eq, eq_comm, hf.iterate_succ_eq_iff]
      omega
    · have hdeep : f.arrayDepth ≠ 0 := fun hzero => hargument (hf.argument hzero)
      rw [Function.iterate_succ_apply, Function.iterate_succ_apply, (hpass.arrayOf hargument).respell_eq,
        hpass.bracketed.respell_eq, ih hg, hdepth]
      omega

/-! ### Texts that no pass makes readable -/

/-- A group that is no array stands where no argument has one: before brackets at the end, or inside
the group that ends the text. -/
inductive Blocked : Nested → Prop
  | brackets {f : Nested} (hhard : f.Hard) (hlast : f.chars.getLast? = some ']') : Blocked f
  | inside {before : Piece} {inner : Nested} (hhard : inner.Hard) :
    Blocked (group before inner (word .nil))
  | behind {before : Piece} {inner rest : Nested} (hrest : Blocked rest) :
    Blocked (group before inner rest)

/-- What is blocked stays so behind any other text. -/
theorem Blocked.prepend {u : Piece} (hu : u.AtBoundary) {f : Nested} (h : f.Blocked) :
    (prepend u f).Blocked := by
  cases h with
  | brackets hhard hlast =>
    refine .brackets ((hard_prepend hu f).2 hhard) ?_
    rw [chars_prepend, List.getLast?_append, hlast, Option.some_or]
  | inside hhard => exact .inside hhard
  | behind hrest => exact .behind hrest

/-- A text is blocked if it ends in one that is. -/
theorem Blocked.join {u : Piece} (hu : u.AtBoundary) (hne : u.chars ≠ []) (f : Nested) {g : Nested}
    (h : g.Blocked) : (f ++ Nested.prepend u g).Blocked := by
  induction f with
  | word piece =>
    rw [word_append, prepend_prepend]
    exact h.prepend (hu.prepend hne piece)
  | group before inner rest _ ih => exact .behind ih

/-- Brackets at the end belong to what stands behind the last group. -/
theorem getLast?_group_iff {before : Piece} {inner rest : Nested} :
    (group before inner rest).chars.getLast? = some ']' ↔ rest.chars.getLast? = some ']' := by
  have hsplit : (group before inner rest).chars =
      (before.chars ++ '<' :: inner.chars) ++ ['>'] ++ rest.chars := by simp [chars]
  rw [hsplit, List.getLast?_append, List.getLast?_concat]
  cases rest.chars.getLast? with
  | none => simp
  | some c => rw [Option.some_or]

/-- No argument is blocked. -/
theorem Argument.not_blocked {stop : List Char} {f : Nested} (h : Argument stop f) : ¬ f.Blocked := by
  have hlastNe {groups : Nested} (hgroups : Groups groups) : groups.chars.getLast? ≠ some ']' := by
    induction hgroups with
    | nil => exact nofun
    | cons inner _ ih => exact fun hlast => ih (getLast?_group_iff.1 hlast)
  -- In an argument groups stand at the end only, one behind the other, and none has a group inside.
  have hgroups (name : Piece) {groups : Nested} (hgroups : Groups groups) :
      ¬ (prepend name groups).Blocked := by
    induction hgroups generalizing name with
    | nil =>
      intro hblocked
      cases hblocked with
      | brackets hhard _ => exact hhard
    | @cons inner rest hrest ih =>
      intro hblocked
      cases hblocked with
      | brackets _ hlast => exact hlastNe hrest (getLast?_group_iff.1 hlast)
      | inside hhard => exact hhard
      | behind hbehind =>
        rw [← prepend_nil rest] at hbehind
        exact ih .nil hbehind
  obtain ⟨name, -, -, h⟩ := h
  exact hgroups name h

/-- A rule that takes no group away but arrays. -/
structure Guards (name : Name) (body : Nested → Nested → Prop) : Prop where
  hard : ∀ u inner put rest, u.AtBoundary → body inner put →
    (group (u ++ name.piece) inner rest).Hard → (prepend u (put ++ rest)).Hard
  inside : ∀ u inner put, u.AtBoundary → body inner put → inner.Hard → (prepend u put).Blocked
  behind : ∀ u inner put rest, u.AtBoundary → body inner put → rest.Blocked →
    (prepend u (put ++ rest)).Blocked

section Guarding

variable {name : Name} {body : Nested → Nested → Prop} {f g : Nested}

/-- A guarded rule leaves some group that is no array. -/
theorem Rewrites.hard (hguards : Guards name body) (h : Rewrites name body f g) (hf : f.Hard) :
    g.Hard := by
  induction h with
  | copy piece => exact hf
  | keep _ _ _ ihInner ihRest => exact hf.imp id fun hf => hf.imp ihInner ihRest
  | replace hu hput _ ih =>
    exact hguards.hard _ _ _ _ hu hput (hf.imp id fun hf => hf.imp id ih)

/-- Brackets at the end stay there. -/
theorem Rewrites.getLast?_eq (h : Rewrites name body f g) (hf : f.chars.getLast? = some ']') :
    g.chars.getLast? = some ']' := by
  induction h with
  | copy piece => exact hf
  | keep _ _ _ _ ih => exact getLast?_group_iff.2 (ih (getLast?_group_iff.1 hf))
  | replace _ _ _ ih =>
    rw [chars_prepend, chars_append, ← List.append_assoc, List.getLast?_append,
      ih (getLast?_group_iff.1 hf), Option.some_or]

/-- A guarded rule leaves a blocked text blocked. -/
theorem Rewrites.blocked (hguards : Guards name body) (h : Rewrites name body f g)
    (hf : f.Blocked) : g.Blocked := by
  -- The three ways of being blocked are kept each: what is read or put at the end ends as before,
  -- and groups inside it stay hard.
  induction h with
  | copy piece => exact hf
  | keep hkeep hinner hrest _ ihRest =>
    cases hf with
    | brackets hhard hlast =>
      have hwhole := Rewrites.keep hkeep hinner hrest
      exact .brackets (hwhole.hard hguards hhard) (hwhole.getLast?_eq hlast)
    | inside hhard =>
      cases hrest
      exact .inside (hinner.hard hguards hhard)
    | behind hbehind => exact .behind (ihRest hbehind)
  | replace hu hput hrest ih =>
    cases hf with
    | brackets hhard hlast =>
      have hwhole := Rewrites.replace hu hput hrest
      exact .brackets (hwhole.hard hguards hhard) (hwhole.getLast?_eq hlast)
    | inside hhard =>
      cases hrest
      rw [append_nil]
      exact hguards.inside _ _ _ hu hput hhard
    | behind hbehind => exact hguards.behind _ _ _ _ hu hput (ih hbehind)

end Guarding

/-- The rule for arrays takes arrays away and nothing else. -/
theorem arrays_guard : Guards arrayName arrayBody where
  hard u inner put rest hu hput hhard := by
    obtain ⟨-, rfl⟩ := hput
    rw [Hard, Piece.chars_append, isArrayHead_append hu] at hhard
    have hinside : inner.Hard ∨ rest.Hard := hhard.resolve_left (by decide)
    rwa [hard_prepend hu, bracketed_append, hard_join brackets_atBoundary brackets_ne_nil]
  inside u inner put hu hput hhard := by
    obtain ⟨-, rfl⟩ := hput
    refine Blocked.prepend hu (.brackets ?_ ?_)
    · rw [bracketed_eq, hard_join brackets_atBoundary brackets_ne_nil]
      exact Or.inl hhard
    · rw [chars_bracketed]
      simp
  behind u inner put rest hu hput hblocked := by
    obtain ⟨-, rfl⟩ := hput
    rw [bracketed_append]
    exact (hblocked.join brackets_atBoundary brackets_ne_nil inner).prepend hu

/-- The second rule puts groups of the same kinds where it took some. -/
theorem picks_guard : Guards partialName pickBody := by
  have hpartial (whole rest : Nested) : (group partialName.piece whole rest).Hard :=
    Or.inl (by decide)
  refine ⟨?_, ?_, ?_⟩
  · rintro u inner put rest hu ⟨whole, keys, -, -, -, rfl⟩ -
    exact Or.inr (Or.inl (hpartial _ _))
  · rintro u inner put hu ⟨whole, keys, -, -, -, rfl⟩ -
    exact .inside (hpartial _ _)
  · rintro u inner put rest hu ⟨whole, keys, -, -, -, rfl⟩ hblocked
    rw [group_append, word_append, prepend_nil]
    exact .behind hblocked

/-- A pass leaves a blocked text blocked. -/
theorem Blocked.step {f g : Nested} (hf : f.Blocked) (h : Pass f g) : g.Blocked := by
  obtain ⟨middle, harrays, hpicks⟩ := h
  exact hpicks.blocked picks_guard (harrays.blocked arrays_guard hf)

/-- The word before a blocked text stays, however many passes are made. -/
theorem Blocked.iterate_arrayOf_ne {f : Nested} (hf : f.Blocked) (n : Nat) :
    respell^[n] f.arrayOf.chars ≠ respell^[n] f.bracketed.chars := by
  induction n generalizing f with
  | zero => exact arrayOf_ne_bracketed f f
  | succ n ih =>
    obtain ⟨g, hpass⟩ := exists_pass f
    have hargument : ¬ Argument [] f := fun hargument => hargument.not_blocked hf
    rw [Function.iterate_succ_apply, Function.iterate_succ_apply, (hpass.arrayOf hargument).respell_eq,
      hpass.bracketed.respell_eq]
    exact ih (hf.step hpass)

end Nested

end ChangeLens.TypeText
