import ChangeLens.Proofs.ArrayLevels
import ChangeLens.Proofs.TypeSoundness

/-!
# `ChangeLens.Proofs.ArraySpelling`: when `Array<T>` and `T[]` get one text

The types are those of names, arrays and generic types, to any depth. The text of such a type is cut
at its brackets (`TypeExpr.exists_cut`), and the cut tells what the passes do to it: it is shallow or
blocked (`TypeExpr.Uncombined.shallow_or_blocked`). `canonical_array_iff` says exactly when the two
spellings of an array get one text. They do not for `Array<G<H<A>>>` and `Array<G<A>[]>`, whose
content is never readable, nor for eleven arrays inside one another, which need one pass too many
(`array_spellings_kept`).
-/

set_option autoImplicit false

namespace ChangeLens.TypeText

open ChangeLens.Text

/-! ### Types -/

mutual

/-- A type without unions and intersections. -/
def TypeExpr.Uncombined : TypeExpr → Prop
  | .name _ => True
  | .combine .. => False
  | .array element => element.Uncombined
  | .generic _ arguments => arguments.Uncombined

@[inherit_doc TypeExpr.Uncombined]
def Arguments.Uncombined : Arguments → Prop
  | .last argument => argument.Uncombined
  | .more argument rest => argument.Uncombined ∧ rest.Uncombined

end

mutual

/-- Whether every generic type in a type is taken for an array. -/
def TypeExpr.arraysOnly : TypeExpr → Bool
  | .name _ => true
  | .combine _ left right => left.arraysOnly && right.arraysOnly
  | .array element => element.arraysOnly
  | .generic head arguments => isArrayHead head.chars && arguments.arraysOnly

@[inherit_doc TypeExpr.arraysOnly]
def Arguments.arraysOnly : Arguments → Bool
  | .last argument => argument.arraysOnly
  | .more argument rest => argument.arraysOnly && rest.arraysOnly

end

mutual

/-- How many generic types that are taken for arrays stand inside one another. -/
def TypeExpr.arrayDepth : TypeExpr → Nat
  | .name _ => 0
  | .combine _ left right => max left.arrayDepth right.arrayDepth
  | .array element => element.arrayDepth
  | .generic head arguments => arguments.arrayDepth + if isArrayHead head.chars then 1 else 0

@[inherit_doc TypeExpr.arrayDepth]
def Arguments.arrayDepth : Arguments → Nat
  | .last argument => argument.arrayDepth
  | .more argument rest => max argument.arrayDepth rest.arrayDepth

end

/-- Whether every generic type in a type is taken for an array, except perhaps the type itself. -/
def TypeExpr.shallow : TypeExpr → Bool
  | .generic _ arguments => arguments.arraysOnly
  | t => t.arraysOnly

/-- The text cut at its brackets, and what is known of the groups. -/
structure Cut (cs : List Char) (arraysOnly : Bool) (depth : Nat) (f : Nested) : Prop where
  chars : f.chars = cs
  signs : ∀ c : Connective, c.sign ∉ cs
  ne_nil : f ≠ .word .nil
  soft : arraysOnly = true → f.Soft
  hard : arraysOnly = false → f.Hard
  arrayDepth : f.arrayDepth = depth

section Cutting

variable {cs ds : List Char} {arraysOnly arraysOnly' : Bool} {depth depth' : Nat} {f g : Nested}

/-- A name is a single word. -/
theorem Name.cut (name : Name) : Cut name.chars true 0 (.word name.piece) where
  chars := rfl
  signs c := name.not_mem (by cases c <;> decide)
  ne_nil heq := name.nonempty (congrArg Nested.chars heq)
  soft _ := trivial
  hard := nofun
  arrayDepth := rfl

/-- The text of an array puts brackets behind the last word. -/
theorem Cut.array (h : Cut cs arraysOnly depth f) :
    Cut (cs ++ ['[', ']']) arraysOnly depth f.bracketed where
  chars := by rw [f.chars_bracketed, h.chars]
  signs c := by
    have hsign : c.sign ∉ ['[', ']'] := by cases c <;> decide
    rw [List.mem_append, not_or]
    exact ⟨h.signs c, hsign⟩
  ne_nil heq := by
    have hchars := congrArg Nested.chars heq
    simp [f.chars_bracketed, Nested.chars] at hchars
  soft hb := by
    rw [f.bracketed_eq, Nested.soft_join Nested.brackets_atBoundary Nested.brackets_ne_nil]
    exact ⟨h.soft hb, trivial⟩
  hard hb := by
    rw [f.bracketed_eq, Nested.hard_join Nested.brackets_atBoundary Nested.brackets_ne_nil]
    exact Or.inl (h.hard hb)
  arrayDepth := by
    rw [f.bracketed_eq, Nested.arrayDepth_join Nested.brackets_atBoundary Nested.brackets_ne_nil,
      h.arrayDepth, Nested.arrayDepth, Nat.max_zero]

/-- The text of an application is the head with the arguments as its group. -/
theorem Cut.generic (head : Name) (h : Cut cs arraysOnly depth f) :
    Cut (head.chars ++ '<' :: (cs ++ ['>'])) (isArrayHead head.chars && arraysOnly)
      (depth + if isArrayHead head.chars then 1 else 0) (.group head.piece f (.word .nil)) where
  chars := by rw [← h.chars]; rfl
  signs c := by
    have hsign : c.sign ≠ '<' ∧ c.sign ∉ ['>'] := by cases c <;> decide
    have hhead : c.sign ∉ head.chars := head.not_mem (by cases c <;> decide)
    rw [List.mem_append, List.mem_cons, List.mem_append, not_or, not_or, not_or]
    exact ⟨hhead, hsign.1, h.signs c, hsign.2⟩
  ne_nil := nofun
  soft hb := by
    rw [Bool.and_eq_true] at hb
    exact ⟨hb.1, h.ne_nil, h.soft hb.2, trivial⟩
  hard hb := by
    rw [Bool.and_eq_false_iff] at hb
    exact hb.imp id fun hb => Or.inl (h.hard hb)
  arrayDepth := by
    rw [Nested.arrayDepth, h.arrayDepth]
    exact Nat.max_zero _

/-- Two arguments are joined at a comma, which is a boundary of words. -/
theorem Cut.more (h : Cut cs arraysOnly depth f) (h' : Cut ds arraysOnly' depth' g) :
    Cut (cs ++ ',' :: ds) (arraysOnly && arraysOnly') (max depth depth')
      (f ++ g.prepend commaPiece) := by
  have hcomma : commaPiece.AtBoundary := by
    show isWord ',' = false
    decide
  have hne : commaPiece.chars ≠ [] := by decide
  refine ⟨?_, ?_, ?_, ?_, ?_, ?_⟩
  · rw [Nested.chars_append, Nested.chars_prepend, h.chars, h'.chars]
    rfl
  · intro c
    have hsign : c.sign ≠ ',' := by cases c <;> decide
    rw [List.mem_append, List.mem_cons, not_or, not_or]
    exact ⟨h.signs c, hsign, h'.signs c⟩
  · intro heq
    have hchars := congrArg Nested.chars heq
    simp [Nested.chars, commaPiece] at hchars
  · -- Rewriting goes on in both parts independently, because a comma ends every word.
    intro hb
    rw [Bool.and_eq_true] at hb
    exact (Nested.soft_join hcomma hne f g).2 ⟨h.soft hb.1, h'.soft hb.2⟩
  · intro hb
    rw [Bool.and_eq_false_iff] at hb
    exact (Nested.hard_join hcomma hne f g).2 (hb.imp h.hard h'.hard)
  · rw [Nested.arrayDepth_join hcomma hne, h.arrayDepth, h'.arrayDepth]

end Cutting

/-- A type without unions and intersections binds most tightly. -/
theorem TypeExpr.Uncombined.precedence_eq {t : TypeExpr} (h : t.Uncombined) : t.precedence = 2 := by
  cases t with
  | combine c left right => exact False.elim h
  | _ => rfl

/-- The element of such an array needs no parentheses. -/
theorem TypeExpr.Uncombined.chars_array {t : TypeExpr} (h : t.Uncombined) :
    t.array.chars = t.chars ++ ['[', ']'] := by
  rw [TypeExpr.chars_array, charsAt_of_le (Nat.le_of_eq h.precedence_eq.symm)]

/-- The arguments of an application are cut into words and groups if each of them is. -/
theorem Arguments.exists_cut (arguments : Arguments) (harguments : arguments.Uncombined)
    (h : ∀ argument ∈ arguments.toList, argument.Uncombined →
      ∃ f, Cut argument.chars argument.arraysOnly argument.arrayDepth f) :
    ∃ f, Cut arguments.chars arguments.arraysOnly arguments.arrayDepth f := by
  induction arguments with
  | last argument =>
    rw [Uncombined] at harguments
    rw [chars, arraysOnly, arrayDepth]
    exact h argument List.mem_cons_self harguments
  | more argument rest ih =>
    rw [Uncombined] at harguments
    rw [toList, List.forall_mem_cons] at h
    obtain ⟨f, hf⟩ := h.1 harguments.1
    obtain ⟨g, hg⟩ := ih harguments.2 h.2
    rw [chars, arraysOnly, arrayDepth]
    exact ⟨_, hf.more hg⟩

/-- Every type without unions and intersections is cut into words and groups. -/
theorem TypeExpr.exists_cut (t : TypeExpr) (h : t.Uncombined) :
    ∃ f, Cut t.chars t.arraysOnly t.arrayDepth f := by
  induction t with
  | name name =>
    rw [chars, arraysOnly, arrayDepth]
    exact ⟨_, name.cut⟩
  | combine c left right => exact False.elim h
  | array element ih =>
    rw [Uncombined] at h
    obtain ⟨f, hf⟩ := ih h
    rw [h.chars_array, arraysOnly, arrayDepth]
    exact ⟨_, hf.array⟩
  | generic head arguments ih =>
    rw [Uncombined] at h
    obtain ⟨f, hf⟩ := arguments.exists_cut h ih
    rw [chars, arraysOnly, arrayDepth]
    exact ⟨_, hf.generic head⟩

/-- An array whose element has no union or intersection is shallow or blocked. -/
theorem TypeExpr.Uncombined.shallow_or_blocked {t : TypeExpr} (h : t.Uncombined) :
    ∃ f : Nested, f.chars = t.chars ∧
      (t.shallow = true ∧ f.Shallow ∧ f.arrayDepth = t.arrayDepth ∨
        t.shallow = false ∧ f.Blocked) := by
  cases t with
  | name name =>
    obtain ⟨f, hf⟩ := exists_cut (.name name) h
    exact ⟨f, hf.chars, Or.inl ⟨rfl, .arrays (hf.soft rfl) hf.ne_nil, hf.arrayDepth⟩⟩
  | combine c left right => exact False.elim h
  | array element =>
    obtain ⟨f, hf⟩ := exists_cut (.array element) h
    refine ⟨f, hf.chars, ?_⟩
    -- An argument that is no array itself stops the rewriting, and the brackets stay where they
    -- are.
    cases honly : (TypeExpr.array element).arraysOnly with
    | true => exact Or.inl ⟨honly, .arrays (hf.soft honly) hf.ne_nil, hf.arrayDepth⟩
    | false =>
      refine Or.inr ⟨honly, .brackets (hf.hard honly) ?_⟩
      rw [hf.chars, getLast?_array]
  | generic head arguments =>
    rw [Uncombined] at h
    obtain ⟨f, hf⟩ := arguments.exists_cut h fun argument _ => argument.exists_cut
    have hwhole := hf.generic head
    rw [chars, shallow, arrayDepth]
    refine ⟨_, hwhole.chars, ?_⟩
    cases honly : arguments.arraysOnly with
    | false => exact Or.inr ⟨rfl, .inside (hf.hard honly)⟩
    | true =>
      refine Or.inl ⟨rfl, ?_, hwhole.arrayDepth⟩
      -- Any other head is left as it is, and only what is in its group is rewritten.
      cases hhead : isArrayHead head.chars with
      | true => exact .arrays (hwhole.soft (by rw [hhead, honly]; rfl)) hwhole.ne_nil
      | false => exact .around head.nonempty hhead (hf.soft honly)

/-! ### The two spellings of an array -/

/-- Without unions and intersections there is nothing to sort. -/
theorem TypeExpr.Uncombined.canonical_eq {t : TypeExpr} (h : t.Uncombined) {f : Nested}
    (hf : t.chars = f.chars) :
    canonical t.text = String.ofList (respell^[maxPasses] f.chars) := by
  obtain ⟨g, hg⟩ := t.exists_cut h
  have hsign (c : Connective) : c.sign ∉ respell^[maxPasses] f.chars :=
    f.not_mem_iterate maxPasses (hf ▸ hg.signs c)
  have hunion : '|' ∉ respell^[maxPasses] f.chars := hsign .union
  have hintersection : '&' ∉ respell^[maxPasses] f.chars := hsign .intersection
  rw [text, canonical_ofList, canonicalChars, normalizeChars, t.tidy_chars, hf, respellUpTo_eq_iterate,
    sortUnionsAndIntersections]
  simp [hunion, hintersection]

/-- `Array<T>` and `T[]` get one text exactly if `T` holds no generic types but arrays, except perhaps
`T` itself, and the arrays do not stand too deep inside one another. -/
theorem canonical_array_iff (t : TypeExpr) (h : t.Uncombined) :
    canonical (TypeExpr.generic arrayName (.last t)).text = canonical t.array.text ↔
      t.shallow = true ∧ t.arrayDepth < maxPasses := by
  obtain ⟨f, hchars, hf⟩ := h.shallow_or_blocked
  have harray : (TypeExpr.generic arrayName (.last t)).chars = f.arrayOf.chars := by
    rw [TypeExpr.chars, Arguments.chars, f.chars_arrayOf, hchars]
  have hbrackets : t.array.chars = f.bracketed.chars := by
    rw [h.chars_array, f.chars_bracketed, hchars]
  have hgeneric : (TypeExpr.generic arrayName (.last t)).Uncombined := h
  have hbracketed : t.array.Uncombined := h
  rw [hgeneric.canonical_eq harray, hbracketed.canonical_eq hbrackets, String.ofList_inj]
  rcases hf with ⟨hshallow, hf, hdepth⟩ | ⟨hshallow, hf⟩
  · rw [hf.iterate_arrayOf_eq_iff, hdepth, hshallow]
    simp
  · simp [hshallow, hf.iterate_arrayOf_ne]

/-- Arrays in the arguments of a generic type are seen through. -/
theorem canonical_array_iff_map :
    ∃ t : TypeExpr, t.text = "Map<Array<Array<A>>,$Array<B>[]>" ∧ t.Uncombined ∧
      t.shallow = true ∧ t.arrayDepth < maxPasses ∧
      canonical (TypeExpr.generic arrayName (.last t)).text = canonical t.array.text := by
  let a : TypeExpr := .name (.ofText "A" (by decide))
  let b : TypeExpr := .name (.ofText "B" (by decide))
  let inner : TypeExpr := .generic arrayName (.last (.generic arrayName (.last a)))
  let other : TypeExpr := .array (.generic (.ofText "$Array" (by decide)) (.last b))
  let t : TypeExpr := .generic (.ofText "Map" (by decide)) (.more inner (.last other))
  have ht : t.Uncombined := ⟨trivial, trivial⟩
  have hshallow : t.shallow = true := by decide
  have hdepth : t.arrayDepth < maxPasses := by decide
  exact ⟨t, rfl, ht, hshallow, hdepth, (canonical_array_iff t ht).2 ⟨hshallow, hdepth⟩⟩

/-- `Array` inside one another, so many times. -/
def arraysAround : Nat → TypeExpr → TypeExpr
  | 0, t => t
  | count + 1, t => .generic arrayName (.last (arraysAround count t))

/-- An array of a generic type with a generic argument, an array of an array of a generic type, and an
eleventh level of arrays keep the spelling `Array<…>`. -/
theorem array_spellings_kept :
    ∃ a g h : Name, a.chars = ['A'] ∧ g.chars = ['G'] ∧ h.chars = ['H'] ∧
      ∀ t ∈ [TypeExpr.generic g (.last (.generic h (.last (.name a)))),
          .array (.generic g (.last (.name a))), arraysAround maxPasses (.name a)],
        canonical (TypeExpr.generic arrayName (.last t)).text ≠ canonical t.array.text := by
  let a : Name := .ofText "A" (by decide)
  let g : Name := .ofText "G" (by decide)
  let h : Name := .ofText "H" (by decide)
  refine ⟨a, g, h, rfl, rfl, rfl, fun t ht heq => ?_⟩
  rw [TypeExpr.text, TypeExpr.text, canonical_ofList, canonical_ofList, String.ofList_inj] at heq
  simp only [List.mem_cons, List.not_mem_nil, or_false] at ht
  rcases ht with rfl | rfl | rfl
  · exact absurd heq (by decide +kernel)
  · exact absurd heq (by decide +kernel)
  · exact absurd heq (by decide +kernel)

end ChangeLens.TypeText
