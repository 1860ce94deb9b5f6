import ChangeLens.Proofs.Respelling

/-!
# `ChangeLens.Proofs.TypeSoundness`: what equal canonical texts say about types

The canonical text of a plain type is the text of a type that is the same: respelling keeps that
(`TypeExpr.Spelled.respellUpTo`), and sorting the members of a union or an intersection does, too
(`exists_sorted`). Since a text says which type it is of, plain types with one canonical text are the
same (`canonical_sound`).

Types that are not plain need not be. `Array<T>` is written `T[]` also where `T` is a union or an
intersection, and then the brackets stand behind its last member: `Array<A|B>` gets the text of
`A|B[]`, and so does every such type. A name such as `$Array` is taken for `Array`
(`conflated_types`).
-/

set_option autoImplicit false

namespace ChangeLens.TypeText

open ChangeLens.Text

/-! ### Sorting members -/

/-- Sorting the parts of a text gives the text of the same type. -/
theorem exists_sorted_parts (c : Connective) (t : TypeExpr) :
    ∃ u, Same t u ∧ sortMembers c.sign (t.charsAt c.precedence) = u.charsAt c.precedence := by
  -- Sorting texts is sorting the parts by their texts.
  have hsorted := sortByText_perm (TypeExpr.charsAt c.precedence) (t.parts c)
  obtain ⟨u, hsame, hchars⟩ := exists_same_of_parts (c := c) hsorted.symm
    (List.forall₂_same.2 fun part _ => Same.refl part)
  refine ⟨u, hsame, ?_⟩
  rw [hchars, t.charsAt_eq c,
    sortMembers_join (isNeutral_sign c) (by simpa using t.parts_ne_nil c), sortPieces_map]
  intro piece hpiece
  obtain ⟨part, hpart, rfl⟩ := List.mem_map.1 hpiece
  refine ⟨TypeExpr.passes_of_mem_parts hpart, ?_⟩
  rw [TypeExpr.charsAt, parenthesize]
  split
  · exact List.cons_ne_nil _ _
  · exact part.chars_ne_nil

/-- Members that can be sorted one by one can be sorted together. -/
theorem exists_sorted_members (members : List TypeExpr)
    (h : ∀ member ∈ members, member.precedence ≠ 0) :
    ∃ others, List.Forall₂ Same members others ∧
      members.map (fun member => sortMembers '&' member.chars) = others.map TypeExpr.chars := by
  induction members with
  | nil => exact ⟨[], .nil, rfl⟩
  | cons member members ih =>
    rw [List.forall_mem_cons] at h
    obtain ⟨others, hothers, hmap⟩ := ih h.2
    obtain ⟨u, hsame, hsorted⟩ := exists_sorted_parts .intersection member
    -- A member is no union, so it needs no parentheses, sorted or not.
    have hmember : Connective.intersection.precedence ≤ member.precedence :=
      Nat.one_le_iff_ne_zero.2 h.1
    rw [TypeExpr.charsAt_of_le hmember, TypeExpr.charsAt_of_le (hsame.precedence_eq ▸ hmember)]
      at hsorted
    refine ⟨u :: others, .cons hsame hothers, ?_⟩
    rw [List.map_cons, List.map_cons, hmap]
    exact congrArg (· :: _) hsorted

/-- Both sorting steps together give the text of the same type. -/
theorem exists_sorted (t : TypeExpr) :
    ∃ u, Same t u ∧ sortUnionsAndIntersections t.chars = u.chars := by
  have hcharsAt : TypeExpr.charsAt Connective.union.precedence = TypeExpr.chars :=
    funext TypeExpr.charsAt_union
  obtain ⟨u, hsame, hsorted⟩ := exists_sorted_parts .union t
  obtain ⟨others, hothers, hmap⟩ := exists_sorted_members (u.parts .union) fun _ hmember =>
    TypeExpr.precedence_ne_of_mem_parts hmember
  obtain ⟨v, hv, hchars⟩ := exists_same_of_parts (c := .union) (.refl _) hothers
  rw [hcharsAt] at hsorted hchars
  have hunion : sortMembers '|' t.chars = u.chars := hsorted
  have hsplit : splitTopLevel '|' u.chars = (u.parts .union).map TypeExpr.chars := by
    have hparts := split_parts .union u
    rwa [hcharsAt] at hparts
  refine ⟨v, hsame.trans hv, ?_⟩
  calc
    sortUnionsAndIntersections t.chars
    _ = ['|'].intercalate ((splitTopLevel '|' (sortMembers '|' t.chars)).map (sortMembers '&')) :=
      sortUnionsAndIntersections_eq t.chars
    _ = ['|'].intercalate ((u.parts .union).map fun member => sortMembers '&' member.chars) := by
      rw [hunion, hsplit, List.map_map]
      rfl
    _ = ['|'].intercalate (others.map TypeExpr.chars) := by rw [hmap]
    _ = v.chars := hchars.symm

/-! ### The canonical text -/

/-- The text of a type has no blanks to tidy up. -/
theorem TypeExpr.tidy_chars (t : TypeExpr) : tidy t.chars = t.chars := by
  have hchars : ∀ c ∈ t.chars, isBlank c = false ∧ c ≠ '/' := by
    refine t.chars_induct (motive := fun cs => ∀ c ∈ cs, isBlank c = false ∧ c ≠ '/') ?_ ?_ ?_ ?_ ?_
    · intro name c hc
      have hname := name.valid c hc
      exact ⟨isBlank_of_isNameChar hname, ne_of_isNameChar hname (by decide)⟩
    · intro sign hsign c hc
      cases List.mem_singleton.1 hc
      simp only [List.mem_cons, List.not_mem_nil, or_false] at hsign
      rcases hsign with rfl | rfl | rfl <;> decide
    · intro c hc
      cases hc
    · intro cs ds hcs hds c hc
      exact (List.mem_append.1 hc).elim (hcs c) (hds c)
    · intro opening closing cs hpair hcs c hc
      simp only [List.mem_cons, Prod.mk.injEq, List.not_mem_nil, or_false] at hpair
      rw [List.mem_cons, List.mem_append, List.mem_singleton] at hc
      rcases hc with rfl | hc | rfl
      · rcases hpair with ⟨rfl, -⟩ | ⟨rfl, -⟩ | ⟨rfl, -⟩ <;> decide
      · exact hcs c hc
      · rcases hpair with ⟨-, rfl⟩ | ⟨-, rfl⟩ | ⟨-, rfl⟩ <;> decide
  exact tidy_eq_self (fun c hc => (hchars c hc).1) fun hmem => (hchars '/' hmem).2 rfl

/-- The canonical text of a plain type is a text of the same type. -/
theorem TypeExpr.Plain.exists_canonical {t : TypeExpr} (h : t.Plain) :
    ∃ u, Same t u ∧ canonicalChars t.chars = u.chars := by
  obtain ⟨u, hsame, -, hchars⟩ := h.spelled.respellUpTo maxPasses
  obtain ⟨v, hv, hsorted⟩ := exists_sorted u
  refine ⟨v, hsame.trans hv, ?_⟩
  rw [canonicalChars, normalizeChars, t.tidy_chars, ← hchars, hsorted]

/-! ### Arrays of unions and intersections -/

/-- The type with its last member made an array. -/
def TypeExpr.arrayLast : TypeExpr → TypeExpr
  | .combine c left right =>
    .combine c left (if right.precedence < c.precedence then .array right else right.arrayLast)
  | t => .array t

/-- Making the last part an array does not change how tightly a type binds. -/
theorem TypeExpr.precedence_arrayLast (t : TypeExpr) : t.arrayLast.precedence = t.precedence := by
  cases t <;> rfl

/-- Brackets behind a text belong to its last member. -/
theorem TypeExpr.chars_arrayLast (t : TypeExpr) : t.arrayLast.chars = t.chars ++ ['[', ']'] := by
  have hoperand (t : TypeExpr) (ht : t.precedence = 2) : t.array.chars = t.chars ++ ['[', ']'] := by
    rw [chars_array, charsAt_of_le (Nat.le_of_eq ht.symm)]
  induction t with
  | combine c left right _ hright =>
    have hbound : c.precedence < 2 := by cases c <;> decide
    rw [arrayLast, chars_combine, chars_combine, List.append_assoc, List.cons_append]
    congr 2
    split
    · -- A last member in parentheses becomes an array as a whole.
      rename_i hloose
      rw [charsAt_of_le (Nat.le_of_lt hbound : c.precedence ≤ (array right).precedence), chars_array,
        charsAt_of_lt hloose, charsAt_of_lt (Nat.lt_trans hloose hbound)]
    · rename_i htight
      have htight := Nat.not_lt.1 htight
      rw [charsAt_of_le (right.precedence_arrayLast.symm ▸ htight), charsAt_of_le htight, hright]
  | name name => exact hoperand _ rfl
  | array element _ => exact hoperand _ rfl
  | generic head arguments _ => exact hoperand _ rfl

/-- Without inner type arguments, one pass writes `Array<T>` as the text of `T` and brackets. -/
theorem normalizeChars_arrayOf {t : TypeExpr} (h : '<' ∉ t.chars) :
    normalizeChars (TypeExpr.generic arrayName (.last t)).chars = t.chars ++ ['[', ']'] := by
  have hclosing : '>' ∉ t.chars := by
    rw [← List.count_eq_zero, ← t.balanced.total, List.count_eq_zero]
    exact h
  have hargument : argument? [] (t.chars ++ ['>']) = some (t.chars, ['>']) := by
    have hname : ((t.chars ++ ['>']).takeWhile fun c =>
        c != '<' && c != '>' && !(([] : List Char).contains c)) =
        t.chars := by
      rw [List.takeWhile_append_of_pos]
      · simp
      · intro c hc
        have hne : c ≠ '<' ∧ c ≠ '>' := ⟨fun heq => h (heq ▸ hc), fun heq => hclosing (heq ▸ hc)⟩
        simp [hne]
    simp only [argument?, hname, List.drop_left, List.isEmpty_iff, t.chars_ne_nil, if_false]
    rw [groupsLength.eq_def]
    simp
  let found := "rray<".toList ++ t.chars
  have hmatch : arrayRule none ('A' :: (found ++ ['>'])) =
      some (found.length + 2, t.chars ++ ['[', ']']) := by
    have hword : afterWord? "Array<".toList none ('A' :: (found ++ ['>'])) =
        some (t.chars ++ ['>']) := by
      simp [afterWord?, found]
    simp only [arrayRule, hword, hargument, Option.bind_eq_bind, Option.bind_some]
    simp [found]
  have hpass : substitute arrayRule ("Array<".toList ++ (t.chars ++ ['>'])) =
      t.chars ++ ['[', ']'] := by
    show substituteFrom arrayRule none 0 ('A' :: (found ++ ['>'])) = _
    rw [substituteFrom, hmatch]
    show _ ++ substituteFrom arrayRule (some 'A') (found.length + 1) (found ++ ['>']) = _
    rw [substituteFrom_skip, substituteFrom, List.append_nil]
  have hnone : '<' ∉ t.chars ++ ['[', ']'] := by simpa using h
  have hrespell : respell ("Array<".toList ++ (t.chars ++ ['>'])) = t.chars ++ ['[', ']'] := by
    rw [respell, hpass, (substitute_spelling_eq_self hnone).2]
  have hchars : (TypeExpr.generic arrayName (.last t)).chars =
      "Array<".toList ++ (t.chars ++ ['>']) := by
    rw [TypeExpr.chars, Arguments.chars]
    rfl
  have hchanged : t.chars ++ ['[', ']'] ≠ "Array<".toList ++ (t.chars ++ ['>']) := by
    intro heq
    refine hnone ?_
    rw [heq]
    exact List.mem_append_left _ (by decide)
  rw [normalizeChars, TypeExpr.tidy_chars, hchars, maxPasses, respellUpTo, hrespell,
    if_neg hchanged, respellUpTo_eq_self hnone]

/-- An array of a union or an intersection is taken for the type whose last member is an array. -/
theorem canonical_arrayOf {t : TypeExpr} (hloose : t.precedence < 2) (hnone : '<' ∉ t.chars) :
    canonical (TypeExpr.generic arrayName (.last t)).text = canonical t.arrayLast.text ∧
      ¬ Same (.generic arrayName (.last t)) t.arrayLast := by
  constructor
  · have hlast : '<' ∉ t.arrayLast.chars := by
      rw [t.chars_arrayLast]
      simpa using hnone
    rw [TypeExpr.text, TypeExpr.text, canonical_ofList, canonical_ofList, canonicalChars, canonicalChars,
      normalizeChars_arrayOf hnone, normalizeChars, TypeExpr.tidy_chars, respellUpTo_eq_self hlast,
      t.chars_arrayLast]
  · -- An array is an operand, the other type is a union or an intersection as `t` is.
    intro hsame
    have hprecedence := hsame.precedence_eq
    rw [t.precedence_arrayLast] at hprecedence
    exact absurd hloose (Nat.not_lt.2 (Nat.le_of_eq hprecedence))

/-! ### Soundness -/

/-- Plain types with one canonical text are the same. An array of a union or an intersection gets the
text of the type whose last member is an array, which is another type. -/
theorem canonical_sound (t u : TypeExpr) :
    (t.Plain → u.Plain → canonical t.text = canonical u.text → Same t u) ∧
    (t.precedence < 2 → '<' ∉ t.chars →
      canonical (TypeExpr.generic arrayName (.last t)).text = canonical t.arrayLast.text ∧
        ¬ Same (.generic arrayName (.last t)) t.arrayLast) := by
  refine ⟨fun ht hu h => ?_, canonical_arrayOf⟩
  obtain ⟨t', htSame, htChars⟩ := ht.exists_canonical
  obtain ⟨u', huSame, huChars⟩ := hu.exists_canonical
  rw [TypeExpr.text, TypeExpr.text, canonical_ofList, canonical_ofList, htChars, huChars] at h
  exact (htSame.trans (same_of_chars_eq (String.ofList_injective h))).trans huSame.symm

/-- Two spellings, one inside the other, are seen through. -/
theorem canonical_sound_spellings :
    ∃ t u : TypeExpr, t.text = "Partial<Pick<Array<A>,B>>" ∧ u.text = "Pick<Partial<A[]>,B>" ∧
      t.Plain ∧ u.Plain ∧ canonical t.text = canonical u.text ∧ Same t u := by
  let a : TypeExpr := .name (.ofText "A" (by decide))
  let b : TypeExpr := .name (.ofText "B" (by decide))
  let t : TypeExpr := .generic partialName (.last (.generic pickName
    (.more (.generic arrayName (.last a)) (.last b))))
  let u : TypeExpr := .generic pickName (.more (.generic partialName (.last (.array a))) (.last b))
  have ht : t.Plain :=
    ⟨⟨by decide, by decide, by decide, by decide⟩, ⟨by decide, by decide, by decide, by decide⟩,
      ⟨⟨by decide, by decide, by decide, by decide⟩, trivial⟩, trivial⟩
  have hu : u.Plain :=
    ⟨⟨by decide, by decide, by decide, by decide⟩, ⟨⟨by decide, by decide, by decide, by decide⟩,
      trivial⟩, trivial⟩
  have hcanonical : canonical t.text = canonical u.text := by
    rw [TypeExpr.text, TypeExpr.text, canonical_ofList, canonical_ofList]
    exact congrArg String.ofList (by decide +kernel)
  exact ⟨t, u, rfl, rfl, ht, hu, hcanonical, (canonical_sound t u).1 ht hu hcanonical⟩

mutual

/-- Whether a name stands in a type other than before type arguments. -/
def TypeExpr.mentions (name : Name) : TypeExpr → Bool
  | .name other => other == name
  | .combine _ left right => left.mentions name || right.mentions name
  | .array element => element.mentions name
  | .generic _ arguments => arguments.mentions name

@[inherit_doc TypeExpr.mentions]
def Arguments.mentions (name : Name) : Arguments → Bool
  | .last argument => argument.mentions name
  | .more argument rest => argument.mentions name || rest.mentions name

end

mutual

/-- Types that are the same mention the same names. -/
theorem Same.mentions_eq {name : Name} {t u : TypeExpr} :
    Same t u → t.mentions name = u.mentions name
  | .refl _ => rfl
  | .symm h => h.mentions_eq.symm
  | .trans h h' => h.mentions_eq.trans h'.mentions_eq
  | .comm _ a b => by simp [TypeExpr.mentions, Bool.or_comm]
  | .assoc _ a b d => by simp [TypeExpr.mentions, Bool.or_assoc]
  | .array_spelling t => by simp [TypeExpr.mentions, Arguments.mentions]
  | .partial_spelling a b => by simp [TypeExpr.mentions, Arguments.mentions]
  | .combine _ h h' => by simp [TypeExpr.mentions, h.mentions_eq, h'.mentions_eq]
  | .array h => by simp [TypeExpr.mentions, h.mentions_eq]
  | .generic _ h => by simp [TypeExpr.mentions, h.mentions_eq]

/-- Arguments that mean the same mention the same names. -/
theorem SameArguments.mentions_eq {name : Name} {as bs : Arguments} :
    SameArguments as bs → as.mentions name = bs.mentions name
  | .last h => by simp [Arguments.mentions, h.mentions_eq]
  | .more h h' => by simp [Arguments.mentions, h.mentions_eq, h'.mentions_eq]

end

/-- An array of a union is taken for a union with an array, and `$Array` is taken for `Array`. -/
theorem conflated_types :
    (∃ t u : TypeExpr, t.text = "Array<A|B>" ∧ u.text = "A|B[]" ∧
      canonical t.text = canonical u.text ∧ ¬ Same t u) ∧
    ∃ t u : TypeExpr, t.text = "$Array<A>" ∧ u.text = "$A[]" ∧
      canonical t.text = canonical u.text ∧ ¬ Same t u := by
  let a : Name := .ofText "A" (by decide)
  constructor
  · let union : TypeExpr := .combine .union (.name a) (.name (.ofText "B" (by decide)))
    obtain ⟨hcanonical, hdifferent⟩ := canonical_arrayOf (t := union) (by decide) (by decide)
    exact ⟨_, _, rfl, rfl, hcanonical, hdifferent⟩
  · let t : TypeExpr := .generic (.ofText "$Array" (by decide)) (.last (.name a))
    let u : TypeExpr := .array (.name (.ofText "$A" (by decide)))
    refine ⟨t, u, rfl, rfl, ?_, fun hsame => ?_⟩
    · rw [TypeExpr.text, TypeExpr.text, canonical_ofList, canonical_ofList]
      exact congrArg String.ofList (by decide +kernel)
    · have hmentions : t.mentions a = u.mentions a := hsame.mentions_eq
      exact absurd hmentions (by decide)

end ChangeLens.TypeText
