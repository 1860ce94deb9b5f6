import ChangeLens.Proofs.Folding
import ChangeLens.Proofs.TypeMembers
import Mathlib.Data.List.DropRight

/-!
# `ChangeLens.Proofs.FunctionHeads`: function heads as they are written

`Detect.functionHead` looks for the head of a function in plain text. `WrittenHead` is the grammar of
what it looks for, without any reading: the word, blanks, a name, a gap and what stands between the
parentheses. `functionHead_sound` and `functionHead_chars_append` prove that a head is found exactly
where one is written, and `findAll_of_headsOf` that a search through a whole text finds its heads
from left to right (`HeadsOf`).

Each head counts for as many parameters as it has commas and one more. `parameterCount_of_lists` says
when this is the number of parameters: when commas cut what stands between the parentheses into
pieces none of which is blank (`Lists`).
-/

set_option autoImplicit false

namespace ChangeLens

namespace Text

/-! ### Scanning -/

/-- Skipping characters is scanning what is behind them. -/
theorem findAllFrom_eq {α : Type} (pattern : Pattern α) (skip : Nat) (cs : List Char) :
    findAllFrom pattern skip cs = findAll pattern (cs.drop skip) := by
  induction cs generalizing skip with
  | nil =>
    rw [List.drop_nil]
    rfl
  | cons c cs ih =>
    cases skip with
    | zero => rfl
    | succ skip => exact ih skip

/-- Where a pattern does not match, the search goes on behind one character. -/
theorem findAll_cons_of_none {α : Type} {pattern : Pattern α} {c : Char} {cs : List Char}
    (h : pattern (c :: cs) = none) : findAll pattern (c :: cs) = findAll pattern cs := by
  simp only [findAll, findAllFrom, h]

/-- Where a pattern matches, the search goes on behind the match. -/
theorem findAll_append_of_some {α : Type} {pattern : Pattern α} {taken rest : List Char} {found : α}
    (hne : taken ≠ []) (h : pattern (taken ++ rest) = some (taken.length, found)) :
    findAll pattern (taken ++ rest) = found :: findAll pattern rest := by
  cases taken with
  | nil => exact absurd rfl hne
  | cons c taken =>
    rw [List.cons_append, List.length_cons] at h
    rw [List.cons_append]
    show findAllFrom pattern 0 (c :: (taken ++ rest)) = _
    simp only [findAllFrom, h]
    rw [findAllFrom_eq, List.drop_left]

/-- What the characters in front leave starts with one of another sort. -/
theorem dropWhile_eq_cons {p : Char → Bool} {cs rest : List Char} {c : Char}
    (h : cs.dropWhile p = c :: rest) :
    cs = cs.takeWhile p ++ c :: rest ∧ p c = false := by
  constructor
  · rw [← h, List.takeWhile_append_dropWhile]
  · have hhead := List.head?_dropWhile_not p cs
    rw [h] at hhead
    exact hhead

/-- What is dropped by the length of a front is what is behind that front. -/
theorem drop_length_takeWhile (p : Char → Bool) (cs : List Char) :
    cs.drop (cs.takeWhile p).length = cs.dropWhile p := by
  have hparts : cs.takeWhile p ++ cs.dropWhile p = cs := List.takeWhile_append_dropWhile
  calc cs.drop (cs.takeWhile p).length
      = (cs.takeWhile p ++ cs.dropWhile p).drop (cs.takeWhile p).length := by rw [hparts]
    _ = cs.dropWhile p := List.drop_left

/-- A character does not occur before its first occurrence. -/
theorem notMem_takeWhile_ne (d : Char) (cs : List Char) : d ∉ cs.takeWhile (· != d) := by
  intro hmem
  have hother := List.mem_takeWhile_imp hmem
  simp at hother

/-- A text without a character has other ones only. -/
theorem ne_of_notMem {d : Char} {cs : List Char} (h : d ∉ cs) : ∀ c ∈ cs, (c != d) = true := by
  intro c hc
  rw [bne_iff_ne]
  rintro rfl
  exact h hc

/-- A text is cut where a character first occurs. -/
theorem takeWhile_ne_append {d : Char} {cs : List Char} (h : d ∉ cs) (rest : List Char) :
    (cs ++ d :: rest).takeWhile (· != d) = cs := by
  rw [List.takeWhile_append_of_pos (ne_of_notMem h), List.takeWhile_cons_of_neg (by simp),
    List.append_nil]

/-! ### Blanks at both ends -/

/-- Nothing is left exactly if all is stripped. -/
theorem stripWhile_eq_nil {p : Char → Bool} {cs : List Char} :
    stripWhile p cs = [] ↔ ∀ c ∈ cs, p c = true := by
  rw [stripWhile, dropWhileEnd, List.reverse_eq_nil_iff, List.dropWhile_eq_nil_iff]
  constructor
  · intro hrest c hc
    rw [← @List.takeWhile_append_dropWhile _ p cs, List.mem_append] at hc
    rcases hc with hc | hc
    · exact List.mem_takeWhile_imp hc
    · exact hrest c (List.mem_reverse.2 hc)
  · intro hall c hc
    exact hall c ((List.dropWhile_sublist p).subset (List.mem_reverse.1 hc))

/-- Dropping other characters does not change how often one occurs. -/
theorem count_dropWhile {p : Char → Bool} {c : Char} (hc : p c = false) (cs : List Char) :
    (cs.dropWhile p).count c = cs.count c := by
  have hfront : (cs.takeWhile p).count c = 0 := by
    rw [List.count_eq_zero]
    intro hmem
    rw [List.mem_takeWhile_imp hmem] at hc
    cases hc
  have hparts := congrArg (List.count c) (@List.takeWhile_append_dropWhile _ p cs)
  rw [List.count_append, hfront, Nat.zero_add] at hparts
  exact hparts

/-- Nor does stripping them at both ends. -/
theorem count_stripWhile {p : Char → Bool} {c : Char} (hc : p c = false) (cs : List Char) :
    (stripWhile p cs).count c = cs.count c := by
  rw [stripWhile, dropWhileEnd, List.count_reverse, count_dropWhile hc, List.count_reverse,
    count_dropWhile hc]

end Text

namespace Detect

open ChangeLens.Text

/-! ### Written heads -/

/-- What may stand between the name of a function and its parameters: blanks, and perhaps type
parameters among them, which end at their first closing bracket. -/
inductive IsGap : List Char → Prop where
  | blank {blanks : List Char} (h : ∀ c ∈ blanks, isBlank c = true) : IsGap blanks
  | generic {left inner right : List Char} (hleft : ∀ c ∈ left, isBlank c = true)
      (hinner : '>' ∉ inner) (hright : ∀ c ∈ right, isBlank c = true) :
      IsGap (left ++ '<' :: (inner ++ '>' :: right))

/-- The head of a function as it is written, with its parameters up to the first closing
parenthesis. -/
structure WrittenHead where
  /-- What stands between the word `function` and the name. -/
  space : List Char
  /-- The name. -/
  name : List Char
  /-- What stands between the name and the parameters. -/
  gap : List Char
  /-- What stands between the parentheses. -/
  inside : List Char
  space_ne_nil : space ≠ []
  isBlank_of_mem_space : ∀ c ∈ space, isBlank c = true
  name_starts : name.head?.any startsIdentifier = true
  isWordish_of_mem_name : ∀ c ∈ name, Source.isWordish c = true
  isGap : IsGap gap
  closing_notMem_inside : ')' ∉ inside

namespace WrittenHead

/-- The characters of a written head. -/
def chars (head : WrittenHead) : List Char :=
  "function".toList ++ (head.space ++ (head.name ++ (head.gap ++ '(' :: (head.inside ++ [')']))))

/-- The name of a written head as a text. -/
def title (head : WrittenHead) : String :=
  String.ofList head.name

/-- What a written head counts for: its name and the number of its parameters. -/
def counted (head : WrittenHead) : String × Nat :=
  (head.title, parameterCount head.inside)

/-- The parts of a head and what follows it. -/
theorem chars_append (head : WrittenHead) (rest : List Char) :
    head.chars ++ rest = "function".toList ++
      (head.space ++ (head.name ++ (head.gap ++ '(' :: (head.inside ++ ')' :: rest)))) := by
  unfold chars
  -- The rewriting must not take the word apart.
  generalize "function".toList = word
  simp only [List.append_assoc, List.cons_append, List.nil_append]

/-- A head has the word. -/
theorem chars_ne_nil (head : WrittenHead) : head.chars ≠ [] := by
  intro hnil
  have hword := (List.append_eq_nil_iff.1 hnil).1
  revert hword
  decide

/-- A name has a first character, with which names may start. -/
theorem exists_name_eq_cons (head : WrittenHead) :
    ∃ c more, head.name = c :: more ∧ startsIdentifier c = true := by
  have hstarts := head.name_starts
  cases hname : head.name with
  | nil =>
    rw [hname] at hstarts
    cases hstarts
  | cons c more =>
    rw [hname] at hstarts
    exact ⟨c, more, rfl, hstarts⟩

end WrittenHead

/-! ### Characters of names -/

/-- What starts an identifier may stand anywhere in it. -/
theorem isWordish_of_startsIdentifier {c : Char} (h : startsIdentifier c = true) :
    Source.isWordish c = true := by
  unfold startsIdentifier at h
  unfold Source.isWordish isWord Char.isAlphanum
  grind

/-- The codes of all blanks. -/
def blankCodes : List Nat :=
  List.range' 0x09 5 ++ List.range' 0x1c 5 ++ List.range' 0x2000 11 ++
    [0x85, 0xa0, 0x1680, 0x2028, 0x2029, 0x202f, 0x205f, 0x3000]

/-- The blanks are these characters. -/
theorem toNat_mem_blankCodes {c : Char} (h : isBlank c = true) : c.toNat ∈ blankCodes := by
  simp only [isBlank, Bool.or_eq_true, Bool.and_eq_true, beq_iff_eq, decide_eq_true_eq] at h
  simp only [blankCodes, List.mem_append, List.mem_range'_1, List.mem_cons, List.not_mem_nil,
    or_false]
  omega

/-- A blank is no part of a name. -/
theorem isWordish_of_isBlank {c : Char} (h : isBlank c = true) : Source.isWordish c = false := by
  have hnone : ∀ code ∈ blankCodes, Source.isWordish (Char.ofNat code) = false := by
    decide +kernel
  rw [← Char.ofNat_toNat c]
  exact hnone c.toNat (toNat_mem_blankCodes h)

/-- A name does not start with a blank. -/
theorem isBlank_of_startsIdentifier {c : Char} (h : startsIdentifier c = true) :
    isBlank c = false := by
  rw [Bool.eq_false_iff]
  intro hblank
  have hother := isWordish_of_isBlank hblank
  rw [isWordish_of_startsIdentifier h] at hother
  cases hother

/-! ### What is found is written -/

/-- A type parameter list is skipped as a whole or not at all. -/
theorem skipTypeParameters_cases (cs : List Char) :
    skipTypeParameters cs = cs ∨
      ∃ inner, '>' ∉ inner ∧ cs = '<' :: (inner ++ '>' :: skipTypeParameters cs) := by
  unfold skipTypeParameters
  split
  · rename_i rest
    split
    · rename_i after hclosing
      refine Or.inr ⟨rest.takeWhile (· != '>'), notMem_takeWhile_ne '>' rest, ?_⟩
      rw [← (dropWhile_eq_cons hclosing).1]
    · exact Or.inl rfl
  · exact Or.inl rfl

/-- What is skipped between the name and the parameters is a gap. -/
theorem exists_gap (cs : List Char) :
    ∃ gap, IsGap gap ∧
      cs = gap ++ (skipTypeParameters (cs.dropWhile isBlank)).dropWhile isBlank := by
  have hblank (ds : List Char) : ∀ c ∈ ds.takeWhile isBlank, isBlank c = true :=
    fun _ hc => List.mem_takeWhile_imp hc
  have hleft : cs.takeWhile isBlank ++ cs.dropWhile isBlank = cs := List.takeWhile_append_dropWhile
  rcases skipTypeParameters_cases (cs.dropWhile isBlank) with hsame | ⟨inner, hinner, hskipped⟩
  · refine ⟨cs.takeWhile isBlank, .blank (hblank cs), ?_⟩
    have hagain : (cs.dropWhile isBlank).dropWhile isBlank = cs.dropWhile isBlank :=
      List.dropWhile_idempotent isBlank cs
    rw [hsame, hagain, hleft]
  · -- The blanks on both sides of the type parameters belong to the gap.
    generalize skipTypeParameters (cs.dropWhile isBlank) = rest at hskipped ⊢
    refine ⟨cs.takeWhile isBlank ++ '<' :: (inner ++ '>' :: rest.takeWhile isBlank),
      .generic (hblank cs) hinner (hblank rest), ?_⟩
    calc cs = cs.takeWhile isBlank ++ cs.dropWhile isBlank := hleft.symm
      _ = cs.takeWhile isBlank ++ '<' :: (inner ++ '>' :: rest) := by rw [hskipped]
      _ = _ := by simp

/-- A name that starts like an identifier keeps its start. -/
theorem starts_takeWhile {cs : List Char} (h : cs.head?.any startsIdentifier = true) :
    (cs.takeWhile Source.isWordish).head?.any startsIdentifier = true := by
  cases cs with
  | nil => cases h
  | cons c rest =>
    have hc : startsIdentifier c = true := h
    rw [List.takeWhile_cons_of_pos (isWordish_of_startsIdentifier hc)]
    exact hc

/-- What a text in which a head is found is made of, piece by piece. -/
theorem functionHead_eq_some {cs : List Char} {found : Nat × String × Nat}
    (h : functionHead cs = some found) :
    ∃ afterWord nameStart inside rest,
      cs = "function".toList ++ afterWord ∧
      nameStart = afterWord.dropWhile isBlank ∧ nameStart ≠ afterWord ∧
      nameStart.head?.any startsIdentifier = true ∧
      (skipTypeParameters ((nameStart.dropWhile Source.isWordish).dropWhile isBlank)).dropWhile
        isBlank = '(' :: inside ∧
      inside.dropWhile (· != ')') = ')' :: rest := by
  unfold functionHead at h
  -- All branches but one end without a match.
  split at h
  · cases h
  · rename_i hword
    dsimp only at h
    split at h
    · cases h
    · rename_i hstart
      split at h
      · rename_i inside hopening
        split at h
        · rename_i closing rest hclosing
          rw [drop_length_takeWhile] at hopening hclosing
          rw [Bool.not_eq_true', Bool.not_eq_false, List.isPrefixOf_iff_prefix,
            List.prefix_iff_eq_append] at hword
          rw [Bool.or_eq_true, not_or, decide_eq_true_eq, Bool.not_eq_true', Bool.not_eq_false]
            at hstart
          obtain rfl : closing = ')' := by simpa using (dropWhile_eq_cons hclosing).2
          exact ⟨cs.drop 8, _, inside, rest, hword.symm, rfl,
            fun hsame => hstart.1 (congrArg List.length hsame), hstart.2, hopening, hclosing⟩
        · cases h
      · cases h

/-- What is found as a function head is a written one. -/
theorem functionHead_sound {cs : List Char} {found : Nat × String × Nat}
    (h : functionHead cs = some found) :
    ∃ (head : WrittenHead) (rest : List Char), cs = head.chars ++ rest := by
  obtain ⟨afterWord, nameStart, inside, rest, rfl, hspace, hne, hstarts, hopening, hclosing⟩ :=
    functionHead_eq_some h
  obtain ⟨gap, hgap, hbehind⟩ := exists_gap (nameStart.dropWhile Source.isWordish)
  rw [hopening, (dropWhile_eq_cons hclosing).1] at hbehind
  have hafterWord : afterWord = afterWord.takeWhile isBlank ++
      (nameStart.takeWhile Source.isWordish ++
        (gap ++ '(' :: (inside.takeWhile (· != ')') ++ ')' :: rest))) := by
    rw [← hbehind, List.takeWhile_append_dropWhile, hspace, List.takeWhile_append_dropWhile]
  let head : WrittenHead :=
    { space := afterWord.takeWhile isBlank
      name := nameStart.takeWhile Source.isWordish
      gap := gap
      inside := inside.takeWhile (· != ')')
      space_ne_nil := by
        intro hnil
        rw [← @List.takeWhile_append_dropWhile _ isBlank afterWord, hnil] at hne
        exact hne hspace
      isBlank_of_mem_space := fun c hc => List.mem_takeWhile_imp hc
      name_starts := starts_takeWhile hstarts
      isWordish_of_mem_name := fun c hc => List.mem_takeWhile_imp hc
      isGap := hgap
      closing_notMem_inside := notMem_takeWhile_ne ')' inside }
  -- The parts that were cut off make up the text again.
  refine ⟨head, rest, ?_⟩
  rw [head.chars_append]
  exact congrArg ("function".toList ++ ·) hafterWord

/-! ### What is written is found -/

/-- What is no part of a name ends it, with or without blanks in front. -/
theorem takeWhile_blanks_append {blanks : List Char} (hblanks : ∀ c ∈ blanks, isBlank c = true)
    {c : Char} (hc : Source.isWordish c = false) (rest : List Char) :
    (blanks ++ c :: rest).takeWhile Source.isWordish = [] := by
  cases blanks with
  | nil => exact List.takeWhile_cons_of_neg (by simp [hc])
  | cons blank blanks =>
    have hblank := isWordish_of_isBlank (hblanks blank List.mem_cons_self)
    exact List.takeWhile_cons_of_neg (by simp [hblank])

/-- What stands behind the name of a function ends the name. -/
theorem IsGap.takeWhile_append {gap : List Char} (h : IsGap gap) {name : List Char}
    (hname : ∀ c ∈ name, Source.isWordish c = true) (inside : List Char) :
    (name ++ (gap ++ '(' :: inside)).takeWhile Source.isWordish = name := by
  have hend : (gap ++ '(' :: inside).takeWhile Source.isWordish = [] := by
    cases h with
    | blank hblank => exact takeWhile_blanks_append hblank (by decide +kernel) inside
    | generic hleft hinner hright =>
      rw [List.append_assoc]
      exact takeWhile_blanks_append hleft (by decide +kernel) _
  rw [List.takeWhile_append_of_pos hname, hend, List.append_nil]

/-- What is skipped behind the name is the gap. -/
theorem IsGap.dropWhile_append {gap : List Char} (h : IsGap gap) (inside : List Char) :
    (skipTypeParameters ((gap ++ '(' :: inside).dropWhile isBlank)).dropWhile isBlank =
      '(' :: inside := by
  have hopening : ('(' :: inside).dropWhile isBlank = '(' :: inside :=
    List.dropWhile_cons_of_neg (by decide)
  -- A gap is blank, or type parameters with blanks on both sides.
  cases h with
  | blank hblank =>
    rw [List.dropWhile_append_of_pos hblank, hopening]
    exact hopening
  | @generic left inner right hleft hinner hright =>
    have hskipped : skipTypeParameters ('<' :: (inner ++ '>' :: (right ++ '(' :: inside))) =
        right ++ '(' :: inside := by
      have hclosing : (inner ++ '>' :: (right ++ '(' :: inside)).dropWhile (· != '>') =
          '>' :: (right ++ '(' :: inside) := by
        rw [List.dropWhile_append_of_pos (ne_of_notMem hinner),
          List.dropWhile_cons_of_neg (by decide)]
      simp only [skipTypeParameters, hclosing]
    rw [List.append_assoc, List.cons_append, List.append_assoc, List.cons_append,
      List.dropWhile_append_of_pos hleft, List.dropWhile_cons_of_neg (by decide), hskipped,
      List.dropWhile_append_of_pos hright, hopening]

/-- The name is what the blanks behind the word leave. -/
theorem WrittenHead.dropWhile_space_append (head : WrittenHead) (behind : List Char) :
    (head.space ++ (head.name ++ behind)).dropWhile isBlank = head.name ++ behind := by
  obtain ⟨c, more, hname, hstarts⟩ := head.exists_name_eq_cons
  rw [List.dropWhile_append_of_pos head.isBlank_of_mem_space, hname, List.cons_append,
    List.dropWhile_cons_of_neg (by simp [isBlank_of_startsIdentifier hstarts])]

/-- A written head has blanks behind the word and then a name. -/
theorem WrittenHead.not_lacks_name (head : WrittenHead) (behind : List Char) :
    ¬ (decide ((head.name ++ behind).length = (head.space ++ (head.name ++ behind)).length) ||
      !(head.name ++ behind).head?.any startsIdentifier) = true := by
  obtain ⟨c, more, hname, hstarts⟩ := head.exists_name_eq_cons
  have hspace := List.length_pos_iff.2 head.space_ne_nil
  have hhead : (head.name ++ behind).head?.any startsIdentifier = true := by
    rw [hname]
    exact hstarts
  rw [hhead, List.length_append, List.length_append, List.length_append]
  simp only [Bool.not_true, Bool.or_false, decide_eq_true_eq]
  omega

/-- A written head is found where it starts. -/
theorem functionHead_chars_append (head : WrittenHead) (rest : List Char) :
    functionHead (head.chars ++ rest) = some (head.chars.length, head.counted) := by
  have hword : "function".toList.isPrefixOf (head.chars ++ rest) = true := by
    rw [head.chars_append, List.isPrefixOf_iff_prefix]
    exact List.prefix_append _ _
  have hdrop : (head.chars ++ rest).drop 8 = head.space ++ (head.name ++ (head.gap ++ '(' ::
      (head.inside ++ ')' :: rest))) := by
    rw [head.chars_append]
    exact List.drop_left' rfl
  have hname : (head.name ++ (head.gap ++ '(' :: (head.inside ++ ')' :: rest))).takeWhile
      (fun c => isWord c || c == '$') = head.name :=
    head.isGap.takeWhile_append head.isWordish_of_mem_name (head.inside ++ ')' :: rest)
  have hinside := takeWhile_ne_append head.closing_notMem_inside rest
  have hlength : (head.chars ++ rest).length - rest.length = head.chars.length := by
    rw [List.length_append, Nat.add_sub_cancel]
  -- Each part is found where it ends: the blanks at the name, the name at the gap, the gap at the
  -- parenthesis.
  unfold functionHead
  rw [hword, if_neg (by simp)]
  dsimp only
  rw [hdrop, head.dropWhile_space_append, if_neg (head.not_lacks_name _), hname, List.drop_left,
    head.isGap.dropWhile_append]
  simp only [hinside, List.drop_left, hlength]
  rfl

/-! ### All heads of a text -/

/-- The heads written in a text, from left to right; a head is read as a whole before the next one is
looked for. -/
inductive HeadsOf : List Char → List WrittenHead → Prop where
  | nil : HeadsOf [] []
  | skip {c : Char} {cs : List Char} {heads : List WrittenHead}
      (hnone : ∀ (head : WrittenHead) rest, c :: cs ≠ head.chars ++ rest) (more : HeadsOf cs heads) :
      HeadsOf (c :: cs) heads
  | read (head : WrittenHead) {rest : List Char} {heads : List WrittenHead}
      (more : HeadsOf rest heads) : HeadsOf (head.chars ++ rest) (head :: heads)

/-- Every text has its heads: the scan finds them. -/
theorem exists_headsOf (cs : List Char) : ∃ heads, HeadsOf cs heads := by
  -- By recursion on the length, because a head takes many characters at once.
  by_cases hhead : ∃ (head : WrittenHead) (rest : List Char), cs = head.chars ++ rest
  · obtain ⟨head, rest, rfl⟩ := hhead
    have hshorter : rest.length < (head.chars ++ rest).length := by
      have hchars := List.length_pos_iff.2 head.chars_ne_nil
      rw [List.length_append]
      omega
    obtain ⟨heads, hheads⟩ := exists_headsOf rest
    exact ⟨head :: heads, .read head hheads⟩
  · cases cs with
    | nil => exact ⟨[], .nil⟩
    | cons c cs =>
      obtain ⟨heads, hheads⟩ := exists_headsOf cs
      exact ⟨heads, .skip (fun head rest heq => hhead ⟨head, rest, heq⟩) hheads⟩
termination_by cs.length

/-- The heads of a text are what is counted in it. -/
theorem findAll_of_headsOf {cs : List Char} {heads : List WrittenHead} (h : HeadsOf cs heads) :
    findAll functionHead cs = heads.map WrittenHead.counted := by
  induction h with
  | nil => rfl
  | @skip c cs heads hnone more ih =>
    -- What were found here would be written here.
    have hmatch : functionHead (c :: cs) = none := by
      rw [Option.eq_none_iff_forall_not_mem]
      intro found hfound
      obtain ⟨head, rest, heq⟩ := functionHead_sound hfound
      exact hnone head rest heq
    rw [findAll_cons_of_none hmatch, ih]
  | read head more ih =>
    rw [findAll_append_of_some head.chars_ne_nil (functionHead_chars_append head _), ih,
      List.map_cons]

/-- A head of a text is written there. -/
theorem HeadsOf.exists_eq_append {cs : List Char} {heads : List WrittenHead} (h : HeadsOf cs heads)
    {head : WrittenHead} (hmem : head ∈ heads) :
    ∃ before after, cs = before ++ (head.chars ++ after) := by
  induction h with
  | nil => cases hmem
  | @skip c cs heads hnone more ih =>
    obtain ⟨before, after, rfl⟩ := ih hmem
    exact ⟨c :: before, after, rfl⟩
  | @read first rest heads more ih =>
    rcases List.mem_cons.1 hmem with rfl | hmem
    · exact ⟨[], rest, rfl⟩
    · obtain ⟨before, after, rfl⟩ := ih hmem
      exact ⟨first.chars ++ before, after, (List.append_assoc _ _ _).symm⟩

/-! ### Listed parameters -/

/-- A text between parentheses lists a number of parameters: none when it is blank, otherwise as many
as commas cut it into, where no piece is blank. -/
inductive Lists : List Char → Nat → Prop where
  | none {blanks : List Char} (h : ∀ c ∈ blanks, isBlank c = true) : Lists blanks 0
  | some {parameters : List (List Char)} (hne : parameters ≠ [])
      (hwhole : ∀ parameter ∈ parameters, ',' ∉ parameter)
      (hblank : ∀ parameter ∈ parameters, ∃ c ∈ parameter, isBlank c = false) :
      Lists ([','].intercalate parameters) parameters.length

/-- Pieces without commas have one comma less between them than there are pieces. -/
theorem count_intercalate {parameters : List (List Char)} (hne : parameters ≠ [])
    (hwhole : ∀ parameter ∈ parameters, ',' ∉ parameter) :
    ([','].intercalate parameters).count ',' + 1 = parameters.length := by
  induction parameters with
  | nil => exact absurd rfl hne
  | cons first more ih =>
    have hfirst : first.count ',' = 0 := List.count_eq_zero.2 (hwhole first List.mem_cons_self)
    cases more with
    | nil => rw [List.intercalate_singleton, hfirst, List.length_singleton]
    | cons second more =>
      have hmore := ih (List.cons_ne_nil second more)
        fun parameter hmem => hwhole parameter (List.mem_cons_of_mem first hmem)
      rw [List.intercalate_cons_cons, List.count_append, List.count_append, hfirst,
        List.count_singleton_self, List.length_cons, ← hmore]
      omega

/-- Where a text lists parameters, counting commas counts them. -/
theorem parameterCount_of_lists {inside : List Char} {count : Nat} (h : Lists inside count) :
    parameterCount inside = count := by
  cases h with
  | none hblank =>
    rw [parameterCount, stripWhile_eq_nil.2 hblank]
    rfl
  | @some parameters hne hwhole hblank =>
    -- The first parameter keeps the text from being blank.
    have hstripped : stripWhile isBlank ([','].intercalate parameters) ≠ [] := by
      intro hnil
      obtain ⟨first, hfirst⟩ := List.exists_mem_of_ne_nil parameters hne
      obtain ⟨c, hc, hinked⟩ := hblank first hfirst
      rw [stripWhile_eq_nil.1 hnil c (TypeText.mem_join hfirst hc)] at hinked
      cases hinked
    show (if (stripWhile isBlank _).isEmpty then 0 else (stripWhile isBlank _).count ',' + 1) = _
    rw [if_neg (by simpa using hstripped), count_stripWhile (by decide),
      count_intercalate hne hwhole]

end Detect

end ChangeLens
