import ChangeLens.Proofs.ClosedText
import ChangeLens.Proofs.Substitution

/-!
# `ChangeLens.Proofs.LiteralTypes`: which string literals keep their value

Comments, layout and spellings are rewritten over the whole text of a type, inside string literals as
well. A text is quiet if none of these rules applies anywhere in it; then it is its own normal form
(`normalizeChars_of_quiet`). Quiet literals make quiet unions, because a rule that would need more
than one literal would have to match a quote (`isQuietFrom_quote`). Sorting a union cuts it at the
signs outside literals. So the canonical text of a union of quiet literals shows their values.

`canonical_literals` puts this together. It says as well that no literal is told apart from all
others: an empty comment in front of its value changes nothing. `literals_conflated` has literals of
different values with one canonical text for each of the rules.
-/

set_option autoImplicit false

namespace ChangeLens.TypeText

open ChangeLens.Text

/-! ### Quiet texts -/

/-- Characters beside which blanks are dropped. -/
def isLoose (c : Char) : Bool :=
  isBlank c || isPunctuation c || c == '='

/-- Whether a blank stays where it stands: a space between characters beside which none is dropped. -/
def blankStays (before : Option Char) (c : Char) (rest : List Char) : Bool :=
  c == ' ' && before.any (!isLoose ·) && rest.head?.any (!isLoose ·)

/-- Whether nothing is rewritten at a place: no comment starts there, a blank there stays, and no word
stands there that a rule of spelling looks for. -/
def isQuietAt (before : Option Char) (c : Char) (rest : List Char) : Bool :=
  !(['/', '*'].isPrefixOf (c :: rest)) && (lineComment before (c :: rest)).isNone &&
    (!isBlank c || blankStays before c rest) &&
    (afterWord? "Array<".toList before (c :: rest)).isNone &&
    (afterWord? "Partial<Pick<".toList before (c :: rest)).isNone

/-- Whether nothing is rewritten in the rest of a text. -/
def isQuietFrom (before : Option Char) : List Char → Bool
  | [] => true
  | c :: rest => isQuietAt before c rest && isQuietFrom (some c) rest

/-- What is asked of a character in a quiet text. -/
theorem isQuietAt_iff {before : Option Char} {c : Char} {rest : List Char} :
    isQuietAt before c rest = true ↔
      ['/', '*'].isPrefixOf (c :: rest) = false ∧ lineComment before (c :: rest) = none ∧
      (isBlank c = true → blankStays before c rest = true) ∧
      afterWord? "Array<".toList before (c :: rest) = none ∧
      afterWord? "Partial<Pick<".toList before (c :: rest) = none := by
  have hblank : (!isBlank c || blankStays before c rest) = true ↔
      (isBlank c = true → blankStays before c rest = true) := by
    cases isBlank c <;> simp
  rw [isQuietAt, Bool.and_eq_true, Bool.and_eq_true, Bool.and_eq_true, Bool.and_eq_true,
    Bool.not_eq_true', hblank, Option.isNone_iff_eq_none, Option.isNone_iff_eq_none,
    Option.isNone_iff_eq_none, and_assoc, and_assoc, and_assoc]

/-- A blank that stays is a space, and its neighbours are not loose. -/
theorem blankStays_iff {before : Option Char} {c : Char} {rest : List Char} :
    blankStays before c rest = true ↔ c = ' ' ∧ (∃ b, before = some b ∧ isLoose b = false) ∧
      ∃ d more, rest = d :: more ∧ isLoose d = false := by
  have hrest : rest.head?.any (!isLoose ·) = true ↔ ∃ d more, rest = d :: more ∧ isLoose d = false := by
    cases rest <;> simp
  rw [blankStays, Bool.and_eq_true, Bool.and_eq_true, beq_iff_eq, hrest, Option.any_eq_true, and_assoc]
  simp

/-- In a quiet text every character is quiet behind those before it. -/
theorem isQuietAt_of_append {before : Option Char} {a rest : List Char} {c : Char}
    (h : isQuietFrom before (a ++ c :: rest) = true) :
    isQuietAt (a.getLast?.or before) c rest = true := by
  induction a generalizing before with
  | nil =>
    rw [List.nil_append, isQuietFrom, Bool.and_eq_true] at h
    exact h.1
  | cons d a ih =>
    rw [List.cons_append, isQuietFrom, Bool.and_eq_true] at h
    rw [List.getLast?_cons, Option.some_or, ← Option.or_some]
    exact ih h.2

section Quiet

variable {cs : List Char}

/-- A rule that does nothing at quiet places does nothing to a quiet text. -/
theorem substitute_of_quiet {rule : Rule}
    (hrule : ∀ before c rest, isQuietAt before c rest = true → rule before (c :: rest) = none)
    (h : isQuietFrom none cs = true) : substitute rule cs = cs := by
  refine substitute_eq_of_none fun a b hab hb => ?_
  obtain ⟨c, rest, rfl⟩ := List.exists_cons_of_ne_nil hb
  rw [hab] at h
  have hquiet := isQuietAt_of_append h
  rw [Option.or_none] at hquiet
  exact hrule _ c rest hquiet

/-- A quiet text has no comment to strip. -/
theorem stripComments_of_quiet (h : isQuietFrom none cs = true) : stripComments cs = cs := by
  -- Quiet characters begin neither of the two sorts of comments.
  have hblock : substitute blockComment cs = cs := by
    refine substitute_of_quiet (fun before c rest hquiet => ?_) h
    have hstart := (isQuietAt_iff.1 hquiet).1
    unfold blockComment
    split
    · rename_i heq
      rw [heq] at hstart
      simp at hstart
    · rfl
  have hline : substitute lineComment cs = cs :=
    substitute_of_quiet (fun _ _ _ hquiet => (isQuietAt_iff.1 hquiet).2.1) h
  rw [stripComments, hblock, hline]

/-- A quiet text has single blanks only. -/
theorem collapseRuns_of_quiet {before : Option Char} (h : isQuietFrom before cs = true) :
    collapseRuns (before.any isBlank) cs = cs := by
  induction cs generalizing before with
  | nil => rfl
  | cons c rest ih =>
    rw [isQuietFrom, Bool.and_eq_true] at h
    have hrest : collapseRuns (isBlank c) rest = rest := ih h.2
    rw [collapseRuns]
    cases hblank : isBlank c with
    | false =>
      rw [hblank] at hrest
      simp [hrest]
    | true =>
      -- The character before is none, so the run starts here.
      obtain ⟨rfl, ⟨b, rfl, hb⟩, -⟩ := blankStays_iff.1 ((isQuietAt_iff.1 h.1).2.2.1 hblank)
      have hbefore : isBlank b = false := by
        simp only [isLoose, Bool.or_eq_false_iff] at hb
        exact hb.1.1
      rw [hblank] at hrest
      simp [hbefore, hrest]

/-- No blank stands at an end of a quiet text. -/
theorem stripWhile_of_quiet (h : isQuietFrom none cs = true) : stripWhile isBlank cs = cs := by
  -- A blank that stays has a character on both sides, so it is at neither end.
  have hends (a rest : List Char) (c : Char) (hcs : cs = a ++ c :: rest) (hend : a = [] ∨ rest = []) :
      isBlank c = false := by
    rw [hcs] at h
    refine Bool.eq_false_iff.2 fun hblank => ?_
    obtain ⟨-, ⟨b, hb, -⟩, d, more, hd, -⟩ :=
      blankStays_iff.1 ((isQuietAt_iff.1 (isQuietAt_of_append h)).2.2.1 hblank)
    rcases hend with rfl | rfl
    · cases hb
    · cases hd
  have hstart : cs.dropWhile isBlank = cs := by
    cases hcs : cs with
    | nil => rfl
    | cons c rest => exact List.dropWhile_cons_of_neg (by simp [hends [] rest c hcs (Or.inl rfl)])
  rw [stripWhile, hstart, dropWhileEnd]
  rcases List.eq_nil_or_concat cs with rfl | ⟨a, c, hcs⟩
  · rfl
  · rw [List.concat_eq_append] at hcs
    rw [hcs, List.reverse_concat, List.dropWhile_cons_of_neg, ← List.reverse_concat, List.reverse_reverse]
    simp [hends a [] c hcs (Or.inr rfl)]

/-- In a quiet text no blank stands next to a sign that would take it away. -/
theorem tighten_of_quiet {tight : Char → Bool} (htight : ∀ c, isLoose c = false → tight c = false)
    {before : Option Char} (h : isQuietFrom before cs = true) :
    tighten tight (before.any tight) cs = cs := by
  induction cs generalizing before with
  | nil => rfl
  | cons c rest ih =>
    rw [isQuietFrom, Bool.and_eq_true] at h
    have hrest : tighten tight (tight c) rest = rest := ih h.2
    rw [tighten]
    cases hc : tight c with
    | true =>
      rw [hc] at hrest
      simp [hrest]
    | false =>
      rw [hc] at hrest
      have hstays : (isBlank c && (before.any tight || (rest.dropWhile isBlank).head?.any tight)) =
          false := by
        refine Bool.and_eq_false_imp.2 fun hblank => ?_
        -- A blank that stays has a character before it and one behind it, and neither is loose.
        obtain ⟨-, ⟨b, rfl, hb⟩, d, more, rfl, hd⟩ :=
          blankStays_iff.1 ((isQuietAt_iff.1 h.1).2.2.1 hblank)
        have hdBlank : isBlank d = false := by
          simp only [isLoose, Bool.or_eq_false_iff] at hd
          exact hd.1.1
        simp [htight b hb, hdBlank, htight d hd]
      simp [hstays, hrest]

/-- A quiet text is tidy. -/
theorem tidy_of_quiet (h : isQuietFrom none cs = true) : tidy cs = cs := by
  have hcollapse : collapseBlanks cs = cs := by
    have hruns : collapseRuns false cs = cs := collapseRuns_of_quiet h
    rw [collapseBlanks, hruns, stripWhile_of_quiet h]
  have hpunctuation : tighten isPunctuation false cs = cs := by
    refine tighten_of_quiet (fun c hc => ?_) h
    simp only [isLoose, Bool.or_eq_false_iff] at hc
    exact hc.1.2
  -- Punctuation and equals signs are both loose, so no blank that stays is beside them.
  have hequals : tighten (· == '=') false cs = cs := by
    refine tighten_of_quiet (fun c hc => ?_) h
    simp only [isLoose, Bool.or_eq_false_iff] at hc
    exact hc.2
  rw [tidy, stripComments_of_quiet h, hcollapse, hpunctuation, hequals]

/-- A quiet text has no word that a rule takes. -/
theorem respell_of_quiet (h : isQuietFrom none cs = true) : respell cs = cs := by
  have harrays : substitute arrayRule cs = cs := by
    refine substitute_of_quiet (fun before c rest hquiet => ?_) h
    rw [arrayRule, (isQuietAt_iff.1 hquiet).2.2.2.1]
    rfl
  have hpicks : substitute partialPickRule cs = cs := by
    refine substitute_of_quiet (fun before c rest hquiet => ?_) h
    rw [partialPickRule, (isQuietAt_iff.1 hquiet).2.2.2.2]
    rfl
  rw [respell, harrays, hpicks]

/-- A quiet text is its own normal form. -/
theorem normalizeChars_of_quiet (h : isQuietFrom none cs = true) : normalizeChars cs = cs := by
  rw [normalizeChars, tidy_of_quiet h, maxPasses, respellUpTo, respell_of_quiet h]
  exact if_pos rfl

end Quiet

/-! ### Literals -/

/-- A string literal in single quotes. -/
structure Literal where
  /-- Its value. -/
  value : List Char
  /-- No quote ends the literal early. -/
  quote : '\x27' ∉ value
  /-- No character is escaped. -/
  backslash : '\\' ∉ value
deriving DecidableEq

namespace Literal

/-- A literal is its value. -/
theorem ext {a b : Literal} (h : a.value = b.value) : a = b := by
  cases a
  cases b
  cases h
  rfl

/-- The text of a literal. -/
def chars (literal : Literal) : List Char :=
  '\x27' :: (literal.value ++ ['\x27'])

@[inherit_doc chars]
def text (literal : Literal) : String :=
  String.ofList literal.chars

/-- The literal with this value. -/
def ofText (value : String) (h : (!value.toList.contains '\x27' && !value.toList.contains '\\') = true) :
    Literal where
  value := value.toList
  quote := by simp at h; exact h.1
  backslash := by simp at h; exact h.2

/-- Whether nothing is rewritten in the literal. -/
def isQuiet (literal : Literal) : Bool :=
  isQuietFrom none literal.chars

/-- Literals with the same text have the same value. -/
theorem chars_inj {a b : Literal} (h : a.chars = b.chars) : a = b := by
  rw [chars, chars, List.cons.injEq, List.append_cancel_right_eq] at h
  exact ext h.2

/-- A literal has its quotes. -/
theorem chars_ne_nil (literal : Literal) : literal.chars ≠ [] :=
  List.cons_ne_nil _ _

/-- A separator inside a literal separates nothing. -/
theorem passes (separator : Char) (literal : Literal) : Passes separator 0 literal.chars := by
  -- Inside the literal the scan waits for the quote.
  have hinside (value : List Char) (scan : Scan) (hvalue : '\x27' ∉ value ∧ '\\' ∉ value)
      (hquote : scan.quote = some '\x27') (hdepth : scan.depth = 0)
      (hprevious : scan.previous ≠ some '\\') :
      closesFrom separator scan (value ++ ['\x27']) = true := by
    induction value generalizing scan with
    | nil => simp [closesFrom, Scan.isCut, Scan.closes, Scan.next, hquote, hdepth, hprevious]
    | cons c value ih =>
      simp only [List.mem_cons, not_or] at hvalue
      obtain ⟨⟨hcQuote, hquotes⟩, hcBackslash, hbackslashes⟩ := hvalue
      have hnext : scan.next c = { scan with previous := some c } := by
        simp [Scan.next, hquote, Ne.symm hcQuote]
      have hrest := ih (scan.next c) ⟨hquotes, hbackslashes⟩ (by rw [hnext]; exact hquote)
        (by rw [hnext]; exact hdepth) (by rw [hnext]; simpa using Ne.symm hcBackslash)
      rw [List.cons_append, closesFrom, hrest]
      simp [Scan.isCut, Scan.closes, hquote]
  refine passes_of_isClosed ?_
  have hopen : ({} : Scan).next '\x27' = { quote := some '\x27', previous := some '\x27' } := rfl
  rw [isClosed, chars, closesFrom, hopen, hinside _ _ ⟨literal.quote, literal.backslash⟩ rfl rfl (by simp)]
  simp [Scan.isCut, Scan.closes]

end Literal

/-- The text of a union of literals. -/
def literalsChars (literals : List Literal) : List Char :=
  ['|'].intercalate (literals.map Literal.chars)

@[inherit_doc literalsChars]
def literalsText (literals : List Literal) : String :=
  String.ofList (literalsChars literals)

section Union

variable {literals others : List Literal}

/-- A scan passes over literals, whatever the separator is. -/
theorem pieces_pass (separator : Char) (literals : List Literal) :
    ∀ piece ∈ literals.map Literal.chars, Passes separator 0 piece ∧ piece ≠ [] := by
  intro piece hpiece
  obtain ⟨literal, -, rfl⟩ := List.mem_map.1 hpiece
  exact ⟨literal.passes separator, literal.chars_ne_nil⟩

/-- A union tells its literals. -/
theorem literalsChars_inj (h : literalsChars literals = literalsChars others) : literals = others := by
  have hpieces := join_inj (by decide) (pieces_pass '|' literals) (pieces_pass '|' others) h
  exact List.map_injective_iff.2 (fun _ _ => Literal.chars_inj) hpieces

/-- Sorting a union of literals puts the literals in order. -/
theorem sort_literalsChars (literals : List Literal) :
    sortUnionsAndIntersections (literalsChars literals) =
      literalsChars (sortByText Literal.chars literals) := by
  by_cases hnil : literals = []
  · simp [hnil, sortByText, literalsChars, sortUnionsAndIntersections]
  · have hperm := sortByText_perm Literal.chars literals
    have hsorted : sortByText Literal.chars literals ≠ [] := fun heq =>
      hnil (hperm.symm.trans (heq ▸ .refl _)).eq_nil
    have hunion : sortMembers '|' (literalsChars literals) =
        literalsChars (sortByText Literal.chars literals) := by
      rw [literalsChars, sortMembers_join (by decide) (by simpa using hnil) (pieces_pass '|' _),
        sortPieces_map]
      rfl
    -- A literal is a single piece also where it is cut at the other sign.
    have hmember (literal : Literal) : sortMembers '&' literal.chars = literal.chars := by
      have hsingle := sortMembers_join (by decide) (List.cons_ne_nil literal.chars [])
        (pieces_pass '&' [literal])
      rwa [sortPieces, List.mergeSort_singleton, List.intercalate_singleton] at hsingle
    have hsplit : splitTopLevel '|' (literalsChars (sortByText Literal.chars literals)) =
        (sortByText Literal.chars literals).map Literal.chars :=
      splitTopLevel_join (by decide) (by simpa using hsorted) fun piece hpiece =>
        (pieces_pass '|' _ piece hpiece).1
    rw [sortUnionsAndIntersections_eq, hunion, hsplit, List.map_map, literalsChars]
    exact congrArg _ (List.map_congr_left fun literal _ => hmember literal)

/-! ### Quiet unions -/

/-- What stands behind a quote does not show before it. -/
theorem isPrefixOf_quote {word : List Char} (hword : '\x27' ∉ word) (cs rest : List Char) :
    word.isPrefixOf (cs ++ '\x27' :: rest) = word.isPrefixOf (cs ++ ['\x27']) := by
  induction word generalizing cs with
  | nil => rfl
  | cons c word ih =>
    simp only [List.mem_cons, not_or] at hword
    cases cs with
    | nil =>
      have hc : (c == '\x27') = false := beq_eq_false_iff_ne.2 (Ne.symm hword.1)
      simp [List.isPrefixOf, hc]
    | cons d cs => simp [List.isPrefixOf, ih hword.2 cs]

/-- A line comment starts with two slashes, here at the start of a line or behind this character. -/
theorem isNone_lineComment (before : Option Char) (c : Char) (rest : List Char) :
    (lineComment before (c :: rest)).isNone =
      !((before.isNone || before == some '\n') && ['/', '/'].isPrefixOf (c :: rest) ||
        c != ':' && ['/', '/'].isPrefixOf rest) := by
  -- A comment begins with two slashes at the start of a line, or with a character that is no colon
  -- before them.
  simp only [lineComment]
  split
  · rename_i hstart heq
    simp [hstart, heq]
  · rename_i d more heq hstart
    cases heq
    have hnot : ((before.isNone || before == some '\n') &&
        ['/', '/'].isPrefixOf (c :: '/' :: '/' :: more)) = false := by
      refine Bool.and_eq_false_imp.2 fun hline => ?_
      simpa [List.isPrefixOf] using Ne.symm (hstart hline)
    rw [hnot]
    by_cases hc : c = ':' <;> simp [hc]
  · rename_i hbehind hstart
    have hnot : ((before.isNone || before == some '\n') &&
        ['/', '/'].isPrefixOf (c :: rest)) = false := by
      refine Bool.and_eq_false_imp.2 fun hline => Bool.eq_false_iff.2 fun hslashes => ?_
      obtain ⟨more, hmore⟩ := List.isPrefixOf_iff_prefix.1 hslashes
      exact hstart more hline hmore.symm
    have hrest : ['/', '/'].isPrefixOf rest = false := by
      refine Bool.eq_false_iff.2 fun hslashes => ?_
      obtain ⟨more, rfl⟩ := List.isPrefixOf_iff_prefix.1 hslashes
      exact hbehind c more rfl
    simp [hnot, hrest]

/-- Whether a place before a quote is quiet does not depend on what stands behind the quote. -/
theorem isQuietAt_quote (before : Option Char) (c : Char) (cs rest : List Char) :
    isQuietAt before c (cs ++ '\x27' :: rest) = isQuietAt before c (cs ++ ['\x27']) := by
  -- What the steps look for has no quote, so the closing quote ends every search.
  have hword (word : List Char) (hword : '\x27' ∉ word) :
      word.isPrefixOf (c :: (cs ++ '\x27' :: rest)) = word.isPrefixOf (c :: (cs ++ ['\x27'])) :=
    isPrefixOf_quote hword (c :: cs) rest
  have hblank : blankStays before c (cs ++ '\x27' :: rest) = blankStays before c (cs ++ ['\x27']) := by
    cases cs <;> rfl
  have hafter (word : List Char) (hquote : '\x27' ∉ word) :
      (afterWord? word before (c :: (cs ++ '\x27' :: rest))).isNone =
        (afterWord? word before (c :: (cs ++ ['\x27']))).isNone := by
    rw [afterWord?, afterWord?, hword word hquote]
    split <;> rfl
  rw [isQuietAt, isQuietAt, isNone_lineComment, isNone_lineComment, hword _ (by decide),
    hword _ (by decide), isPrefixOf_quote (by decide), hblank, hafter _ (by decide),
    hafter _ (by decide)]

/-- A quote or a sign is quiet unless a line comment follows it. -/
theorem isQuietAt_mark {c : Char} (hc : c = '\x27' ∨ c = '|') (before : Option Char)
    (rest : List Char) : isQuietAt before c rest = !(['/', '/'].isPrefixOf rest) := by
  rw [isQuietAt, isNone_lineComment, afterWord?, afterWord?]
  rcases hc with rfl | rfl
  · have hblank : isBlank '\x27' = false := by decide
    simp [hblank, List.isPrefixOf]
  · have hblank : isBlank '|' = false := by decide
    simp [hblank, List.isPrefixOf]

/-- A literal in front of a sign is as quiet as it is alone. -/
theorem isQuietFrom_quote (before : Option Char) (cs rest : List Char) :
    isQuietFrom before (cs ++ '\x27' :: '|' :: rest) =
      (isQuietFrom before (cs ++ ['\x27']) && isQuietFrom (some '\x27') ('|' :: rest)) := by
  induction cs generalizing before with
  | nil => simp [isQuietFrom, isQuietAt_mark (Or.inl rfl), List.isPrefixOf]
  | cons c cs ih =>
    rw [List.cons_append, List.cons_append, isQuietFrom, isQuietFrom, isQuietAt_quote, ih, Bool.and_assoc]

/-- Whether a literal is quiet does not depend on what stands before it. -/
theorem Literal.isQuietFrom_eq (literal : Literal) (before : Option Char) :
    isQuietFrom before literal.chars = literal.isQuiet := by
  rw [isQuiet, chars, isQuietFrom, isQuietFrom, isQuietAt_mark (Or.inl rfl), isQuietAt_mark (Or.inl rfl)]

/-- Quiet literals make a quiet union. -/
theorem isQuietFrom_literalsChars (before : Option Char)
    (h : ∀ literal ∈ literals, literal.isQuiet = true) :
    isQuietFrom before (literalsChars literals) = true := by
  induction literals generalizing before with
  | nil => rfl
  | cons literal more ih =>
    rw [List.forall_mem_cons] at h
    -- Between two literals stands a bar with quotes on both sides, which is quiet.
    cases more with
    | nil =>
      rw [literalsChars, List.map_singleton, List.intercalate_singleton, literal.isQuietFrom_eq]
      exact h.1
    | cons next more =>
      have hsplit : literalsChars (literal :: next :: more) =
          ('\x27' :: literal.value) ++ '\x27' :: '|' :: literalsChars (next :: more) := by
        simp [literalsChars, Literal.chars, List.intercalate_cons_cons]
      have hsign : isQuietAt (some '\x27') '|' (literalsChars (next :: more)) = true := by
        have hquote : ∃ rest, literalsChars (next :: more) = '\x27' :: rest := by
          cases more <;> simp [literalsChars, Literal.chars, List.intercalate_cons_cons]
        obtain ⟨rest, hrest⟩ := hquote
        rw [isQuietAt_mark (Or.inr rfl), hrest]
        rfl
      rw [hsplit, isQuietFrom_quote, isQuietFrom, hsign, ih _ h.2]
      have hliteral := literal.isQuietFrom_eq before
      rw [h.1] at hliteral
      simpa [Literal.chars] using hliteral

/-- The canonical text of a union of quiet literals shows the literals in order. -/
theorem canonical_literalsText (h : ∀ literal ∈ literals, literal.isQuiet = true) :
    canonical (literalsText literals) = literalsText (sortByText Literal.chars literals) := by
  rw [literalsText, canonical_ofList, canonicalChars,
    normalizeChars_of_quiet (isQuietFrom_literalsChars none h), sort_literalsChars, literalsText]

/-- Unions of quiet literals have one canonical text exactly if they have the same members. -/
theorem canonical_literalsText_eq_iff (h : ∀ literal ∈ literals, literal.isQuiet = true)
    (hothers : ∀ literal ∈ others, literal.isQuiet = true) :
    canonical (literalsText literals) = canonical (literalsText others) ↔ literals.Perm others := by
  have hperm (items : List Literal) := sortByText_perm Literal.chars items
  rw [canonical_literalsText h, canonical_literalsText hothers, literalsText, literalsText,
    String.ofList_inj]
  constructor
  · intro heq
    have hsorted := literalsChars_inj heq
    exact (hperm literals).symm.trans (hsorted ▸ hperm others)
  · intro heq
    rw [sortByText_eq_of_perm heq fun _ _ _ _ => Literal.chars_inj]

end Union

/-! ### Comments in literals -/

/-- The literal with an empty comment in front of its value. -/
def Literal.commented (literal : Literal) : Literal where
  value := ['/', '*', '*', '/'] ++ literal.value
  quote := by simpa using literal.quote
  backslash := by simpa using literal.backslash

/-- A comment is a part of the value. -/
theorem Literal.commented_ne (literal : Literal) : literal.commented ≠ literal := by
  intro heq
  have hlength := congrArg (fun literal => literal.value.length) heq
  simp [commented] at hlength
  omega

/-- But it is not a part of the canonical text. -/
theorem Literal.canonical_commented (literal : Literal) :
    canonical literal.commented.text = canonical literal.text := by
  have hblind : Rule.Blind blockComment := by
    intro before cs
    unfold blockComment
    split <;> simp_all
  have hpass : substitute blockComment literal.commented.chars =
      substitute blockComment literal.chars := by
    -- The comment is empty and is cut out as a whole.
    have hcomment (rest : List Char) :
        blockComment none (['/', '*', '*', '/'] ++ rest) = some (4, []) := by
      simp [blockComment, afterFirst]
      omega
    have hchars : literal.commented.chars =
        '\x27' :: (['/', '*', '*', '/'] ++ (literal.value ++ ['\x27'])) := rfl
    rw [hchars, hblind.substitute_cons rfl,
      hblind.substitute_append (List.cons_ne_nil _ _) (hcomment _), chars, hblind.substitute_cons rfl,
      List.nil_append]
  rw [text, text, canonical_ofList, canonical_ofList, canonicalChars, canonicalChars, normalizeChars,
    normalizeChars, tidy, tidy, stripComments, stripComments, hpass]

/-! ### Values told apart -/

/-- Unions of quiet literals have one canonical text exactly if they have the same members, so another
value in place of one that is not in the union changes the text. But no literal has its canonical text
for itself: an empty comment in front of its value goes unseen. -/
theorem canonical_literals (literals others : List Literal)
    (h : ∀ literal ∈ literals, literal.isQuiet = true)
    (hothers : ∀ literal ∈ others, literal.isQuiet = true) :
    (canonical (literalsText literals) = canonical (literalsText others) ↔ literals.Perm others) ∧
    (∀ before old after new, literals = before ++ old :: after → new.isQuiet = true →
      new ∉ literals →
      canonical (literalsText (before ++ new :: after)) ≠ canonical (literalsText literals)) ∧
    ∀ literal : Literal,
      literal.commented ≠ literal ∧ canonical literal.commented.text = canonical literal.text := by
  refine ⟨canonical_literalsText_eq_iff h hothers, ?_, ?_⟩
  · intro before old after new hliterals hnew hmem heq
    -- The changed list is quiet, too, so equal texts make it an arrangement of the old one, which
    -- has no new member.
    have hchanged : ∀ literal ∈ before ++ new :: after, literal.isQuiet = true := by
      intro literal hliteral
      rw [List.mem_append, List.mem_cons] at hliteral
      rcases hliteral with hliteral | rfl | hliteral
      · exact h literal (hliterals ▸ List.mem_append_left _ hliteral)
      · exact hnew
      · exact h literal (hliterals ▸ List.mem_append_right _ (List.mem_cons_of_mem _ hliteral))
    have hperm := (canonical_literalsText_eq_iff hchanged h).1 heq
    exact hmem (hperm.mem_iff.1 (List.mem_append_right _ List.mem_cons_self))
  · intro literal
    exact ⟨literal.commented_ne, literal.canonical_commented⟩

/-- Addresses and single spaces are kept. -/
theorem canonical_literals_address :
    ∃ address spaced other : Literal, literalsText [address, spaced] = "'http://a.b/c'|' d e '" ∧
      other.text = "'http://a.b'" ∧
      (∀ literal ∈ [address, spaced], literal.isQuiet = true) ∧ other.isQuiet = true ∧
      canonical (literalsText [address, spaced]) = canonical (literalsText [spaced, address]) ∧
      canonical (literalsText [other, spaced]) ≠ canonical (literalsText [address, spaced]) := by
  let address := Literal.ofText "http://a.b/c" (by decide)
  let spaced := Literal.ofText " d e " (by decide)
  let other := Literal.ofText "http://a.b" (by decide)
  have haddress : address.isQuiet = true := by decide
  have hspaced : spaced.isQuiet = true := by decide
  have hother : other.isQuiet = true := by decide
  have hquiet : ∀ literal ∈ [address, spaced], literal.isQuiet = true := by
    simp [haddress, hspaced]
  have hswapped : ∀ literal ∈ [spaced, address], literal.isQuiet = true := by
    simp [haddress, hspaced]
  obtain ⟨hperm, hchange, -⟩ := canonical_literals _ _ hquiet hswapped
  exact ⟨address, spaced, other, rfl, rfl, hquiet, hother, hperm.2 (.swap _ _ _),
    hchange [] address [spaced] other rfl hother (by decide)⟩

/-- Runs of blanks, blanks beside punctuation, comments and spellings inside a literal are rewritten. -/
theorem literals_conflated :
    ∃ pairs : List (Literal × Literal),
      pairs.map (fun pair => (pair.1.text, pair.2.text)) =
        [("'a  b'", "'a b'"), ("'a, b'", "'a,b'"), ("'a/*b*/'", "'a'"), ("'a//b'", "'a//c'"),
          ("'Array<a>'", "'a[]'")] ∧
      ∀ pair ∈ pairs, pair.1 ≠ pair.2 ∧ canonical pair.1.text = canonical pair.2.text := by
  have htext {left right : Literal} (h : canonicalChars left.chars = canonicalChars right.chars) :
      canonical left.text = canonical right.text := by
    rw [Literal.text, Literal.text, canonical_ofList, canonical_ofList, h]
  let a := Literal.ofText "a" (by decide)
  let run := Literal.ofText "a  b" (by decide)
  let space := Literal.ofText "a b" (by decide)
  let spacedComma := Literal.ofText "a, b" (by decide)
  let comma := Literal.ofText "a,b" (by decide)
  let comment := Literal.ofText "a/*b*/" (by decide)
  let lineComment := Literal.ofText "a//b" (by decide)
  let otherComment := Literal.ofText "a//c" (by decide)
  let array := Literal.ofText "Array<a>" (by decide)
  let brackets := Literal.ofText "a[]" (by decide)
  -- One pair for each of the steps that look into literals.
  refine ⟨[(run, space), (spacedComma, comma), (comment, a), (lineComment, otherComment),
    (array, brackets)], rfl, ?_⟩
  simp only [List.forall_mem_cons, List.not_mem_nil, false_imp_iff, implies_true, and_true]
  refine ⟨⟨by decide, htext ?_⟩, ⟨by decide, htext ?_⟩, ⟨by decide, htext ?_⟩, ⟨by decide, htext ?_⟩,
    by decide, htext ?_⟩
  all_goals decide +kernel

end ChangeLens.TypeText
