import ChangeLens.CalleePath
import ChangeLens.Proofs.ClosedText
import ChangeLens.Proofs.Substitution

/-!
# `ChangeLens.Proofs.CalleePaths`: all spellings of a chain of segments have one path

A callee is a chain of segments, and each segment after the first can be spelled in six ways:
`.s`, `?.s`, `["s"]`, `['s']`, `?.["s"]` and `?.['s']`. The whole may end in `?.`. `normalizeChars`
rewrites such a text in four steps, each over the whole of it:

    a?.["b"]['c']?.   a.["b"]['c'].   a..b.c.   a.b.c.   a.b.c

`Sends` describes a step locally: it makes one text of another one whatever follows. Texts that are
sent can be put one behind the other, so it is enough to look at one segment in each spelling
(`sends_optional`, `sends_bracketAccess`, `sends_collapseDots`). No match of a step begins inside a
name, because no name holds a character that a match begins with.

`normalize_chain` is the main result: the path is the segments with dots between them, so chains have
one path exactly if they have the same segments, and a path is its own path.
-/

set_option autoImplicit false

namespace ChangeLens.CalleePath

open ChangeLens.Text
open ChangeLens.TypeText (Name isNameChar ne_of_isNameChar isBlank_of_isNameChar join_inj)

/-! ### Chains -/

/-- The quotes around a segment in brackets. -/
inductive Quote where
  | single
  | double
deriving DecidableEq

/-- How a segment after the first is spelled. -/
inductive Spelling where
  | dot
  | optional
  | bracket (quote : Quote)
  | optionalBracket (quote : Quote)
deriving DecidableEq

/-- The character of a quote. -/
def Quote.char : Quote → Char
  | .single => '\x27'
  | .double => '"'

/-- A segment in brackets. -/
def inBrackets (quote : Quote) (segment : Name) : List Char :=
  '[' :: quote.char :: (segment.chars ++ [quote.char, ']'])

/-- The text of a segment. -/
def Spelling.chars (spelling : Spelling) (segment : Name) : List Char :=
  match spelling with
  | .dot => '.' :: segment.chars
  | .optional => '?' :: '.' :: segment.chars
  | .bracket quote => inBrackets quote segment
  | .optionalBracket quote => '?' :: '.' :: inBrackets quote segment

/-- A callee: its first segment, the others as they are spelled, and whether the call itself is
optional. -/
structure Chain where
  /-- The first segment. -/
  first : Name
  /-- The other segments. -/
  rest : List (Spelling × Name)
  /-- Whether `?.` stands at the end. -/
  optionalCall : Bool
deriving DecidableEq

namespace Chain

/-- The segments of a chain. -/
def segments (chain : Chain) : List Name :=
  chain.first :: chain.rest.map Prod.snd

/-- The text of a chain. -/
def chars (chain : Chain) : List Char :=
  chain.first.chars ++ (chain.rest.flatMap fun segment => segment.1.chars segment.2) ++
    if chain.optionalCall then ['?', '.'] else []

/-- The text of a chain. -/
def text (chain : Chain) : String :=
  String.ofList chain.chars

end Chain

/-- Segments with dots between them. -/
def dotted (segments : List Name) : List Char :=
  ['.'].intercalate (segments.map Name.chars)

/-- Segments with dots between them. -/
def dottedText (segments : List Name) : String :=
  String.ofList (dotted segments)

/-- A dotted path is its first segment and the others with a dot before each. -/
theorem dotted_cons (first : Name) (rest : List Name) :
    dotted (first :: rest) = first.chars ++ rest.flatMap fun segment => '.' :: segment.chars := by
  induction rest generalizing first with
  | nil => simp [dotted]
  | cons second rest ih =>
    have hstep : dotted (first :: second :: rest) = first.chars ++ '.' :: dotted (second :: rest) := by
      simp [dotted, List.intercalate_cons_cons]
    rw [hstep, ih, List.flatMap_cons, List.cons_append]

/-- No segment has a dot, so a dotted path tells its segments. -/
theorem dotted_inj {xs ys : List Name} (h : dotted xs = dotted ys) : xs = ys := by
  have hpieces (names : List Name) : ∀ piece ∈ names.map Name.chars,
      TypeText.Passes '.' 0 piece ∧ piece ≠ [] := by
    intro piece hpiece
    obtain ⟨name, -, rfl⟩ := List.mem_map.1 hpiece
    exact ⟨name.passes (by decide) (by decide), name.nonempty⟩
  have hchars := join_inj (by decide) (hpieces xs) (hpieces ys) h
  exact List.map_injective_iff.2 (fun _ _ => Name.ext) hchars

/-! ### Rewriting one piece after the other -/

/-- The rewriting makes `out` of `cs`, whatever follows. -/
def Sends (rewrite : List Char → List Char) (cs out : List Char) : Prop :=
  ∀ rest, rewrite (cs ++ rest) = out ++ rewrite rest

section Sends

variable {rewrite : List Char → List Char} {cs ds out out' : List Char}

/-- A rewriting sends nothing to nothing. -/
theorem sends_nil : Sends rewrite [] [] := fun _ => rfl

/-- Pieces are sent one after the other. -/
theorem Sends.append (hcs : Sends rewrite cs out) (hds : Sends rewrite ds out') :
    Sends rewrite (cs ++ ds) (out ++ out') := by
  intro rest
  rw [List.append_assoc, hcs, hds, List.append_assoc]

/-- So are the pieces of a list. -/
theorem Sends.flatMap {α : Type} {piece piece' : α → List Char} {items : List α}
    (h : ∀ item ∈ items, Sends rewrite (piece item) (piece' item)) :
    Sends rewrite (items.flatMap piece) (items.flatMap piece') := by
  induction items with
  | nil => exact sends_nil
  | cons item items ih =>
    rw [List.forall_mem_cons] at h
    rw [List.flatMap_cons, List.flatMap_cons]
    exact h.1.append (ih h.2)

/-- A chain keeps its shape when each piece is rewritten. -/
theorem Sends.whole (h : Sends rewrite cs out) (hend : rewrite ds = out') :
    rewrite (cs ++ ds) = out ++ out' := by
  rw [h, hend]

/-- A text in which the rule matches nowhere is sent to itself. -/
theorem sends_of_none {rule : Rule} (hblind : rule.Blind)
    (h : ∀ c ∈ cs, ∀ rest, rule none (c :: rest) = none) : Sends (substitute rule) cs cs := by
  induction cs with
  | nil => exact sends_nil
  | cons c cs ih =>
    rw [List.forall_mem_cons] at h
    intro rest
    rw [List.cons_append, hblind.substitute_cons (h.1 _), ih h.2]
    rfl

/-- A text that the rule matches as a whole is sent to what is put in its place. -/
theorem sends_of_match {rule : Rule} (hblind : rule.Blind) (hne : cs ≠ [])
    (h : ∀ rest, rule none (cs ++ rest) = some (cs.length, out)) : Sends (substitute rule) cs out :=
  fun rest => hblind.substitute_append hne (h rest)

end Sends

/-! ### Optional access -/

/-- `?.` is written as a dot. -/
abbrev optionalAccess : Rule := Rule.fixed ['?', '.'] ['.']

/-- The rule for optional access does not look back. -/
theorem optionalAccess_blind : optionalAccess.Blind := fun _ _ => rfl

/-- It matches at a question mark only. -/
theorem optionalAccess_eq_none {c : Char} (h : c ≠ '?') (rest : List Char) :
    optionalAccess none (c :: rest) = none := by
  simp [optionalAccess, Rule.fixed, h.symm]

/-- Optional access becomes access. -/
theorem sends_optional_mark : Sends (substitute optionalAccess) ['?', '.'] ['.'] :=
  sends_of_match optionalAccess_blind (List.cons_ne_nil _ _) fun _ => rfl

/-- What has no question mark stays as it is. -/
theorem sends_optional_of_not_mem {cs : List Char} (h : '?' ∉ cs) :
    Sends (substitute optionalAccess) cs cs :=
  sends_of_none optionalAccess_blind fun _ hc =>
    optionalAccess_eq_none fun heq => h (heq ▸ hc)

/-- A segment after `?.` was rewritten. -/
def Spelling.undemanding (spelling : Spelling) (segment : Name) : List Char :=
  match spelling with
  | .dot | .optional => '.' :: segment.chars
  | .bracket quote => inBrackets quote segment
  | .optionalBracket quote => '.' :: inBrackets quote segment

/-- A spelling of a segment loses its question mark and nothing else. -/
theorem sends_optional (spelling : Spelling) (segment : Name) :
    Sends (substitute optionalAccess) (spelling.chars segment) (spelling.undemanding segment) := by
  have hsegment : '?' ∉ segment.chars := segment.not_mem (by decide)
  have hbrackets (quote : Quote) : '?' ∉ inBrackets quote segment := by
    cases quote <;> simp [inBrackets, Quote.char, hsegment]
  cases spelling with
  | dot => exact sends_optional_of_not_mem (by simp [Spelling.chars, hsegment])
  | optional => exact sends_optional_mark.append (sends_optional_of_not_mem hsegment)
  | bracket quote => exact sends_optional_of_not_mem (hbrackets quote)
  | optionalBracket quote => exact sends_optional_mark.append (sends_optional_of_not_mem (hbrackets quote))

/-! ### Access by brackets -/

/-- The rule for brackets does not look back. -/
theorem bracketAccess_blind : bracketAccess.Blind := by
  intro before cs
  cases cs with
  | nil => rfl
  | cons c rest => by_cases h : c = '[' <;> simp [bracketAccess, h]

/-- It matches at a bracket only. -/
theorem bracketAccess_eq_none {c : Char} (h : c ≠ '[') (rest : List Char) :
    bracketAccess none (c :: rest) = none := by
  simp [bracketAccess, h]

/-- What has no opening bracket stays as it is. -/
theorem sends_bracket_of_not_mem {cs : List Char} (h : '[' ∉ cs) :
    Sends (substitute bracketAccess) cs cs :=
  sends_of_none bracketAccess_blind fun _ hc => bracketAccess_eq_none fun heq => h (heq ▸ hc)

/-- Brackets around a quoted name are found and replaced. -/
theorem bracketAccess_inBrackets (quote : Quote) (segment : Name) (rest : List Char) :
    bracketAccess none (inBrackets quote segment ++ rest) =
      some ((inBrackets quote segment).length, '.' :: segment.chars) := by
  -- Neither quote is a blank, so nothing is skipped between the bracket and the name.
  have hquote : isBlank quote.char = false := by cases quote <;> decide
  have hquotes : quote.char = '\x27' ∨ quote.char = '"' := by cases quote <;> simp [Quote.char]
  -- The name ends at the quote that closes it.
  have hsegment : (segment.chars ++ quote.char :: ']' :: rest).takeWhile
      (fun c => c != '\x27' && c != '"' && c != ']') = segment.chars := by
    rw [List.takeWhile_append_of_pos]
    · cases quote <;> simp [Quote.char]
    · intro c hc
      have hname := segment.valid c hc
      have hsingle : c ≠ '\x27' := ne_of_isNameChar hname (by decide)
      have hdouble : c ≠ '"' := ne_of_isNameChar hname (by decide)
      have hbracket : c ≠ ']' := ne_of_isNameChar hname (by decide)
      simp [hsingle, hdouble, hbracket]
  have hclosing : isBlank ']' = false := by decide
  have htext : inBrackets quote segment ++ rest =
      '[' :: quote.char :: (segment.chars ++ quote.char :: ']' :: rest) := by
    simp [inBrackets]
  rw [htext, bracketAccess]
  simp only [List.dropWhile_cons, hquote, Bool.false_eq_true, if_false, hsegment, List.drop_left,
    hclosing, hquotes, Bool.or_eq_true, decide_eq_true_eq, if_true]
  simp only [inBrackets, List.length_cons, List.length_append, List.length_nil, Option.some.injEq,
    Prod.mk.injEq, and_true]
  omega

/-- A segment after brackets were rewritten: one dot or two. -/
def Spelling.unbracketed (spelling : Spelling) (segment : Name) : List Char :=
  match spelling with
  | .dot | .optional | .bracket _ => '.' :: segment.chars
  | .optionalBracket _ => '.' :: '.' :: segment.chars

/-- A spelling of a segment loses its brackets and quotes. -/
theorem sends_bracketAccess (spelling : Spelling) (segment : Name) :
    Sends (substitute bracketAccess) (spelling.undemanding segment)
      (spelling.unbracketed segment) := by
  have hsegment : '[' ∉ segment.chars := segment.not_mem (by decide)
  have hdot : Sends (substitute bracketAccess) ('.' :: segment.chars) ('.' :: segment.chars) :=
    sends_bracket_of_not_mem (by simp [hsegment])
  -- Only brackets are rewritten here; a question mark has become a dot before.
  have hbrackets (quote : Quote) :
      Sends (substitute bracketAccess) (inBrackets quote segment) ('.' :: segment.chars) :=
    sends_of_match bracketAccess_blind (List.cons_ne_nil _ _)
      (bracketAccess_inBrackets quote segment)
  cases spelling with
  | dot => exact hdot
  | optional => exact hdot
  | bracket quote => exact hbrackets quote
  | optionalBracket quote =>
    have hmark : Sends (substitute bracketAccess) ['.'] ['.'] :=
      sends_bracket_of_not_mem (by decide)
    exact hmark.append (hbrackets quote)

/-! ### Runs of dots -/

/-- A segment has no dots to collapse. -/
theorem sends_collapse_name (segment : Name) :
    Sends (collapseDots false) segment.chars segment.chars := by
  have hchars (cs : List Char) (h : '.' ∉ cs) : Sends (collapseDots false) cs cs := by
    induction cs with
    | nil => exact sends_nil
    | cons c cs ih =>
      rw [List.mem_cons, not_or] at h
      intro rest
      rw [List.cons_append, collapseDots, if_neg (Ne.symm h.1), ih h.2]
      rfl
  exact hchars _ (segment.not_mem (by decide))

/-- A name ends a run of dots. -/
theorem collapseDots_name (inRun : Bool) (segment : Name) (rest : List Char) :
    collapseDots inRun (segment.chars ++ rest) = segment.chars ++ collapseDots false rest := by
  obtain ⟨c, more, hchars⟩ := List.exists_cons_of_ne_nil segment.nonempty
  have hc : c ≠ '.' := ne_of_isNameChar (segment.valid c (by simp [hchars])) (by decide)
  rw [← sends_collapse_name segment rest, hchars, List.cons_append, collapseDots, collapseDots,
    if_neg hc, if_neg hc]

/-- The dots before a segment become one. -/
theorem sends_collapseDots (spelling : Spelling) (segment : Name) :
    Sends (collapseDots false) (spelling.unbracketed segment) ('.' :: segment.chars) := by
  have hone : Sends (collapseDots false) ('.' :: segment.chars) ('.' :: segment.chars) := by
    intro rest
    rw [List.cons_append, collapseDots, if_pos rfl, if_neg Bool.false_ne_true, collapseDots_name]
    rfl
  cases spelling with
  | dot => exact hone
  | optional => exact hone
  | bracket quote => exact hone
  -- An optional bracket has left two dots, one for the mark and one for the bracket.
  | optionalBracket quote =>
    intro rest
    show collapseDots false ('.' :: '.' :: (segment.chars ++ rest)) = _
    rw [collapseDots, if_pos rfl, if_neg Bool.false_ne_true, collapseDots, if_pos rfl, if_pos rfl,
      collapseDots_name]
    rfl

/-! ### The path of a chain -/

/-- Dots at the end are taken off, and a path has none at its ends. -/
theorem stripWhile_dotted (first : Name) (rest : List Name) (last : List Char)
    (hlast : last = [] ∨ last = ['.']) :
    stripWhile (· == '.') (dotted (first :: rest) ++ last) = dotted (first :: rest) := by
  -- The first segment begins with a name character, so nothing is stripped in front.
  have hstart : ((dotted (first :: rest) ++ last).dropWhile (· == '.')) =
      dotted (first :: rest) ++ last := by
    obtain ⟨c, more, hchars⟩ := List.exists_cons_of_ne_nil first.nonempty
    have hc : c ≠ '.' := ne_of_isNameChar (first.valid c (by simp [hchars])) (by decide)
    rw [dotted_cons, hchars]
    simp [hc]
  -- The last segment ends in a name character.
  have hend : ∃ before c, dotted (first :: rest) = before ++ [c] ∧ c ≠ '.' := by
    have hname (before : List Char) (segment : Name) :
        ∃ before' c, before ++ segment.chars = before' ++ [c] ∧ c ≠ '.' := by
      obtain ⟨init, c, hchars⟩ := (List.eq_nil_or_concat' segment.chars).resolve_left segment.nonempty
      refine ⟨before ++ init, c, by rw [hchars, List.append_assoc], ?_⟩
      exact ne_of_isNameChar (segment.valid c (by simp [hchars])) (by decide)
    rw [dotted_cons]
    rcases List.eq_nil_or_concat' rest with rfl | ⟨init, segment, rfl⟩
    · simpa using hname [] first
    · have hlastSegment := hname (first.chars ++ (init.flatMap fun s => '.' :: s.chars) ++ ['.']) segment
      simpa [List.flatMap_append] using hlastSegment
  obtain ⟨before, c, hdotted, hc⟩ := hend
  rw [stripWhile, hstart, dropWhileEnd, hdotted]
  rcases hlast with rfl | rfl <;> simp [hc]

/-- However a chain is spelled, its path is its segments with dots between them. -/
theorem normalizeChars_chain (chain : Chain) :
    normalizeChars chain.chars = dotted chain.segments := by
  obtain ⟨first, rest, optionalCall⟩ := chain
  let last : List Char := if optionalCall then ['.'] else []
  have hfirst {sign : Char} (hsign : isNameChar sign = false) : sign ∉ first.chars :=
    first.not_mem hsign
  -- The three rewritings one after the other; each works on the segments one by one and leaves a
  -- dot at the end as it is.
  have hoptional : substitute optionalAccess (Chain.chars ⟨first, rest, optionalCall⟩) =
      first.chars ++ (rest.flatMap fun segment => segment.1.undemanding segment.2) ++ last := by
    refine Sends.whole ((sends_optional_of_not_mem (hfirst (by decide))).append
      (Sends.flatMap fun segment _ => sends_optional segment.1 segment.2)) ?_
    cases optionalCall <;> rfl
  have hbracket : substitute bracketAccess
      (first.chars ++ (rest.flatMap fun segment => segment.1.undemanding segment.2) ++ last) =
      first.chars ++ (rest.flatMap fun segment => segment.1.unbracketed segment.2) ++ last := by
    refine Sends.whole ((sends_bracket_of_not_mem (hfirst (by decide))).append
      (Sends.flatMap fun segment _ => sends_bracketAccess segment.1 segment.2)) ?_
    cases optionalCall <;> rfl
  have hcollapse : collapseDots false
      (first.chars ++ (rest.flatMap fun segment => segment.1.unbracketed segment.2) ++ last) =
      first.chars ++ (rest.flatMap fun segment => '.' :: segment.2.chars) ++ last := by
    refine Sends.whole ((sends_collapse_name first).append
      (Sends.flatMap fun segment _ => sends_collapseDots segment.1 segment.2)) ?_
    cases optionalCall <;> rfl
  have hdotted : first.chars ++ (rest.flatMap fun segment => '.' :: segment.2.chars) =
      dotted (first :: rest.map Prod.snd) := by
    rw [dotted_cons, List.flatMap_map]
  show stripWhile (· == '.') (collapseDots false
    (substitute bracketAccess (substitute optionalAccess _))) = _
  rw [hoptional, hbracket, hcollapse, hdotted]
  refine stripWhile_dotted first (rest.map Prod.snd) last ?_
  cases optionalCall
  · exact Or.inl rfl
  · exact Or.inr rfl

/-- The chain with a dot before every segment. -/
def Chain.plain (chain : Chain) : Chain :=
  ⟨chain.first, chain.rest.map fun segment => (.dot, segment.2), false⟩

/-- The plain spelling of a chain is its dotted path. -/
theorem Chain.chars_plain (chain : Chain) : chain.plain.chars = dotted chain.segments := by
  rw [segments, dotted_cons, List.flatMap_map]
  simp [plain, chars, List.flatMap_map, Spelling.chars]

/-- Spelled plainly, a chain has the same segments. -/
theorem Chain.segments_plain (chain : Chain) : chain.plain.segments = chain.segments := by
  simp [plain, segments, Function.comp_def]

/-- The path of a callee is its segments with dots between them, however each of them is spelled. So
two callees have one path exactly if they have the same segments, and a path is its own path. -/
theorem normalize_chain (chain : Chain) :
    normalize chain.text = dottedText chain.segments ∧
    (∀ other : Chain,
      normalize chain.text = normalize other.text ↔ chain.segments = other.segments) ∧
    normalize (normalize chain.text) = normalize chain.text := by
  -- The path is that of the segments, whatever their spelling.
  have hpath (chain : Chain) : normalize chain.text = dottedText chain.segments := by
    rw [normalize, Chain.text, String.toList_ofList, normalizeChars_chain, dottedText]
  refine ⟨hpath chain, fun other => ?_, ?_⟩
  · rw [hpath, hpath]
    constructor
    · intro h
      exact dotted_inj (String.ofList_injective h)
    · intro h
      rw [h]
  · have hplain : normalize chain.text = chain.plain.text := by
      rw [hpath, Chain.text, chain.chars_plain, dottedText]
    rw [hplain, hpath, chain.segments_plain, ← hpath chain, hplain]

end ChangeLens.CalleePath
